import Switchboard.Yaml.Node
import Switchboard.Yaml.Token.Lexer

/-!
# From tokens to nodes

`Document.ofTokens?` reads the one document that tokens write. Anchors name nodes by numbers: the
number of a new anchor is that of the different names in front of it, and the last anchor of a name
gives the name its number. Where two anchors have one number, it belongs to the node that begins
last. Tag handles are replaced by their prefixes.
-/

namespace Switchboard.Yaml

namespace Node

/-- The tokens ahead, the anchors seen so far and the tag handles of the document. -/
structure Composer where
  tokens : List Token
  /-- The number of each name of an anchor. -/
  names : List (String × Nat) := []
  /-- Number and node of each anchor, the last to begin first. -/
  anchored : List (Nat × Node) := []
  handles : List (Tag × Tag) :=
    [(Text.Utf8.encode "!", Text.Utf8.encode "!"), (Text.Utf8.encode "!!", Tag.ofSchema "")]

namespace Composer

/-- The token ahead. -/
def head (s : Composer) : Token := s.tokens.headD .streamEnd

def drop (s : Composer) : Composer := { s with tokens := s.tokens.drop 1 }

/-- Gives a name to the node that begins here. The second component is the place of its anchor,
counted from the first one. -/
def register (s : Composer) (name : Option String) : Composer × Option Nat :=
  match name with
  | none => (s, none)
  | some n =>
    let number := s.names.length
    ({ s with
        names := (n, number) :: s.names.filter fun p => p.1 ≠ n
        anchored := (number, .absent) :: s.anchored },
      some s.anchored.length)

/-- Sets the node of the anchor at a place. -/
def complete (s : Composer) (place : Option Nat) (node : Node) : Composer :=
  match place with
  | none => s
  | some k =>
    { s with
      anchored := s.anchored.modify (s.anchored.length - 1 - k) fun a => (a.1, node) }

/-- The tag that a handle and a rest stand for. -/
def tag? (s : Composer) (handle suffix : Tag) : Option Tag :=
  if handle.isEmpty then some suffix else (s.handles.lookup handle).map (· ++ suffix)

/-- The anchor and the tag in front of a node, in either order. -/
def properties? (s : Composer) : Option (Option String × Option Tag × Composer) :=
  match s.head with
  | .anchor a =>
    let s := s.drop
    match s.head with
    | .tag h r => (s.tag? h r).map fun t => (some a, some t, s.drop)
    | _ => some (some a, none, s)
  | .tag h r =>
    match s.tag? h r with
    | none => none
    | some t =>
      let s := s.drop
      match s.head with
      | .anchor a => some (some a, some t, s.drop)
      | _ => some (none, some t, s)
  | _ => some (none, none, s)

mutual

/-- Reads a node. Block collections are admitted where `block`, sequences at the column of their
mapping where `indentless`. -/
def node? (block indentless : Bool) (fuel : Nat) (s : Composer) : Option (Node × Composer) :=
  match fuel with
  | 0 => none
  | fuel + 1 =>
    match s.head with
    | .alias name =>
      match s.names.lookup name with
      | some k => some (.alias k, s.drop)
      | none => none
    | _ =>
      match s.properties? with
      | none => none
      | some (anchor, tag, s) =>
        let (s, place) := s.register anchor
        let body : Option (Node × Composer) :=
          match s.head with
          | .scalar text style => some (.scalar tag style text, s.drop)
          | .flowSequence =>
            (flowItems? true fuel s.drop).map fun (ns, s) => (.sequence tag ns, s)
          | .flowMapping =>
            (flowEntries? true fuel s.drop).map fun (es, s) => (.mapping tag es, s)
          | .blockEntry =>
            if indentless then
              (indentlessItems? fuel s).map fun (ns, s) => (.sequence tag ns, s)
            else bare anchor tag s
          | .blockSequence =>
            if block then (blockItems? fuel s.drop).map fun (ns, s) => (.sequence tag ns, s)
            else bare anchor tag s
          | .blockMapping =>
            if block then (blockEntries? fuel s.drop).map fun (es, s) => (.mapping tag es, s)
            else bare anchor tag s
          | _ => bare anchor tag s
        body.map fun (n, s) => (n, s.complete place n)
where
  /-- A node of which only the properties are written. -/
  bare (anchor : Option String) (tag : Option Tag) (s : Composer) : Option (Node × Composer) :=
    if anchor.isSome || tag.isSome then some (.scalar tag .plain "", s) else none

/-- A node, or the empty one if the token ahead is one of those that end it. -/
def nodeUnless? (ends : List Token) (block indentless : Bool) (fuel : Nat) (s : Composer) :
    Option (Node × Composer) :=
  match fuel with
  | 0 => none
  | fuel + 1 => if ends.contains s.head then some (.empty, s) else node? block indentless fuel s

/-- The items of a block sequence up to its end. -/
def blockItems? (fuel : Nat) (s : Composer) : Option (List Node × Composer) :=
  match fuel with
  | 0 => none
  | fuel + 1 =>
    match s.head with
    | .blockEntry =>
      match nodeUnless? [.blockEntry, .blockEnd] true false fuel s.drop with
      | some (n, s) => (blockItems? fuel s).map fun (ns, s) => (n :: ns, s)
      | none => none
    | .blockEnd => some ([], s.drop)
    | _ => none

/-- The items of a sequence at the column of the mapping around it. -/
def indentlessItems? (fuel : Nat) (s : Composer) : Option (List Node × Composer) :=
  match fuel with
  | 0 => none
  | fuel + 1 =>
    match s.head with
    | .blockEntry =>
      match nodeUnless? [.blockEntry, .key, .value, .blockEnd] true false fuel s.drop with
      | some (n, s) => (indentlessItems? fuel s).map fun (ns, s) => (n :: ns, s)
      | none => none
    | _ => some ([], s)

/-- The entries of a block mapping up to its end. -/
def blockEntries? (fuel : Nat) (s : Composer) : Option (List (Node × Node) × Composer) :=
  match fuel with
  | 0 => none
  | fuel + 1 =>
    match s.head with
    | .key =>
      match nodeUnless? [.key, .value, .blockEnd] true true fuel s.drop with
      | none => none
      | some (k, s) =>
        let v :=
          match s.head with
          | .value => nodeUnless? [.key, .value, .blockEnd] true true fuel s.drop
          | _ => some (.empty, s)
        match v with
        | some (v, s) => (blockEntries? fuel s).map fun (es, s) => ((k, v) :: es, s)
        | none => none
    | .blockEnd => some ([], s.drop)
    | _ => none

/-- The items of a sequence in brackets up to its end. A key among them is a mapping of its own. -/
def flowItems? (first : Bool) (fuel : Nat) (s : Composer) : Option (List Node × Composer) :=
  match fuel with
  | 0 => none
  | fuel + 1 =>
    match s.head with
    | .flowSequenceEnd => some ([], s.drop)
    | t =>
      if !first && t != .flowEntry then none
      else
        let s := if first then s else s.drop
        match s.head with
        | .flowSequenceEnd => some ([], s.drop)
        | .key =>
          match flowPair? fuel s.drop with
          | some (n, s) => (flowItems? false fuel s).map fun (ns, s) => (n :: ns, s)
          | none => none
        | _ =>
          match node? false false fuel s with
          | some (n, s) => (flowItems? false fuel s).map fun (ns, s) => (n :: ns, s)
          | none => none

/-- A mapping of one entry within a sequence in brackets. -/
def flowPair? (fuel : Nat) (s : Composer) : Option (Node × Composer) :=
  match fuel with
  | 0 => none
  | fuel + 1 =>
    let k :=
      if [Token.value, .flowEntry, .flowSequenceEnd].contains s.head then some (.empty, s.drop)
      else node? false false fuel s
    match k with
    | none => none
    | some (k, s) =>
      let v :=
        match s.head with
        | .value => nodeUnless? [.flowEntry, .flowSequenceEnd] false false fuel s.drop
        | _ => some (.empty, s)
      v.map fun (v, s) => (.mapping none [(k, v)], s)

/-- The entries of a mapping in braces up to its end. -/
def flowEntries? (first : Bool) (fuel : Nat) (s : Composer) :
    Option (List (Node × Node) × Composer) :=
  match fuel with
  | 0 => none
  | fuel + 1 =>
    match s.head with
    | .flowMappingEnd => some ([], s.drop)
    | t =>
      if !first && t != .flowEntry then none
      else
        let s := if first then s else s.drop
        match s.head with
        | .flowMappingEnd => some ([], s.drop)
        | .key =>
          match nodeUnless? [.value, .flowEntry, .flowMappingEnd] false false fuel s.drop with
          | none => none
          | some (k, s) =>
            let v :=
              match s.head with
              | .value => nodeUnless? [.flowEntry, .flowMappingEnd] false false fuel s.drop
              | _ => some (.empty, s)
            match v with
            | some (v, s) => (flowEntries? false fuel s).map fun (es, s) => ((k, v) :: es, s)
            | none => none
        | _ =>
          match node? false false fuel s with
          | some (k, s) => (flowEntries? false fuel s).map fun (es, s) => ((k, .empty) :: es, s)
          | none => none

end

/-- Reads the directives in front of a document. There is at most one version, of the first major
version, and one prefix for each handle. -/
def directives? (version : Bool) (seen : List Tag) :
    List Token → Composer → Option (Bool × Composer)
  | .version major minor :: rest, s =>
    if version || major != 1 || (minor != 1 && minor != 2) then none
    else (directives? true seen rest { s with tokens := rest }).map fun (_, s) => (true, s)
  | .tagHandle handle start :: rest, s =>
    if seen.contains handle then none
    else
      let s := { s with tokens := rest, handles := (handle, start) :: s.handles }
      (directives? version (handle :: seen) rest s).map fun (_, s) => (true, s)
  | _, s => some (false, s)

end Composer

end Node

namespace Document

/-- The document that tokens write; its root is `absent` if they write none. -/
def ofTokens? (tokens : List Token) : Option Document := do
  let fuel := 4 * tokens.length + 8
  let (directives, s) ← Node.Composer.directives? false [] tokens { tokens }
  let (node, s) ←
    match s.head with
    | .documentStart =>
      let s := s.drop
      match s.head with
      | .version .. => some (Node.empty, s)
      | .tagHandle .. => some (Node.empty, s)
      | .documentStart => some (Node.empty, s)
      | .documentEnd => some (Node.empty, s)
      | .streamEnd => some (Node.empty, s)
      | _ => Node.Composer.node? true false fuel s
    | .streamEnd => if directives then none else some (.absent, s)
    | _ => if directives then none else Node.Composer.node? true false fuel s
  -- there is no second document
  match s.tokens.dropWhile (· == .documentEnd) with
  | [.streamEnd] => some { root := node, anchored := s.anchored }
  | _ => none

/-- The one document of a text. -/
def parse? (text : String) : Option Document := do
  ofTokens? (← Token.scan? text)

end Document

end Switchboard.Yaml
