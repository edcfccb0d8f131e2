import Switchboard.Json.Basic
import Switchboard.Yaml.Schema
import Switchboard.Yaml.Node.Composer

/-!
# Document values of nodes

`Document.toJson?` reads a document as a document value. Plain texts without a tag are read by the
schema, and so are texts with one of the four tags for values that are no texts; names of fields are
taken as they are written. Nodes nest at most 128 deep, and aliases are followed at most a hundred
times for each part of the document.
-/

namespace Switchboard.Yaml

/-- The deepest nesting of values. -/
def depthLimit : Nat := 128

/-- How often aliases may be followed, for each part of a document. -/
def repetitionLimit : Nat := 100

namespace Node

/-- The largest magnitude of integers below zero that a word holds. -/
def minSigned : Nat := 0x8000000000000000

/-- The largest magnitude of integers below zero that a word of double width holds. -/
def minSignedWide : Nat := 0x80000000000000000000000000000000

/-- An integer as a value: one that no word of 64 bits holds, but one of 128 bits does, is
refused; a larger one is no integer. -/
def intValue (n : Int) : Option (Option Json) :=
  if -(minSigned : Int) ≤ n ∧ n < 2 * minSigned then some (some (.int n))
  else if -(minSignedWide : Int) ≤ n ∧ n < 2 * minSignedWide then some none
  else none

/-- A float as a value; infinities and undefined results are null. -/
def floatValue : Schema.FloatValue → Json
  | .finite x => .float x
  | _ => .null

/-- The value of a plain text without a tag. -/
def plainValue? (s : String) : Option Json :=
  if s.isEmpty || Schema.isNull s then some .null
  else
    match Schema.bool? s with
    | some b => some (.bool b)
    | none =>
      match (Schema.int? s).bind intValue with
      | some v => v
      | none =>
        match (if Schema.hasLeadingZero s.toList then none else Schema.float? s) with
        | some x => some (floatValue x)
        | none => some (.text s)

/-- The value of a scalar. -/
def scalarValue? (tag : Option Tag) (style : ScalarStyle) (s : String) : Option Json :=
  match tag with
  | none => if style = .plain then plainValue? s else some (.text s)
  | some t =>
    if t.isLocal then none
    else if t == Tag.bool then (Schema.bool? s).map .bool
    else if t == Tag.int then ((Schema.int? s).bind intValue).join
    else if t == Tag.float then (Schema.float? s).map floatValue
    else if t == Tag.null then if Schema.isNull s then some .null else none
    else if t.isMarked && style = .plain then plainValue? s
    else some (.text s)

end Node

namespace Document

/-- The node that a node stands for, which is no alias, and the number of aliases that may still be
followed. -/
def follow? (d : Document) (budget : Nat) : Node → Option (Node × Nat)
  | .alias k =>
    match budget with
    | 0 => none
    | budget + 1 => (d.anchored.lookup k).map (·, budget)
  | n => some (n, budget)

/-- The name of a field. -/
def fieldName? (d : Document) (budget : Nat) (n : Node) : Option (String × Nat) :=
  match d.follow? budget n with
  | some (.scalar _ _ s, b) => some (s, b)
  | _ => none

/-- Whether a tag names a kind of the document's own making. -/
def isLocal (tag : Option Tag) : Bool := (tag.map Tag.isLocal).getD false

/-- The value of a node, at most `depth` levels deep, and the number of aliases that may still be
followed. Of two fields with one name the last wins. -/
def value? (d : Document) (depth budget : Nat) (n : Node) : Option (Json × Nat) :=
  match d.follow? budget n with
  | none => none
  | some (.scalar tag style s, b) => (Node.scalarValue? tag style s).map (·, b)
  | some (.sequence tag ns, b) =>
    match depth with
    | 0 => none
    | depth + 1 =>
      if isLocal tag then none
      else
        (ns.foldlM (fun (read : Array Json × Nat) (n : Node) =>
            (d.value? depth read.2 n).map fun (v, b) => (read.1.push v, b))
          (#[], b)).map fun (vs, b) => (.array vs.toList, b)
  | some (.mapping tag es, b) =>
    match depth with
    | 0 => none
    | depth + 1 =>
      if isLocal tag then none
      else
        (es.foldlM (fun (read : List (String × Json) × Nat) (e : Node × Node) => do
            let (name, b) ← d.fieldName? read.2 e.1
            let (v, b) ← d.value? depth b e.2
            return (Table.insert name v read.1, b))
          ([], b)).map fun (fs, b) => (.object fs, b)
  | some (.alias _, _) => none
  | some (.absent, b) => some (.null, b)

/-- The document value of a document. -/
def toJson? (d : Document) : Option Json :=
  (d.value? depthLimit (repetitionLimit * d.root.size) d.root).map Prod.fst

end Document

end Switchboard.Yaml
