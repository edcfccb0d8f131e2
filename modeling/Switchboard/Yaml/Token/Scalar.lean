import Switchboard.Yaml.Cursor

/-!
# Scalars in a document

The four ways to write a text: in single or double quotes, as a block, and plain. Line ends inside a
scalar fold to spaces, except in literal blocks.
-/

namespace Switchboard.Yaml.Scalar

/-- What stands between two lines of a scalar: blanks that may turn out to be at a line end, the
first line end, and the further ones. -/
structure Gap where
  blanks : List Char := []
  first : List Char := []
  more : List Char := []
  /-- Whether a line end has been read. -/
  broken : Bool := false

/-- The text that a gap folds to. -/
def Gap.folded (g : Gap) : List Char :=
  if g.broken then
    if g.first == ['\n'] then if g.more.isEmpty then [' '] else g.more
    else g.first ++ g.more
  else g.blanks

/-- Reads blanks and line ends. A tab in front of column `indent` is refused where `strict`. -/
def gap? (strict : Bool) (indent : Int) (fuel : Nat) (g : Gap) (c : Cursor) :
    Option (Gap × Cursor) :=
  match fuel with
  | 0 => none
  | fuel + 1 =>
    match c.peek? with
    | some x =>
      if isBlank x then
        if strict && g.broken && (c.column : Int) < indent && x == '\t' then none
        else if g.broken then gap? strict indent fuel g c.skip
        else gap? strict indent fuel { g with blanks := g.blanks ++ [x] } c.skip
      else if isBreak x then
        let (b, c) := c.skipBreak
        if g.broken then gap? strict indent fuel { g with more := g.more ++ b } c
        else gap? strict indent fuel { g with blanks := [], first := b, broken := true } c
      else some (g, c)
    | none => some (g, c)

/-- The value of a hexadecimal digit. -/
def hexDigit? (c : Char) : Option Nat :=
  if c.isDigit then some (c.toNat - 48)
  else if 'a' ≤ c ∧ c ≤ 'f' then some (c.toNat - 87)
  else if 'A' ≤ c ∧ c ≤ 'F' then some (c.toNat - 55)
  else none

/-- The character whose code point is written with `n` hexadecimal digits. -/
def codePoint? (n : Nat) (cs : List Char) : Option Char :=
  let ds := cs.take n
  if ds.length < n then none
  else do
    let v ← ds.foldlM (fun a c => (hexDigit? c).map fun d => a * 16 + d) 0
    if v.isValidChar then some (Char.ofNat v) else none

/-- The character that an escape stands for, and the length of the escape after its backslash. -/
def escape? (c : Cursor) : Option (Char × Nat) :=
  let numbered (n : Nat) : Option (Char × Nat) :=
    (codePoint? n (c.rest.drop 1)).map fun x => (x, n + 1)
  match c.peek? with
  | some '0' => some (Char.ofNat 0, 1)
  | some 'a' => some (Char.ofNat 0x07, 1)
  | some 'b' => some (Char.ofNat 0x08, 1)
  | some 't' => some ('\t', 1)
  | some '\t' => some ('\t', 1)
  | some 'n' => some ('\n', 1)
  | some 'v' => some (Char.ofNat 0x0B, 1)
  | some 'f' => some (Char.ofNat 0x0C, 1)
  | some 'r' => some ('\r', 1)
  | some 'e' => some (Char.ofNat 0x1B, 1)
  | some ' ' => some (' ', 1)
  | some '"' => some ('"', 1)
  | some '/' => some ('/', 1)
  | some '\\' => some ('\\', 1)
  | some 'N' => some (Char.ofNat 0x85, 1)
  | some '_' => some (Char.ofNat 0xA0, 1)
  | some 'L' => some (Char.ofNat 0x2028, 1)
  | some 'P' => some (Char.ofNat 0x2029, 1)
  | some 'x' => numbered 2
  | some 'u' => numbered 4
  | some 'U' => numbered 8
  | _ => none

/-- Reads the words of a quoted scalar up to a blank, a line end or the closing quote; `acc` holds
the text so far, last first. The flag tells whether an escaped line end stopped the reading. -/
def quotedWord? (double : Bool) (fuel : Nat) (acc : List Char) (c : Cursor) :
    Option (List Char × Bool × Cursor) :=
  match fuel with
  | 0 => none
  | fuel + 1 =>
    if c.spaceOrEndAt then some (acc, false, c)
    else if !double && c.sees '\'' && c.sees '\'' 1 then
      quotedWord? double fuel ('\'' :: acc) (c.skipN 2)
    else if c.sees (if double then '"' else '\'') then some (acc, false, c)
    else if double && c.sees '\\' then
      if c.breakAt 1 then some (acc, true, c.skip.skipBreak.2)
      else
        match escape? c.skip with
        | some (x, n) => quotedWord? double fuel (x :: acc) (c.skipN (n + 1))
        | none => none
    else
      match c.peek? with
      | some x => quotedWord? double fuel (x :: acc) c.skip
      | none => none

/-- Reads a quoted scalar after its opening quote. -/
def quoted? (double : Bool) (fuel : Nat) (acc : List Char) (c : Cursor) :
    Option (List Char × Cursor) :=
  match fuel with
  | 0 => none
  | fuel + 1 =>
    if c.atDocumentMark || c.atEnd then none
    else
      match quotedWord? double (c.rest.length + 1) acc c with
      | none => none
      | some (acc, escaped, c) =>
        if c.sees (if double then '"' else '\'') then some (acc.reverse, c.skip)
        else
          match gap? false 0 (c.rest.length + 1) { broken := escaped } c with
          | none => none
          | some (g, c) => quoted? double fuel (g.folded.reverse ++ acc) c

/-- How a block scalar ends: with one line end, with none, or with all that were written. -/
inductive Chomping where
  | clip
  | strip
  | keep
  deriving DecidableEq, Repr

/-- The marks after the sign of a block scalar: how it ends and how deep it is indented. -/
def blockMarks? (c : Cursor) : Option (Chomping × Nat × Cursor) :=
  let chomping? (c : Cursor) : Option (Chomping × Cursor) :=
    match c.peek? with
    | some '+' => some (.keep, c.skip)
    | some '-' => some (.strip, c.skip)
    | _ => none
  let indent? (c : Cursor) : Option (Nat × Cursor) :=
    match c.peek? with
    | some d => if d.isDigit then some (d.toNat - 48, c.skip) else none
    | none => none
  match chomping? c with
  | some (k, c) =>
    match indent? c with
    | some (n, c) => if n = 0 then none else some (k, n, c)
    | none => some (k, 0, c)
  | none =>
    match indent? c with
    | some (n, c) =>
      if n = 0 then none
      else
        match chomping? c with
        | some (k, c) => some (k, n, c)
        | none => some (.clip, n, c)
    | none => some (.clip, 0, c)

/-- Reads empty lines of a block; an indentation of zero is not yet known. Gives the line ends and
the deepest column seen. -/
def blockBreaks? (indent : Nat) (fuel : Nat) (deepest : Nat) (breaks : List Char) (c : Cursor) :
    Option (List Char × Nat × Cursor) :=
  match fuel with
  | 0 => none
  | fuel + 1 =>
    let spaces := (c.rest.takeWhile (· == ' ')).length
    let c := c.skipN (if indent = 0 then spaces else min spaces (indent - c.column))
    let deepest := max deepest c.column
    if (indent = 0 || c.column < indent) && c.sees '\t' then none
    else if c.breakAt then
      let (b, c) := c.skipBreak
      blockBreaks? indent fuel deepest (breaks ++ b) c
    else some (breaks, deepest, c)

/-- Reads the lines of a block of known indentation. `pending` is the line end of the line before,
`breaks` the empty lines after it. -/
def blockLines? (literal : Bool) (indent : Nat) (fuel : Nat) (acc : List Char) (blank : Bool)
    (pending breaks : List Char) (c : Cursor) :
    Option (List Char × List Char × List Char × Cursor) :=
  match fuel with
  | 0 => none
  | fuel + 1 =>
    if c.column == indent && !c.atEnd then
      let nowBlank := c.blankAt
      let joint : List Char :=
        if !literal && pending == ['\n'] && !blank && !nowBlank then
          if breaks.isEmpty then [' '] else []
        else pending
      let (text, c) := c.takeWhile fun x => !isBreak x
      let acc := text.reverse ++ breaks.reverse ++ joint.reverse ++ acc
      let (b, c) := c.skipBreak
      match blockBreaks? indent (c.rest.length + 1) 0 [] c with
      | none => none
      | some (more, _, c) => blockLines? literal indent fuel acc nowBlank b more c
    else some (acc, pending, breaks, c)

/-- Reads a block scalar after its sign; `outer` is the indentation around it. -/
def block? (literal : Bool) (outer : Int) (c : Cursor) : Option (List Char × Cursor) := do
  let (chomping, extra, c) ← blockMarks? c
  let c := c.skipWhile isBlank
  let c := if c.sees '#' then c.skipWhile fun x => !isBreak x else c
  if !c.breakOrEndAt then none
  else
    let c := c.skipBreak.2
    let known : Nat := if extra = 0 then 0 else (if 0 ≤ outer then outer.toNat + extra else extra)
    let (breaks, deepest, c) ← blockBreaks? known (c.rest.length + 1) 0 [] c
    let indent : Nat := if known = 0 then max deepest (max (outer + 1).toNat 1) else known
    let (acc, pending, breaks, c) ←
      blockLines? literal indent (c.rest.length + 2) [] false [] breaks c
    let tail :=
      match chomping with
      | .strip => []
      | .clip => pending
      | .keep => pending ++ breaks
    return (acc.reverse ++ tail, c)

/-- Whether a plain scalar ends in front of this place. -/
def plainEnds (flow : Bool) (c : Cursor) : Bool :=
  (c.sees ':' && c.spaceOrEndAt 1) ||
    (flow && (c.sees ',' || c.sees '[' || c.sees ']' || c.sees '\x7b' || c.sees '\x7d'))

/-- Whether a colon stands here that may not stand in a plain scalar inside brackets. -/
def badColon (flow : Bool) (c : Cursor) : Bool :=
  flow && c.sees ':' &&
    (c.sees ',' 1 || c.sees '?' 1 || c.sees '[' 1 || c.sees ']' 1 || c.sees '\x7b' 1 ||
      c.sees '\x7d' 1)

/-- Reads a word of a plain scalar; `acc` holds the text so far, last first. The gap in front of
the word becomes part of the text once the word has a character. -/
def plainWord? (flow : Bool) (fuel : Nat) (acc : List Char) (g : Gap) (c : Cursor) :
    Option (List Char × Gap × Cursor) :=
  match fuel with
  | 0 => none
  | fuel + 1 =>
    if c.spaceOrEndAt then some (acc, g, c)
    else if badColon flow c then none
    else if plainEnds flow c then some (acc, g, c)
    else
      match c.peek? with
      | some x => plainWord? flow fuel (x :: (g.folded.reverse ++ acc)) {} c.skip
      | none => none

/-- Reads a plain scalar. `indent` is the least column of its further lines outside brackets. The
flag tells whether the reading ended at the start of a line. -/
def plain? (flow : Bool) (indent : Int) (fuel : Nat) (acc : List Char) (g : Gap) (c : Cursor) :
    Option (List Char × Bool × Cursor) :=
  match fuel with
  | 0 => none
  | fuel + 1 =>
    if c.atDocumentMark || c.sees '#' then some (acc.reverse, g.broken, c)
    else
      match plainWord? flow (c.rest.length + 1) acc g c with
      | none => none
      | some (acc, g, c) =>
        if !(c.blankAt || c.breakAt) then some (acc.reverse, g.broken, c)
        else
          match gap? true indent (c.rest.length + 1) g c with
          | none => none
          | some (g, c) =>
            if !flow && (c.column : Int) < indent then some (acc.reverse, g.broken, c)
            else plain? flow indent fuel acc g c

end Switchboard.Yaml.Scalar
