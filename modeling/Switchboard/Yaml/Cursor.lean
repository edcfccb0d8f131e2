/-!
# A place in a document

A `Cursor` is the rest of a text together with the line, the column and the number of bytes in front
of it. Lines end with a line feed, a carriage return, both, or one of three separators of
Unicode.
-/

namespace Switchboard.Yaml

/-- A place in a text. -/
structure Cursor where
  rest : List Char
  /-- The number of bytes in front of the place. -/
  index : Nat := 0
  line : Nat := 0
  column : Nat := 0
  deriving Repr, Inhabited

/-- A line end. -/
def isBreak (c : Char) : Bool :=
  c == '\n' || c == '\r' || c == Char.ofNat 0x85 || c == Char.ofNat 0x2028 || c == Char.ofNat 0x2029

/-- A space or a tab. -/
def isBlank (c : Char) : Bool := c == ' ' || c == '\t'

/-- Characters of anchors, tag handles and directives. -/
def isWordChar (c : Char) : Bool := c.isAlphanum || c == '_' || c == '-'

namespace Cursor

/-- The character `n` places ahead. -/
def peek? (c : Cursor) (n : Nat := 0) : Option Char := c.rest[n]?

/-- Whether the character `n` places ahead is `x`. -/
def sees (c : Cursor) (x : Char) (n : Nat := 0) : Bool := c.peek? n == some x

def atEnd (c : Cursor) : Bool := c.rest.isEmpty

def blankAt (c : Cursor) (n : Nat := 0) : Bool := ((c.peek? n).map isBlank).getD false

def breakAt (c : Cursor) (n : Nat := 0) : Bool := ((c.peek? n).map isBreak).getD false

/-- Whether a line end, or the end of the text, stands `n` places ahead. -/
def breakOrEndAt (c : Cursor) (n : Nat := 0) : Bool := ((c.peek? n).map isBreak).getD true

/-- Whether a blank, a line end, or the end of the text stands `n` places ahead. -/
def spaceOrEndAt (c : Cursor) (n : Nat := 0) : Bool := c.blankAt n || c.breakOrEndAt n

/-- Moves over one character within a line. -/
def skip (c : Cursor) : Cursor :=
  match c.rest with
  | [] => c
  | x :: r => ⟨r, c.index + x.utf8Size, c.line, c.column + 1⟩

/-- Moves over `n` characters within a line. -/
def skipN (c : Cursor) : Nat → Cursor
  | 0 => c
  | n + 1 => c.skip.skipN n

/-- Moves over a line end and gives the text that it stands for. -/
def skipBreak (c : Cursor) : List Char × Cursor :=
  match c.rest with
  | '\r' :: '\n' :: r => (['\n'], ⟨r, c.index + 2, c.line + 1, 0⟩)
  | x :: r =>
    let kept := x == Char.ofNat 0x2028 || x == Char.ofNat 0x2029
    if isBreak x then (if kept then [x] else ['\n'], ⟨r, c.index + x.utf8Size, c.line + 1, 0⟩)
    else ([], c)
  | [] => ([], c)

/-- Moves over the characters in front that satisfy `p`, none of which is a line end. -/
def skipWhile (p : Char → Bool) (c : Cursor) : Cursor :=
  let skipped := c.rest.takeWhile p
  ⟨c.rest.drop skipped.length, skipped.foldl (fun n x => n + x.utf8Size) c.index,
    c.line, c.column + skipped.length⟩

/-- The characters in front that satisfy `p`, and the place behind them. -/
def takeWhile (p : Char → Bool) (c : Cursor) : List Char × Cursor :=
  (c.rest.takeWhile p, c.skipWhile p)

/-- Whether the start of a line is a mark of three equal characters and a space or the end. -/
def atMark (c : Cursor) (x : Char) : Bool :=
  c.column == 0 && c.sees x && c.sees x 1 && c.sees x 2 && c.spaceOrEndAt 3

/-- Whether a mark between documents starts here. -/
def atDocumentMark (c : Cursor) : Bool := c.atMark '-' || c.atMark '.'

end Cursor

end Switchboard.Yaml
