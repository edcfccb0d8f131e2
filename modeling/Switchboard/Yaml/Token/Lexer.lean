import Switchboard.Yaml.Token
import Switchboard.Yaml.Token.Scalar

/-!
# From text to tokens

`Token.scan?` reads the tokens of a text. Outside brackets the columns of lines open and close
blocks. A token that may turn out to be a key is remembered until a colon follows it: then a key
token is put in front of it, and the start of a mapping if its column opens one.
-/

namespace Switchboard.Yaml

/-- A place where a key may have begun. -/
structure KeyStart where
  /-- Whether the block around it admits nothing else. -/
  required : Bool
  /-- The number of tokens in front of it. -/
  tokens : Nat
  index : Nat
  line : Nat
  column : Nat
  deriving Repr

/-- The state of the reading. -/
structure Lexer where
  cursor : Cursor
  tokens : Array Token := #[]
  /-- The number of open brackets. -/
  flow : Nat := 0
  /-- The column of the innermost block, or -1. -/
  indent : Int := -1
  outer : List Int := []
  /-- Whether a key may begin here. -/
  keyAllowed : Bool := true
  /-- The possible key of the innermost level, and of the levels around it. -/
  keys : List (Option KeyStart) := [none]

namespace Lexer

/-- A key may not lie further back than so many bytes. -/
def keyReach : Nat := 1024

def push (s : Lexer) (t : Token) : Lexer := { s with tokens := s.tokens.push t }

/-- Puts a token in front of the token with number `n`. -/
def pushAt (s : Lexer) (n : Nat) (t : Token) : Lexer :=
  { s with tokens := s.tokens.extract 0 n ++ #[t] ++ s.tokens.extract n s.tokens.size }

/-- Moves to the next token: over blanks, comments and line ends. A byte order mark at the start of
a line is a blank; a tab where a key may begin is none. -/
def toNextToken (fuel : Nat) (s : Lexer) : Lexer :=
  match fuel with
  | 0 => s
  | fuel + 1 =>
    let c := s.cursor
    let c := if c.column == 0 && c.sees (Char.ofNat 0xFEFF) then c.skip else c
    let tabs := 0 < s.flow || !s.keyAllowed
    let c := c.skipWhile fun x => x == ' ' || (tabs && x == '\t')
    let c := if c.sees '#' then c.skipWhile fun x => !isBreak x else c
    if c.breakAt then
      toNextToken fuel
        { s with cursor := c.skipBreak.2, keyAllowed := s.keyAllowed || s.flow == 0 }
    else { s with cursor := c }

/-- Forgets possible keys that lie on an earlier line or too far back. A required one is missed. -/
def dropStaleKeys? (s : Lexer) : Option Lexer := do
  let keys ← s.keys.mapM fun k =>
    match k with
    | none => some none
    | some k =>
      if k.line < s.cursor.line || k.index + keyReach < s.cursor.index then
        if k.required then none else some none
      else some (some k)
  return { s with keys }

/-- Forgets the possible key of the innermost level. -/
def dropKey? (s : Lexer) : Option Lexer :=
  match s.keys with
  | some k :: rest => if k.required then none else some { s with keys := none :: rest }
  | _ => some s

/-- Remembers that a key may begin here. -/
def saveKey? (s : Lexer) : Option Lexer :=
  if s.keyAllowed then do
    let c := s.cursor
    let s ← s.dropKey?
    let k : KeyStart :=
      { required := s.flow == 0 && s.indent == (c.column : Int)
        tokens := s.tokens.size
        index := c.index
        line := c.line
        column := c.column }
    return { s with keys := some k :: s.keys.drop 1 }
  else some s

/-- Closes the blocks deeper than a column. -/
def unroll (column : Int) (fuel : Nat) (s : Lexer) : Lexer :=
  match fuel with
  | 0 => s
  | fuel + 1 =>
    if s.flow == 0 && column < s.indent then
      let s := s.push .blockEnd
      unroll column fuel { s with indent := s.outer.headD (-1), outer := s.outer.drop 1 }
    else s

/-- Closes the blocks deeper than a column. -/
def unrollTo (s : Lexer) (column : Int) : Lexer := s.unroll column (s.outer.length + 1)

/-- Opens a block if the column is deeper than the innermost one. Its token goes to place `n`. -/
def roll (s : Lexer) (column : Nat) (n : Nat) (t : Token) : Lexer :=
  if s.flow == 0 && s.indent < (column : Int) then
    { s.pushAt n t with indent := column, outer := s.indent :: s.outer }
  else s

/-- Moves over `n` characters and adds a token. -/
def take (s : Lexer) (n : Nat) (t : Token) : Lexer :=
  { s.push t with cursor := s.cursor.skipN n }

def allow (s : Lexer) (b : Bool) : Lexer := { s with keyAllowed := b }

/-- The digits of a number of at most nine digits. -/
def shortNumber? (c : Cursor) : Option (Nat × Cursor) :=
  let (ds, c) := c.takeWhile Char.isDigit
  if ds.isEmpty || 9 < ds.length then none
  else some (ds.foldl (fun a d => a * 10 + (d.toNat - 48)) 0, c)

/-- Characters of the rest of a tag. Commas and brackets are among them only between angle
brackets. -/
def isTagChar (wide : Bool) (c : Char) : Bool :=
  isWordChar c ||
    [';', '/', '?', ':', '@', '&', '=', '+', '$', '.', '!', '~', '*', '\'', '(', ')'].contains c ||
    (wide && [',', '[', ']'].contains c)

/-- Two hexadecimal digits behind a percent sign. -/
def percentByte? (c : Cursor) : Option (Nat × Cursor) :=
  match c.rest with
  | '%' :: a :: b :: _ => do
    let a ← Scalar.hexDigit? a
    let b ← Scalar.hexDigit? b
    return (a * 16 + b, c.skipN 3)
  | _ => none

/-- The bytes of a character behind percent signs. The first one tells how many follow; whether they
make up a character is not asked. -/
def percentBytes? (c : Cursor) : Option (List UInt8 × Cursor) := do
  let (b, c) ← percentByte? c
  let count ←
    if b < 0x80 then some 0
    else if 0xC0 ≤ b ∧ b < 0xE0 then some 1
    else if 0xE0 ≤ b ∧ b < 0xF0 then some 2
    else if 0xF0 ≤ b ∧ b < 0xF8 then some 3
    else none
  let (more, c) ← (List.range count).foldlM
    (fun (bs, c) _ => do
      let (b, c) ← percentByte? c
      if 0x80 ≤ b ∧ b < 0xC0 then some (bs ++ [b.toUInt8], c) else none)
    ([], c)
  return (b.toUInt8 :: more, c)

/-- The rest of a tag. -/
def tagRest? (wide : Bool) (fuel : Nat) (acc : List UInt8) (c : Cursor) :
    Option (List UInt8 × Cursor) :=
  match fuel with
  | 0 => none
  | fuel + 1 =>
    match c.peek? with
    | some x =>
      if x == '%' then
        match percentBytes? c with
        | some (bs, c) => tagRest? wide fuel (acc ++ bs) c
        | none => none
      else if isTagChar wide x then tagRest? wide fuel (acc ++ [x.toNat.toUInt8]) c.skip
      else some (acc, c)
    | none => some (acc, c)

/-- The bytes of ASCII characters. -/
def asciiBytes (cs : List Char) : List UInt8 := cs.map fun x => x.toNat.toUInt8

/-- The bytes in front of the first null byte: a tag ends there. -/
def beforeNull (bs : List UInt8) : List UInt8 := bs.takeWhile (· ≠ 0)

/-- A tag handle: an exclamation mark, a word, and a second mark if there is one. -/
def tagHandle? (directive : Bool) (c : Cursor) : Option (List Char × Cursor) :=
  if !c.sees '!' then none
  else
    let (w, c) := c.skip.takeWhile isWordChar
    if c.sees '!' then some ('!' :: w ++ ['!'], c.skip)
    else if directive && !w.isEmpty then none
    else some ('!' :: w, c)

/-- A directive: a version, or a prefix for a tag handle. -/
def directive? (s : Lexer) : Option Lexer := do
  let (name, c) := s.cursor.skip.takeWhile isWordChar
  if name.isEmpty || !c.spaceOrEndAt then none
  let (token, c) ←
    if name == "YAML".toList then do
      let (major, c) ← shortNumber? (c.skipWhile isBlank)
      if !c.sees '.' then none
      let (minor, c) ← shortNumber? c.skip
      some (Token.version major minor, c)
    else if name == "TAG".toList then do
      let (handle, c) ← tagHandle? true (c.skipWhile isBlank)
      if !c.blankAt then none
      let c := c.skipWhile isBlank
      let (start, c) ← tagRest? true (c.rest.length + 1) [] c
      if start.isEmpty || !c.spaceOrEndAt then none
      some (Token.tagHandle (asciiBytes handle) (beforeNull start), c)
    else none
  let c := c.skipWhile isBlank
  let c := if c.sees '#' then c.skipWhile fun x => !isBreak x else c
  if !c.breakOrEndAt then none
  return { s.push token with cursor := c.skipBreak.2 }

/-- A tag: between angle brackets, or a handle and a rest. -/
def tag? (s : Lexer) : Option Lexer := do
  let c := s.cursor
  let (token, c) ←
    if c.sees '<' 1 then do
      let c := c.skipN 2
      let (rest, c) ← tagRest? true (c.rest.length + 1) [] c
      if rest.isEmpty || !c.sees '>' then none
      some (Token.tag [] (beforeNull rest), c.skip)
    else do
      let (handle, after) ← tagHandle? false c
      if 1 < handle.length && handle.getLast? == some '!' then do
        let (rest, c) ← tagRest? false (after.rest.length + 1) [] after
        if rest.isEmpty then none
        some (Token.tag (asciiBytes handle) (beforeNull rest), c)
      else do
        let (more, c) ← tagRest? false (after.rest.length + 1) [] after
        let rest := beforeNull (asciiBytes (handle.drop 1) ++ more)
        let mark := asciiBytes ['!']
        -- a mark alone is a tag of its own
        if rest.isEmpty then some (Token.tag [] mark, c) else some (Token.tag mark rest, c)
  if (s.flow == 0 || !c.sees ',') && !c.spaceOrEndAt then none
  return { s.push token with cursor := c }

/-- An anchor or an alias: a mark and a word. -/
def anchor? (s : Lexer) (make : String → Token) : Option Lexer :=
  let (w, c) := s.cursor.skip.takeWhile isWordChar
  let ends := c.spaceOrEndAt ||
    ['?', ':', ',', ']', '\x7d', '%', '@', '\x60'].any fun x => c.sees x
  if w.isEmpty || !ends then none
  else some { s.push (make (String.ofList w)) with cursor := c }

/-- Adds a scalar. -/
def scalar (s : Lexer) (text : List Char) (style : ScalarStyle) (c : Cursor) : Lexer :=
  { s.push (.scalar (String.ofList text) style) with cursor := c }

/-- The value mark: the possible key in front of it becomes a key. -/
def value? (s : Lexer) : Option Lexer :=
  match s.keys with
  | some k :: rest =>
    let s := s.pushAt k.tokens .key
    let s := s.roll k.column k.tokens .blockMapping
    some (({ s with keys := none :: rest }.allow false).take 1 .value)
  | _ =>
    if s.flow == 0 then
      if s.keyAllowed then
        some (((s.roll s.cursor.column s.tokens.size .blockMapping).allow true).take 1 .value)
      else none
    else some ((s.allow false).take 1 .value)

/-- The end of the text closes all blocks. -/
def finish? (s : Lexer) : Option Lexer := do
  let s ← (s.unrollTo (-1)).dropKey?
  return (s.push .streamEnd).allow false

/-- Whether a plain scalar may begin here. -/
def plainBegins (s : Lexer) : Bool :=
  let c := s.cursor
  let marks := ['-', '?', ':', ',', '[', ']', '\x7b', '\x7d', '#', '&', '*', '!', '|', '>', '\'',
    '"', '%', '@', '\x60']
  (!c.spaceOrEndAt && !(marks.any fun x => c.sees x)) || (c.sees '-' && !c.blankAt 1) ||
    (s.flow == 0 && (c.sees '?' || c.sees ':') && !c.spaceOrEndAt 1)

/-- Reads the next token at the cursor, which stands at no blank. -/
def token? (s : Lexer) : Option Lexer :=
  let c := s.cursor
  let bounds (s : Lexer) : Option Lexer := do
    let s ← (s.unrollTo (-1)).dropKey?
    return s.allow false
  if c.column == 0 && c.sees '%' then do
    (← bounds s).directive?
  else if c.atMark '-' then do
    return (← bounds s).take 3 .documentStart
  else if c.atMark '.' then do
    return (← bounds s).take 3 .documentEnd
  else if c.sees '[' || c.sees '\x7b' then do
    let s ← s.saveKey?
    let s := { s with keys := none :: s.keys, flow := s.flow + 1 }
    return (s.allow true).take 1 (if c.sees '[' then .flowSequence else .flowMapping)
  else if c.sees ']' || c.sees '\x7d' then do
    let s ← s.dropKey?
    let s := if 0 < s.flow then { s with keys := s.keys.drop 1, flow := s.flow - 1 } else s
    return (s.allow false).take 1 (if c.sees ']' then .flowSequenceEnd else .flowMappingEnd)
  else if c.sees ',' then do
    return ((← s.dropKey?).allow true).take 1 .flowEntry
  else if c.sees '-' && c.spaceOrEndAt 1 then do
    if s.flow == 0 && !s.keyAllowed then none
    let s := s.roll c.column s.tokens.size .blockSequence
    return ((← s.dropKey?).allow true).take 1 .blockEntry
  else if c.sees '?' && (0 < s.flow || c.spaceOrEndAt 1) then do
    if s.flow == 0 && !s.keyAllowed then none
    let s := s.roll c.column s.tokens.size .blockMapping
    return ((← s.dropKey?).allow (s.flow == 0)).take 1 .key
  else if c.sees ':' && (0 < s.flow || c.spaceOrEndAt 1) then s.value?
  else if c.sees '*' then do
    ((← s.saveKey?).allow false).anchor? .alias
  else if c.sees '&' then do
    ((← s.saveKey?).allow false).anchor? .anchor
  else if c.sees '!' then do
    ((← s.saveKey?).allow false).tag?
  else if (c.sees '|' || c.sees '>') && s.flow == 0 then do
    let s ← s.dropKey?
    let (text, c) ← Scalar.block? (c.sees '|') s.indent c.skip
    return (s.allow true).scalar text (if s.cursor.sees '|' then .literal else .folded) c
  else if c.sees '\'' || c.sees '"' then do
    let s ← s.saveKey?
    let (text, c) ← Scalar.quoted? (c.sees '"') (c.rest.length + 1) [] c.skip
    return (s.allow false).scalar text .quoted c
  else if s.plainBegins then do
    let s ← s.saveKey?
    let (text, atLineStart, c) ←
      Scalar.plain? (0 < s.flow) (s.indent + 1) (c.rest.length + 1) [] {} c
    return (s.allow atLineStart).scalar text .plain c
  else none

/-- Reads token after token. -/
def run? (fuel : Nat) (s : Lexer) : Option Lexer :=
  match fuel with
  | 0 => none
  | fuel + 1 => do
    let s ← (s.toNextToken (s.cursor.rest.length + 1)).dropStaleKeys?
    let s := s.unrollTo s.cursor.column
    if s.cursor.atEnd then s.finish?
    else run? fuel (← s.token?)

end Lexer

/-- Characters that a document may hold. -/
def isAllowed (c : Char) : Bool :=
  let n := c.toNat
  n == 0x09 || n == 0x0A || n == 0x0D || (0x20 ≤ n && n ≤ 0x7E) || n == 0x85 ||
    (0xA0 ≤ n && n ≤ 0xD7FF) || (0xE000 ≤ n && n ≤ 0xFFFD) || 0x10000 ≤ n

/-- The tokens of a text; none if it has a fault. -/
def Token.scan? (text : String) : Option (List Token) :=
  let cs := text.toList
  if cs.all isAllowed then
    (Lexer.run? (cs.length + 2) { cursor := ⟨cs, 0, 0, 0⟩ }).map fun s => s.tokens.toList
  else none

end Switchboard.Yaml
