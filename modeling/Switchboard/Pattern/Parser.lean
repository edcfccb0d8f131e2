import Switchboard.Pattern.Basic
import Switchboard.Property.Lookup
import Switchboard.Text.Blank

/-!
# The written form of patterns

`Pattern.parse?` reads the written form: literals and escapes, `.`, properties of characters,
classes in brackets with ranges, nesting and set operations, groups with or without a name, flags in
parentheses, anchors, alternatives and repetitions. A text that is no pattern gives none.
-/

namespace Switchboard.Pattern.Parser

/-- Settings that hold from where they are written to the end of the group. -/
structure Flags where
  caseless : Bool := false
  multiLine : Bool := false
  dotAll : Bool := false
  extended : Bool := false
  unicode : Bool := true
  /-- Whether a carriage return ends a line too. -/
  returns : Bool := false
  deriving Repr, Inhabited

/-- The classes that have only seven-bit members. -/
def asciiDigits : CharClass := .ranges [(0x30, 0x39)]
def asciiBlanks : CharClass := .ranges [(0x09, 0x0D), (0x20, 0x20)]
def asciiWord : CharClass := .ranges [(0x30, 0x39), (0x41, 0x5A), (0x5F, 0x5F), (0x61, 0x7A)]

/-- The white space of all scripts. -/
def blanks : CharClass := .property ⟨Property.separators ++ [Property.blankControls], []⟩

namespace Flags

/-- The class with variants in case added where the flag asks for it. -/
def fold (f : Flags) (c : CharClass) : CharClass :=
  if !f.caseless then c else if f.unicode then .caseless c else .asciiCaseless c

/-- The class of one written character. -/
def literal (f : Flags) (c : Char) : CharClass := f.fold (.single c)

/-- The class of the characters of words. -/
def word (f : Flags) : CharClass := if f.unicode then .property Property.word else asciiWord

/-- A condition on how a place stands to words. -/
def edge (f : Flags) (e : WordEdge) : Anchor := .word e f.word

/-- The classes that a letter after a backslash names. -/
def letterClass? (f : Flags) : Char → Option CharClass
  | 'd' => some (if f.unicode then .property Property.digit else asciiDigits)
  | 'D' => some (.not (if f.unicode then .property Property.digit else asciiDigits))
  | 's' => some (if f.unicode then blanks else asciiBlanks)
  | 'S' => some (.not (if f.unicode then blanks else asciiBlanks))
  | 'w' => some f.word
  | 'W' => some (.not f.word)
  | _ => none

/-- The start of a line or of the text. -/
def start (f : Flags) : Anchor :=
  if !f.multiLine then .textStart else if f.returns then .returnLineStart else .lineStart

/-- The end of a line or of the text. -/
def stop (f : Flags) : Anchor :=
  if !f.multiLine then .textEnd else if f.returns then .returnLineEnd else .lineEnd

/-- The class of the dot: all characters, or those that do not end a line. -/
def dot (f : Flags) : CharClass :=
  if f.dotAll then .not .empty
  else if f.returns then .not (.ranges [(0x0A, 0x0A), (0x0D, 0x0D)])
  else .not (.single '\n')

end Flags

/-- What an escape or a plain character in a pattern stands for. -/
inductive Primitive where
  | literal (c : Char)
  | cls (c : CharClass)
  | anchor (a : Anchor)

/-- Skips blanks, and comments from a hash sign to the end of the line. -/
def skipBlanks (fuel : Nat) (cs : List Char) : List Char :=
  match fuel with
  | 0 => cs
  | fuel + 1 =>
    match cs with
    | c :: rest =>
      if Text.isBlank c then skipBlanks fuel rest
      else if c = '#' then skipBlanks fuel (rest.dropWhile (· ≠ '\n'))
      else c :: rest
    | [] => []

/-- Skips blanks and comments where the flag says that they carry no meaning. -/
def skip (f : Flags) (cs : List Char) : List Char :=
  if f.extended then skipBlanks cs.length cs else cs

/-- The next character that is no blank, where the flag says that blanks carry no meaning. Of a
comment only the hash sign is passed over. -/
def peek (f : Flags) (cs : List Char) : Option Char :=
  if !f.extended then cs.head?
  else
    match cs.dropWhile Text.isBlank with
    | '#' :: rest => (rest.dropWhile Text.isBlank).head?
    | rest => rest.head?

/-- The characters up to a closing brace, and what follows it. -/
def untilBrace? (f : Flags) (fuel : Nat) (cs : List Char) : Option (List Char × List Char) :=
  match fuel with
  | 0 => none
  | fuel + 1 =>
    match skip f cs with
    | [] => none
    | '\x7d' :: rest => some ([], rest)
    | c :: rest => (untilBrace? f fuel rest).map fun (name, rest) => (c :: name, rest)

/-- A fixed number of characters. -/
def exactly? (f : Flags) : Nat → List Char → Option (List Char × List Char)
  | 0, cs => some ([], cs)
  | n + 1, cs =>
    match skip f cs with
    | [] => none
    | c :: rest => (exactly? f n rest).map fun (name, rest) => (c :: name, rest)

/-- The value of a hexadecimal digit. -/
def hexDigit? (c : Char) : Option Nat :=
  if c.isDigit then some (c.toNat - 48)
  else if 'a' ≤ c ∧ c ≤ 'f' then some (c.toNat - 87)
  else if 'A' ≤ c ∧ c ≤ 'F' then some (c.toNat - 55)
  else none

/-- The character with a code point, if there is one. -/
def charOf? (n : Nat) : Option Char := if n.isValidChar then some (Char.ofNat n) else none

/-- The number that hexadecimal digits stand for; none for another character or no digit. -/
def hexNumber? (ds : List Char) : Option Nat :=
  if ds.isEmpty then none
  else ds.foldlM (fun a c => (hexDigit? c).map fun d => a * 16 + d) 0

/-- A code point in hexadecimal: `width` digits, or any number of them in braces. -/
def codePoint? (f : Flags) (width : Nat) (cs : List Char) : Option (Char × List Char) := do
  let (ds, rest) ←
    match skip f cs with
    | '\x7b' :: rest => untilBrace? f (rest.length + 1) rest
    | cs => exactly? f width cs
  return (← charOf? (← hexNumber? ds), rest)

/-- A text in two at the first place where `sep` stands. -/
def cut? (sep : List Char) : List Char → Option (List Char × List Char)
  | [] => none
  | c :: cs =>
    match sep.isPrefixOf? (c :: cs) with
    | some rest => some ([], rest)
    | none => (cut? sep cs).map fun (a, b) => (c :: a, b)

/-- The property of a name in braces, which may be a kind of property and a value with a sign
between them; the second component tells whether the sign negates it. -/
def namedProperty? (name : List Char) : Option (Property × Bool) :=
  let pair (kind value : List Char) : Option Property :=
    Property.ofPair? (String.ofList kind) (String.ofList value)
  match cut? ['!', '='] name, cut? [':'] name, cut? ['='] name with
  | some (kind, value), _, _ => (pair kind value).map (·, true)
  | none, some (kind, value), _ => (pair kind value).map (·, false)
  | none, none, some (kind, value) => (pair kind value).map (·, false)
  | none, none, none => (Property.find? (String.ofList name)).map (·, false)

/-- The class of a property that is written after `p`, by one letter or in braces. -/
def property? (f : Flags) (negated : Bool) (cs : List Char) : Option (CharClass × List Char) := do
  let (p, flipped, rest) ←
    match skip f cs with
    | [] => none
    | '\x7b' :: rest => do
      let (name, rest) ← untilBrace? f (rest.length + 1) rest
      let (p, flipped) ← namedProperty? name
      some (p, flipped, rest)
    | c :: rest => (Property.find? (String.ofList [c])).map fun p => (p, false, rest)
  let c := f.fold (.property p)
  if f.unicode then return (if negated != flipped then .not c else c, rest) else none

/-- Whether a character can stand in the name of an edge of words. -/
def isEdgeChar (c : Char) : Bool := c.isAlpha || c == '-'

/-- An edge of words by its name in braces. -/
def edge? : String → Option WordEdge
  | "start" => some .start
  | "end" => some .stop
  | "start-half" => some .startHalf
  | "end-half" => some .stopHalf
  | _ => none

/-- What follows the letter for a boundary: the name of an edge in braces, or anything else, which
is left alone. Braces without a name are a repetition. -/
def boundary? (f : Flags) (cs : List Char) : Option (WordEdge × List Char) :=
  match cs with
  | '\x7b' :: rest =>
    match skip f rest with
    | [] => none
    | c :: _ =>
      if isEdgeChar c then do
        let (name, rest) ← untilBrace? f (rest.length + 1) rest
        return (← edge? (String.ofList name), rest)
      else some (.boundary, cs)
  | _ => some (.boundary, cs)

/-- What follows a backslash. -/
def escape? (f : Flags) : List Char → Option (Primitive × List Char)
  | [] => none
  | c :: rest =>
    match f.letterClass? c with
    | some k => some (.cls k, rest)
    | none =>
      match c with
      | 'p' => (property? f false rest).map fun (c, r) => (.cls c, r)
      | 'P' => (property? f true rest).map fun (c, r) => (.cls c, r)
      | 'x' => (codePoint? f 2 rest).map fun (c, r) => (.literal c, r)
      | 'u' => (codePoint? f 4 rest).map fun (c, r) => (.literal c, r)
      | 'U' => (codePoint? f 8 rest).map fun (c, r) => (.literal c, r)
      | 'a' => some (.literal (Char.ofNat 7), rest)
      | 'f' => some (.literal (Char.ofNat 12), rest)
      | 't' => some (.literal '\t', rest)
      | 'n' => some (.literal '\n', rest)
      | 'r' => some (.literal '\r', rest)
      | 'v' => some (.literal (Char.ofNat 11), rest)
      | 'A' => some (.anchor .textStart, rest)
      | 'z' => some (.anchor .textEnd, rest)
      | 'b' => (boundary? f rest).map fun (e, r) => (.anchor (f.edge e), r)
      | 'B' => some (.anchor (f.edge .noBoundary), rest)
      | '<' => some (.anchor (f.edge .start), rest)
      | '>' => some (.anchor (f.edge .stop), rest)
      | c => if c.toNat < 0x80 ∧ !c.isAlphanum then some (.literal c, rest) else none

/-- The classes that have a name in brackets; all of them seven-bit. -/
def namedClass? : String → Option Text.Ranges
  | "alnum" => some [(0x30, 0x39), (0x41, 0x5A), (0x61, 0x7A)]
  | "alpha" => some [(0x41, 0x5A), (0x61, 0x7A)]
  | "ascii" => some [(0, 0x7F)]
  | "blank" => some [(0x09, 0x09), (0x20, 0x20)]
  | "cntrl" => some [(0, 0x1F), (0x7F, 0x7F)]
  | "digit" => some [(0x30, 0x39)]
  | "graph" => some [(0x21, 0x7E)]
  | "lower" => some [(0x61, 0x7A)]
  | "print" => some [(0x20, 0x7E)]
  | "punct" => some [(0x21, 0x2F), (0x3A, 0x40), (0x5B, 0x60), (0x7B, 0x7E)]
  | "space" => some [(0x09, 0x0D), (0x20, 0x20)]
  | "upper" => some [(0x41, 0x5A)]
  | "word" => some [(0x30, 0x39), (0x41, 0x5A), (0x5F, 0x5F), (0x61, 0x7A)]
  | "xdigit" => some [(0x30, 0x39), (0x41, 0x46), (0x61, 0x66)]
  | _ => none

/-- A named class after `[:`, up to its `:]`. -/
def named? (f : Flags) (cs : List Char) : Option (CharClass × List Char) := do
  let (negated, cs) : Bool × List Char :=
    match cs with
    | '^' :: r => (true, r)
    | r => (false, r)
  let name := cs.takeWhile Char.isAlpha
  match cs.dropWhile Char.isAlpha with
  | ':' :: ']' :: rest =>
    let c := f.fold (.ranges (← namedClass? (String.ofList name)))
    return (if negated then .not c else c, rest)
  | _ => none

/-- One character of a class, plain or escaped; or a class that an escape names. -/
def classPrimitive? (f : Flags) : List Char → Option (Primitive × List Char)
  | [] => none
  | '\\' :: rest => do
    match ← escape? f rest with
    | (.anchor _, _) => none
    | p => return p
  | c :: rest => some (.literal c, rest)

/-- Skips hyphens that stand at the start of a class; tells whether there were any. -/
def skipHyphens (f : Flags) (fuel : Nat) (cs : List Char) : Bool × List Char :=
  match fuel with
  | 0 => (false, cs)
  | fuel + 1 =>
    match skip f cs with
    | '-' :: rest => (true, (skipHyphens f fuel rest).2)
    | cs => (false, cs)

/-- Applies an operation on sets to two parts of a class, each with its variants in case. -/
def operate (f : Flags) (op : CharClass → CharClass → CharClass) (c : CharClass) :
    CharClass → CharClass :=
  fun d => op (f.fold c) (f.fold d)

/-- Reads the members of a class up to its closing bracket. `acc` holds the members since the last
set operation, `combine` applies that operation. -/
def members? (f : Flags) (negated : Bool) (fuel : Nat) (acc : CharClass)
    (combine : CharClass → CharClass) (cs : List Char) : Option (CharClass × List Char) :=
  match fuel with
  | 0 => none
  | fuel + 1 =>
    match skip f cs with
    | [] => none
    | ']' :: rest =>
      let c := f.fold (combine acc)
      some (if negated then .not c else c, rest)
    | '&' :: '&' :: rest =>
      members? f negated fuel .empty (operate f CharClass.inter (combine acc)) rest
    | '-' :: '-' :: rest =>
      members? f negated fuel .empty (operate f CharClass.minus (combine acc)) rest
    | '~' :: '~' :: rest =>
      members? f negated fuel .empty (operate f CharClass.differ (combine acc)) rest
    | '[' :: rest =>
      let colon :=
        match rest with
        | ':' :: r => named? f r
        | _ => none
      match colon with
      | some (c, rest) => members? f negated fuel (.union acc c) combine rest
      | none =>
        match open? f fuel rest with
        | some (c, rest) => members? f negated fuel (.union acc c) combine rest
        | none => none
    | cs =>
      match classPrimitive? f cs with
      | none => none
      | some (.cls c, rest) => members? f negated fuel (.union acc c) combine rest
      | some (.anchor _, _) => none
      | some (.literal lo, rest) =>
        let isRange :=
          match skip f rest with
          | '-' :: r => peek f r != some ']' && peek f r != some '-'
          | _ => false
        if isRange then
          match classPrimitive? f (skip f ((skip f rest).drop 1)) with
          | some (.literal hi, rest) =>
            if lo ≤ hi then
              members? f negated fuel (.union acc (.ranges [(lo.toNat, hi.toNat)])) combine rest
            else none
          | _ => none
        else members? f negated fuel (.union acc (.single lo)) combine rest
where
  /-- Reads a class after its opening bracket. -/
  open? (f : Flags) (fuel : Nat) (cs : List Char) : Option (CharClass × List Char) :=
    match fuel with
    | 0 => none
    | fuel + 1 =>
      let (negated, cs) : Bool × List Char :=
        match skip f cs with
        | '^' :: r => (true, r)
        | r => (false, r)
      match skipHyphens f (cs.length + 1) cs with
      | (false, ']' :: rest) => members? f negated fuel (.single ']') id rest
      | (false, cs) => members? f negated fuel .empty id cs
      | (true, cs) => members? f negated fuel (.single '-') id cs

/-- Reads flags up to the character that ends them; `on` tells whether they are set. -/
def flags? (f : Flags) (on : Bool) : List Char → Option (Flags × Char × List Char)
  | [] => none
  | c :: rest =>
    match c with
    | ')' => some (f, c, rest)
    | ':' => some (f, c, rest)
    | '-' => if on then flags? f false rest else none
    | 'i' => flags? { f with caseless := on } on rest
    | 'm' => flags? { f with multiLine := on } on rest
    | 's' => flags? { f with dotAll := on } on rest
    | 'x' => flags? { f with extended := on } on rest
    | 'u' => flags? { f with unicode := on } on rest
    | 'R' => flags? { f with returns := on } on rest
    -- which of two matches is the right one does not matter
    | 'U' => flags? f on rest
    | _ => none

/-- Decimal digits, with what follows them. -/
def digits (f : Flags) (fuel : Nat) (cs : List Char) : List Char × List Char :=
  match fuel, cs with
  | fuel + 1, c :: rest =>
    if c.isDigit then
      let (ds, rest) := digits f fuel (skip f rest)
      (c :: ds, rest)
    else ([], cs)
  | _, cs => ([], cs)

/-- A decimal number, with blanks around it or not. -/
def number? (f : Flags) (cs : List Char) : Option (Nat × List Char) :=
  let (ds, rest) := digits f cs.length (cs.dropWhile Text.isBlank)
  if ds.isEmpty then none
  else
    some (ds.foldl (fun a c => a * 10 + (c.toNat - 48)) 0, rest.dropWhile Text.isBlank)

/-- The bounds of a counted repetition, after its opening brace. -/
def bounds? (f : Flags) (cs : List Char) : Option (Nat × Option Nat × List Char) := do
  let (least, rest) ← number? f (skip f cs)
  match rest with
  | '\x7d' :: rest => return (least, some least, rest)
  | ',' :: rest =>
    match skip f rest with
    | '\x7d' :: rest => return (least, none, rest)
    | rest =>
      let (most, rest) ← number? f rest
      match rest with
      | '\x7d' :: rest => if least ≤ most then return (least, some most, rest) else none
      | _ => none
  | _ => none

/-- Skips the mark for the shortest match, since how long a match is does not matter. -/
def skipLazy : List Char → List Char
  | '?' :: rest => rest
  | cs => cs

/-- Applies the repetitions that follow an item. -/
def repetitions? (f : Flags) (fuel : Nat) (p : Pattern) (cs : List Char) :
    Option (Pattern × List Char) :=
  match fuel with
  | 0 => none
  | fuel + 1 =>
    match skip f cs with
    | '*' :: rest => repetitions? f fuel (.repeated p 0 none) (skipLazy rest)
    | '+' :: rest => repetitions? f fuel (.repeated p 1 none) (skipLazy rest)
    | '?' :: rest => repetitions? f fuel (.repeated p 0 (some 1)) (skipLazy rest)
    | '\x7b' :: rest =>
      match bounds? f rest with
      | some (least, most, rest) =>
        repetitions? f fuel (.repeated p least most) (skipLazy (skip f rest))
      | none => none
    | rest => some (p, rest)

/-- Reads a sequence and its alternatives up to a closing parenthesis or the end. `acc` holds the
sequence so far. -/
def sequence? (f : Flags) (fuel : Nat) (acc : Pattern) (cs : List Char) :
    Option (Pattern × List Char) :=
  match fuel with
  | 0 => none
  | fuel + 1 =>
    match skip f cs with
    | [] => some (acc, [])
    | ')' :: rest => some (acc, ')' :: rest)
    | '|' :: rest => (sequence? f fuel .empty rest).map fun (q, rest) => (.alt acc q, rest)
    | '(' :: rest =>
      let group (inner : Flags) (rest : List Char) : Option (Pattern × List Char) :=
        match sequence? inner fuel .empty rest with
        | some (p, ')' :: rest) =>
          match repetitions? f fuel p rest with
          | some (p, rest) => sequence? f fuel (.seq acc p) rest
          | none => none
        | _ => none
      let afterName (rest : List Char) : Option (List Char) :=
        match rest.dropWhile (· ≠ '>') with
        | _ :: r => some r
        | [] => none
      match skip f rest with
      | '?' :: 'P' :: '<' :: r => (afterName r).bind (group f)
      | '?' :: '<' :: r => (afterName r).bind (group f)
      | '?' :: r =>
        match flags? f true r with
        | some (g, ')', rest) => sequence? g fuel acc rest
        | some (g, _, rest) => group g rest
        | none => none
      | r => group f r
    | cs =>
      match item? f fuel cs with
      | none => none
      | some (p, rest) =>
        match repetitions? f fuel p rest with
        | some (p, rest) => sequence? f fuel (.seq acc p) rest
        | none => none
where
  /-- Reads one item that is no group. -/
  item? (f : Flags) (fuel : Nat) : List Char → Option (Pattern × List Char)
    | [] => none
    | '.' :: rest => some (.one f.dot, rest)
    | '^' :: rest => some (.anchor f.start, rest)
    | '$' :: rest => some (.anchor f.stop, rest)
    | '\\' :: rest =>
      match escape? f rest with
      | some (.literal c, rest) => some (.one (f.literal c), rest)
      | some (.cls c, rest) => some (.one c, rest)
      | some (.anchor a, rest) => some (.anchor a, rest)
      | none => none
    | '[' :: rest => (members?.open? f fuel rest).map fun (c, r) => (.one c, r)
    | c :: rest =>
      if c = '*' ∨ c = '+' ∨ c = '?' ∨ c = '\x7b' then none else some (.one (f.literal c), rest)

end Parser

/-- The pattern that a text writes. -/
def parse? (s : String) : Option Pattern :=
  let cs := s.toList
  match Parser.sequence? {} (2 * cs.length + 4) .empty cs with
  | some (p, []) => some p
  | _ => none

end Switchboard.Pattern
