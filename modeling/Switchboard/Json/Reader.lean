import Switchboard.Json.Basic

/-!
# Reading document values

`Json.parse?` reads one value that fills the whole text. Values nest at most 127 deep. Integers
that a signed or unsigned word of 64 bits holds stay integers; all other numbers become floats: the
digits that fit an unsigned word, times or divided by a power of ten. Of two fields with one name
the last wins. Halves of surrogate pairs are refused.
-/

namespace Switchboard.Json.Reader

/-- The largest unsigned integer. -/
def maxUnsigned : Nat := 0xFFFFFFFFFFFFFFFF

/-- The deepest nesting, plus one. -/
def depthLimit : Nat := 128

/-- Blank characters between the parts of a value. -/
def isSpace (c : Char) : Bool := c == ' ' || c == '\n' || c == '\t' || c == '\r'

def skipSpace (cs : List Char) : List Char := cs.dropWhile isSpace

/-- The value of a decimal digit. -/
def digit? (c : Char) : Option Nat := if c.isDigit then some (c.toNat - 48) else none

/-- Reads decimal digits into `acc` while it fits an unsigned word; gives the number of digits
read. -/
def takeDigits (acc count : Nat) : List Char → Nat × Nat × List Char
  | [] => (acc, count, [])
  | c :: rest =>
    match digit? c with
    | some d =>
      if acc * 10 + d ≤ maxUnsigned then takeDigits (acc * 10 + d) (count + 1) rest
      else (acc, count, c :: rest)
    | none => (acc, count, c :: rest)

/-- Skips digits and counts them. -/
def skipDigits (cs : List Char) : Nat × List Char :=
  ((cs.takeWhile Char.isDigit).length, cs.dropWhile Char.isDigit)

/-- `n · 10^e` in two rounded steps, or more where the power of ten is out of range. -/
def scale? (fuel : Nat) (x : Binary64) (e : Int) : Option Binary64 :=
  match fuel with
  | 0 => none
  | fuel + 1 =>
    if e.natAbs ≤ 308 then do
      let p ← Binary64.ofDecimal? false 1 e.natAbs
      if 0 ≤ e then x.mul? p else x.div? p
    else if x.isZero then some x
    else if 0 ≤ e then none
    else do
      let p ← Binary64.ofDecimal? false 1 308
      scale? fuel (← x.div? p) (e + 308)

/-- A float from its digits and power of ten. -/
def floatOf? (negative : Bool) (n : Nat) (e : Int) : Option Json := do
  let x ← Binary64.ofNat? n
  let y ← scale? 8 x e
  return .float (if negative then y.negate else y)

/-- The largest power of ten that a number may name. -/
def maxExponent : Nat := 0x7FFFFFFF

/-- The number after its digits `n · 10^e` when an exponent may follow. -/
def withExponent? (negative : Bool) (n : Nat) (e : Int) (cs : List Char) :
    Option (Json × List Char) :=
  match cs with
  | c :: rest =>
    if c == 'e' || c == 'E' then
      let (down, rest) : Bool × List Char :=
        match rest with
        | '-' :: r => (true, r)
        | '+' :: r => (false, r)
        | r => (false, r)
      let ds := rest.takeWhile Char.isDigit
      let rest := rest.dropWhile Char.isDigit
      if ds.isEmpty then none
      else
        let power := ds.foldl (fun a c => a * 10 + (c.toNat - 48)) 0
        if maxExponent < power then
          if n = 0 ∨ down then some (.float (Binary64.zero negative), rest) else none
        else
          let e := if down then e - power else e + power
          (floatOf? negative n (max (-0x80000000) (min maxExponent e))).map (·, rest)
    else (floatOf? negative n e).map (·, cs)
  | [] => (floatOf? negative n e).map (·, [])

/-- The number after its integer digits `n · 10^e` when a point follows. -/
def withFraction? (negative : Bool) (n : Nat) (e : Int) (cs : List Char) :
    Option (Json × List Char) :=
  let (n', count, rest) := takeDigits n 0 cs
  let more := rest.dropWhile Char.isDigit
  -- digits that no longer fit are dropped
  if count = 0 ∧ rest.length = more.length then none
  else withExponent? negative n' (e - count) more

/-- The number after its sign. -/
def number? (negative : Bool) (cs : List Char) : Option (Json × List Char) :=
  match cs with
  | [] => none
  | c :: rest =>
    match digit? c with
    | none => none
    | some d =>
      if d = 0 ∧ (rest.head?.map Char.isDigit) = some true then none
      else
        let (n, _, rest) := takeDigits d 0 rest
        let (extra, rest) := skipDigits rest
        match rest with
        | '.' :: r => withFraction? negative n extra r
        | c :: _ =>
          if c == 'e' || c == 'E' then withExponent? negative n extra rest else whole n extra rest
        | [] => whole n extra rest
where
  /-- A number without point and exponent. -/
  whole (n extra : Nat) (rest : List Char) : Option (Json × List Char) :=
    if 0 < extra then (floatOf? negative n extra).map (·, rest)
    else if !negative then some (.int n, rest)
    else if n = 0 ∨ 0x8000000000000000 < n then (floatOf? true n 0).map (·, rest)
    else some (.int (-(n : Int)), rest)

/-- The value of a hexadecimal digit. -/
def hexValue? (c : Char) : Option Nat :=
  if '0' ≤ c ∧ c ≤ '9' then some (c.toNat - 48)
  else if 'a' ≤ c ∧ c ≤ 'f' then some (c.toNat - 87)
  else if 'A' ≤ c ∧ c ≤ 'F' then some (c.toNat - 55)
  else none

/-- Four hexadecimal digits. -/
def fourHex? : List Char → Option (Nat × List Char)
  | a :: b :: c :: d :: rest => do
    let a ← hexValue? a
    let b ← hexValue? b
    let c ← hexValue? c
    let d ← hexValue? d
    return (a * 4096 + b * 256 + c * 16 + d, rest)
  | _ => none

/-- The character that an escape names, after the backslash. -/
def escaped? : List Char → Option (Char × List Char)
  | '"' :: rest => some ('"', rest)
  | '\\' :: rest => some ('\\', rest)
  | '/' :: rest => some ('/', rest)
  | 'b' :: rest => some (Char.ofNat 0x08, rest)
  | 'f' :: rest => some (Char.ofNat 0x0C, rest)
  | 'n' :: rest => some ('\n', rest)
  | 'r' :: rest => some ('\r', rest)
  | 't' :: rest => some ('\t', rest)
  | 'u' :: rest => do
    let (a, rest) ← fourHex? rest
    if 0xD800 ≤ a ∧ a ≤ 0xDBFF then
      match rest with
      | '\\' :: 'u' :: rest =>
        let (b, rest) ← fourHex? rest
        if 0xDC00 ≤ b ∧ b ≤ 0xDFFF then
          some (Char.ofNat (0x10000 + (a - 0xD800) * 1024 + (b - 0xDC00)), rest)
        else none
      | _ => none
    else if 0xDC00 ≤ a ∧ a ≤ 0xDFFF then none
    else some (Char.ofNat a, rest)
  | _ => none

/-- Reads a text up to its closing quote; `acc` holds the characters so far, last first. -/
def string? (fuel : Nat) (acc : List Char) (cs : List Char) : Option (String × List Char) :=
  match fuel with
  | 0 => none
  | fuel + 1 =>
    match cs with
    | [] => none
    | '"' :: rest => some (String.ofList acc.reverse, rest)
    | '\\' :: rest =>
      match escaped? rest with
      | some (c, rest) => string? fuel (c :: acc) rest
      | none => none
    | c :: rest => if c.toNat < 0x20 then none else string? fuel (c :: acc) rest

/-- The rest of a text after a fixed word. -/
def word? (word : String) (cs : List Char) : Option (List Char) := word.toList.isPrefixOf? cs

mutual

/-- Reads one value, at most `depth - 1` levels deep. -/
def value? (fuel depth : Nat) (cs : List Char) : Option (Json × List Char) :=
  match fuel with
  | 0 => none
  | fuel + 1 =>
    match skipSpace cs with
    | [] => none
    | '"' :: rest => (string? (rest.length + 1) [] rest).map fun (s, r) => (.text s, r)
    | '-' :: rest => number? true rest
    | '[' :: rest =>
      if depth ≤ 1 then none
      else
        match skipSpace rest with
        | ']' :: r => some (.array [], r)
        | r => (items? fuel (depth - 1) r).map fun (vs, r) => (.array vs, r)
    | '\x7b' :: rest =>
      if depth ≤ 1 then none
      else
        match skipSpace rest with
        | '\x7d' :: r => some (.object [], r)
        | r => fields? fuel (depth - 1) [] r
    | 'n' :: rest => (word? "ull" rest).map (.null, ·)
    | 't' :: rest => (word? "rue" rest).map (.bool true, ·)
    | 'f' :: rest => (word? "alse" rest).map (.bool false, ·)
    | c :: rest => number? false (c :: rest)

/-- Reads the items of an array up to its closing bracket. -/
def items? (fuel depth : Nat) (cs : List Char) : Option (List Json × List Char) :=
  match fuel with
  | 0 => none
  | fuel + 1 =>
    match value? fuel depth cs with
    | none => none
    | some (v, rest) =>
      match skipSpace rest with
      | ']' :: r => some ([v], r)
      | ',' :: r => (items? fuel depth r).map fun (vs, r) => (v :: vs, r)
      | _ => none

/-- Reads the fields of an object up to its closing brace, into `acc`. -/
def fields? (fuel depth : Nat) (acc : List (String × Json)) (cs : List Char) :
    Option (Json × List Char) :=
  match fuel with
  | 0 => none
  | fuel + 1 =>
    match skipSpace cs with
    | '"' :: rest =>
      match string? (rest.length + 1) [] rest with
      | none => none
      | some (name, rest) =>
        match skipSpace rest with
        | ':' :: rest =>
          match value? fuel depth rest with
          | none => none
          | some (v, rest) =>
            match skipSpace rest with
            | '\x7d' :: r => some (.object (Table.insert name v acc), r)
            | ',' :: r => fields? fuel depth (Table.insert name v acc) r
            | _ => none
        | _ => none
    | _ => none

end

end Reader

open Reader in
/-- The value that a text holds. -/
def parse? (s : String) : Option Json := do
  let cs := s.toList
  let (v, rest) ← value? (2 * cs.length + 2) depthLimit cs
  if (skipSpace rest).isEmpty then some v else none

end Switchboard.Json
