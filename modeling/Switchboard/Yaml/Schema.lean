import Switchboard.Number.Binary64

/-!
# What plain texts stand for

A plain text may stand for nothing, a truth value, an integer or a float; any other stands for
itself. Integers may be written with a sign, and in hexadecimal, octal or binary after `0x`, `0o` or
`0b`. Decimal digits after a leading zero are a text.
-/

namespace Switchboard.Yaml.Schema

/-- Whether a text stands for nothing. -/
def isNull (s : String) : Bool := s == "~" || s == "null" || s == "Null" || s == "NULL"

/-- The truth value that a text stands for. -/
def bool? (s : String) : Option Bool :=
  if s == "true" || s == "True" || s == "TRUE" then some true
  else if s == "false" || s == "False" || s == "FALSE" then some false
  else none

/-- The value of a digit in a base. -/
def digit? (base : Nat) (c : Char) : Option Nat :=
  let d :=
    if c.isDigit then some (c.toNat - 48)
    else if 'a' ≤ c ∧ c ≤ 'z' then some (c.toNat - 87)
    else if 'A' ≤ c ∧ c ≤ 'Z' then some (c.toNat - 55)
    else none
  d.filter (· < base)

/-- The number that digits stand for; none without digits. -/
def digits? (base : Nat) (cs : List Char) : Option Nat :=
  if cs.isEmpty then none
  else cs.foldlM (fun a c => (digit? base c).map fun d => a * base + d) 0

/-- Whether decimal digits follow a leading zero. -/
def hasLeadingZero (cs : List Char) : Bool :=
  let cs :=
    match cs with
    | '-' :: r => r
    | '+' :: r => r
    | r => r
  match cs with
  | '0' :: d :: r => (d :: r).all Char.isDigit
  | _ => false

/-- Digits behind the mark of a base. -/
def based? : List Char → Option Nat
  | '0' :: 'x' :: r => digits? 16 r
  | '0' :: 'o' :: r => digits? 8 r
  | '0' :: 'b' :: r => digits? 2 r
  | _ => none

/-- The number without a minus sign that a text stands for. -/
def unsigned? (s : String) : Option Nat :=
  let cs := s.toList
  let body :=
    match cs with
    | '+' :: r => r
    | r => r
  match based? body with
  | some n => some n
  | none => if hasLeadingZero cs then none else digits? 10 body

/-- The integer that a text stands for. -/
def int? (s : String) : Option Int :=
  match unsigned? s with
  | some n => some n
  | none =>
    match s.toList with
    | '-' :: r =>
      match based? r with
      | some n => some (-(n : Int))
      | none => if hasLeadingZero s.toList then none else (digits? 10 r).map fun n => -(n : Int)
    | _ => none

/-- A float, or one of the three values that are no numbers. -/
inductive FloatValue where
  | finite (x : Binary64)
  | infinite
  | notNumber

/-- The decimal number that a text writes, with a point, an exponent or neither. -/
def decimal? (cs : List Char) : Option FloatValue :=
  let (negative, cs) : Bool × List Char :=
    match cs with
    | '-' :: r => (true, r)
    | r => (false, r)
  let whole := cs.takeWhile Char.isDigit
  let rest := cs.dropWhile Char.isDigit
  let (fraction, rest) : List Char × List Char :=
    match rest with
    | '.' :: r => (r.takeWhile Char.isDigit, r.dropWhile Char.isDigit)
    | r => ([], r)
  let ds := whole ++ fraction
  let number (cs : List Char) : Nat := cs.foldl (fun a c => a * 10 + (c.toNat - 48)) 0
  let power : Option Int :=
    match rest with
    | [] => some 0
    | c :: r =>
      if c == 'e' || c == 'E' then
        match r with
        | '-' :: e => if !e.isEmpty && e.all Char.isDigit then some (-(number e : Int)) else none
        | '+' :: e => if !e.isEmpty && e.all Char.isDigit then some (number e) else none
        | e => if !e.isEmpty && e.all Char.isDigit then some (number e) else none
      else none
  if ds.isEmpty then none
  else
    match power with
    | none => none
    | some p =>
      let n := number ds
      let e := p - fraction.length
      if n = 0 ∨ e + ds.length < -400 then some (.finite (Binary64.zero negative))
      else if 400 < e then none
      else (Binary64.ofDecimal? negative n e).map .finite

/-- The float that a text stands for. Numbers beyond the largest one are texts. -/
def float? (s : String) : Option FloatValue :=
  if s == ".inf" || s == ".Inf" || s == ".INF" || s == "+.inf" || s == "+.Inf" || s == "+.INF" ||
      s == "-.inf" || s == "-.Inf" || s == "-.INF" then some .infinite
  else if s == ".nan" || s == ".NaN" || s == ".NAN" then some .notNumber
  else
    match s.toList with
    | '+' :: '-' :: _ => none
    | '+' :: r => decimal? r
    | r => decimal? r

end Switchboard.Yaml.Schema
