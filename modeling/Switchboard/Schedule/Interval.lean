/-!
# Intervals

An interval is written as numbers with units, such as `1h30m`. Its length is the sum of all parts,
in milliseconds. It is longer than nothing and no longer than a hundred years.
-/

namespace Switchboard

/-- Why a text is no interval. -/
inductive IntervalError where
  | missing
  | missingUnit (rest : String)
  | expectedNumber (rest : String)
  | numberTooLarge (digits : String)
  | unknownUnit (name : String)
  | tooLarge
  | zero
  deriving DecidableEq, Repr, Inhabited

def IntervalError.message : IntervalError → String
  | .missing => "missing interval"
  | .missingUnit rest => s!"missing unit after `{rest}`"
  | .expectedNumber rest => s!"expected a number at `{rest}`"
  | .numberTooLarge digits =>
    s!"invalid number `{digits}`: number too large to fit in target type"
  | .unknownUnit name => s!"unknown unit `{name}`"
  | .tooLarge => "interval too large"
  | .zero => "interval must be greater than zero"

namespace Interval

/-- The largest number in a part, and the largest number of seconds in a sum. -/
def wordMax : Nat := 0xFFFFFFFFFFFFFFFF

/-- The longest interval in milliseconds: a hundred years of 365 days. -/
def longest : Nat := 100 * 365 * 24 * 60 * 60 * 1000

/-- The number that decimal digits stand for. -/
def number (ds : List Char) : Nat := ds.foldl (fun a c => a * 10 + (c.toNat - 48)) 0

/-- The length of `amount` units in milliseconds; minutes and hours stop at the largest number of
seconds. -/
def part? (amount : Nat) (unit : List Char) : Option Nat :=
  if unit = ['m', 's'] then some amount
  else if unit = ['s'] then some (amount * 1000)
  else if unit = ['m'] then some (min (amount * 60) wordMax * 1000)
  else if unit = ['h'] then some (min (amount * 3600) wordMax * 1000)
  else none

theorem length_dropWhile_le (p : Char → Bool) (cs : List Char) :
    (cs.dropWhile p).length ≤ cs.length :=
  (List.dropWhile_sublist p).length_le

/-- Adds the parts of a text to `total`. -/
def sum (total : Nat) (cs : List Char) : Except IntervalError Nat :=
  if cs.isEmpty then .ok total
  else
    let digits := cs.takeWhile Char.isDigit
    match _h : cs.dropWhile Char.isDigit with
    | [] => .error (.missingUnit (String.ofList cs))
    | c :: rest =>
      if digits.isEmpty then .error (.expectedNumber (String.ofList cs))
      else if wordMax < number digits then .error (.numberTooLarge (String.ofList digits))
      else
        -- the first character of the unit is no digit
        let unit := c :: rest.takeWhile fun c => !c.isDigit
        match part? (number digits) unit with
        | none => .error (.unknownUnit (String.ofList unit))
        | some ms =>
          if wordMax < (total + ms) / 1000 then .error .tooLarge
          else sum (total + ms) (rest.dropWhile fun c => !c.isDigit)
  termination_by cs.length
  decreasing_by
    have h1 := length_dropWhile_le Char.isDigit cs
    have h2 := length_dropWhile_le (fun c => !c.isDigit) rest
    rw [_h, List.length_cons] at h1
    omega

/-- The length of an interval in milliseconds. -/
def parse (cs : List Char) : Except IntervalError Nat :=
  if cs.isEmpty then .error .missing
  else
    match sum 0 cs with
    | .error e => .error e
    | .ok ms => if ms = 0 then .error .zero else if longest < ms then .error .tooLarge else .ok ms

end Interval

end Switchboard
