/-!
# Durations in text

A duration is written in the largest unit in which it is at least one: seconds with up to three
places, or milliseconds.
-/

namespace Switchboard.Text

/-- Milliseconds as seconds, without zeros at the end. -/
def secondsText (ms : Nat) : String :=
  let digits := (Nat.toDigits 10 (1000 + ms % 1000)).drop 1
  let fraction := (digits.reverse.dropWhile (· = '0')).reverse
  toString (ms / 1000) ++ (if fraction.isEmpty then "" else "." ++ String.ofList fraction) ++ "s"

/-- The text of a duration of so many milliseconds. -/
def durationText (ms : Nat) : String :=
  if 1000 ≤ ms then secondsText ms else if 0 < ms then s!"{ms}ms" else "0ns"

/-- The text of an optional part of a record. -/
def optionText : Option String → String
  | none => "None"
  | some s => s!"Some({s})"

end Switchboard.Text
