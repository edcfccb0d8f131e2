/-!
# Points in time

A point in time is a number of seconds since the start of 1970 and a number of nanoseconds below a
second. Durations are whole milliseconds. The calendar reaches from the year -262143 to 262142.
-/

namespace Switchboard

/-- A point in time. -/
structure Timestamp where
  seconds : Int
  nanos : Nat
  deriving DecidableEq, Repr, Inhabited

namespace Timestamp

/-- Nanoseconds in a second. -/
def nanosPerSecond : Nat := 1000000000

/-- The last second of the calendar. -/
def lastSecond : Int := 8210266876799

/-- The time `ms` milliseconds later; none beyond the end of the calendar. -/
def addMillis? (t : Timestamp) (ms : Nat) : Option Timestamp :=
  let nanos := t.nanos + (ms % 1000) * 1000000
  let seconds := t.seconds + (ms / 1000 : Nat) + (nanos / nanosPerSecond : Nat)
  if seconds ≤ lastSecond then some ⟨seconds, nanos % nanosPerSecond⟩ else none

/-- Milliseconds from `t` to the later `u`, rounded up; zero if `u` is not later. -/
def millisUntil (t u : Timestamp) : Nat :=
  let d : Int := (u.seconds - t.seconds) * 1000000000 + ((u.nanos : Int) - t.nanos)
  ((d + 999999) / 1000000).toNat

/-- The time of day as hours, minutes and seconds. -/
def timeOfDay (t : Timestamp) : Nat × Nat × Nat :=
  let s := (t.seconds % 86400).toNat
  (s / 3600, s / 60 % 60, s % 60)

end Timestamp

end Switchboard
