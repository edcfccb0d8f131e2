/-!
# Sets of characters as ranges

A set of code points is written as a list of inclusive ranges, or as a list of runs: ranges of
which every so many code points are taken.
-/

namespace Switchboard.Text

/-- Inclusive ranges of code points. -/
abbrev Ranges := List (Nat × Nat)

/-- Whether a code point lies in one of the ranges. -/
def Ranges.has (rs : Ranges) (n : Nat) : Bool :=
  rs.any fun r => r.1 ≤ n && n ≤ r.2

/-- Runs of code points: the first, the last, and the step between them. -/
abbrev Runs := List (Nat × Nat × Nat)

/-- Whether a code point lies on one of the runs. -/
def Runs.has (rs : Runs) (n : Nat) : Bool :=
  rs.any fun r => r.1 ≤ n && n ≤ r.2.1 && (n - r.1) % r.2.2 == 0

end Switchboard.Text
