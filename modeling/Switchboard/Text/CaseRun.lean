/-!
# Runs of letters with one distance to another case

A letter and its form in another case are mostly a fixed distance apart for many letters in a row,
or for every other letter. A `CaseRun` is such a row.
-/

namespace Switchboard.Text

/-- A run of letters with one distance to their forms in another case. -/
structure CaseRun where
  first : Nat
  last : Nat
  step : Nat
  shift : Int

namespace CaseRun

/-- A run from its four numbers. -/
def ofNumbers (r : Nat × Nat × Nat × Int) : CaseRun := ⟨r.1, r.2.1, r.2.2.1, r.2.2.2⟩

/-- Whether a code point lies on the run. -/
def has (r : CaseRun) (n : Nat) : Bool :=
  r.first ≤ n && n ≤ r.last && (n - r.first) % r.step == 0

/-- The form of a code point of the run in the other case. -/
def image (r : CaseRun) (n : Nat) : Nat := (n + r.shift).toNat

/-- The code point of the run whose form in the other case is `n`, if there is one. -/
def origin? (r : CaseRun) (n : Nat) : Option Nat :=
  let m := (n - r.shift).toNat
  if r.has m && r.image m == n then some m else none

end CaseRun

/-- The form of a character in another case, by the first run that has it. -/
def shiftCase (runs : List CaseRun) (c : Char) : Char :=
  match runs.find? (·.has c.toNat) with
  | some r => Char.ofNat (r.image c.toNat)
  | none => c

end Switchboard.Text
