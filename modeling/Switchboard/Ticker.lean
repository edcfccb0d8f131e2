/-!
# Tickers

A ticker falls due again and again, a period apart. Times are milliseconds. A tick that is taken
late may keep the grid of the earlier ticks or start a new one.
-/

namespace Switchboard

/-- A clock that falls due every `period` milliseconds. -/
structure Ticker where
  period : Nat
  /-- When the next tick is due. -/
  due : Nat
  deriving DecidableEq, Repr, Inhabited

namespace Ticker

/-- A ticker whose first tick is due at once; there is none without a period. -/
def immediate? (now period : Nat) : Option Ticker :=
  if period = 0 then none else some ⟨period, now⟩

/-- A ticker whose first tick is due after a period. -/
def later (now period : Nat) : Ticker := ⟨period, now + period⟩

def isDue (t : Ticker) (now : Nat) : Bool := t.due ≤ now

/-- The ticker after a tick; the next one is a period after the one that was due. -/
def next (t : Ticker) : Ticker := { t with due := t.due + t.period }

/-- How late a tick may be taken without a new grid. -/
def tolerance : Nat := 5

/-- The ticker after a tick taken at `now`; if that was late, the next one is a period after it. -/
def nextFrom (t : Ticker) (now : Nat) : Ticker :=
  if now ≤ t.due + tolerance then t.next else later now t.period

/-- How many ticks are due until a time. -/
def countUntil (t : Ticker) (time : Nat) : Nat :=
  if time < t.due then 0 else (time - t.due) / t.period + 1

/-- The times of the ticks until a time. -/
def timesUntil (t : Ticker) (time : Nat) : List Nat :=
  (List.range (t.countUntil time)).map fun i => t.due + i * t.period

/-- The ticker after all ticks until a time. -/
def skipUntil (t : Ticker) (time : Nat) : Ticker :=
  { t with due := t.due + t.countUntil time * t.period }

@[simp] theorem due_next (t : Ticker) : t.next.due = t.due + t.period := rfl

/-- No two ticks are closer than a period, however late they are taken. -/
theorem due_add_period_le_nextFrom (t : Ticker) (now : Nat) :
    t.due + t.period ≤ (t.nextFrom now).due := by
  unfold nextFrom
  split
  · exact Nat.le_refl _
  · simp only [later]
    omega

end Ticker

end Switchboard
