/-!
# Processes over a shared state

A state is shared by processes that take atomic steps one at a time. Any process that is able may
take the next step; `Processes.Step` is that relation, and theorems about all interleavings are
theorems about it. `Processes.settle` is one fair choice among the interleavings: processes are
served in the order in which they became able, and each goes on until it has to wait.

Time passes only when every process waits. `Processes.advance` moves the clock from one due time to
the next and lets the processes settle in between.
-/

namespace Switchboard

/-- Processes of type `π` over states of type `σ`. -/
structure Processes (σ π : Type) where
  /-- The processes of a state. Those that become able at one moment are served in this order. -/
  all : σ → List π
  /-- Whether a process can take a step. -/
  able : π → σ → Bool
  /-- The next step of a process. -/
  step : π → σ → σ
  now : σ → Nat
  setNow : Nat → σ → σ
  /-- The times for which processes wait. -/
  dues : σ → List Nat
  /-- A bound on the number of steps until all processes wait. -/
  load : σ → Nat

namespace Processes

variable {σ π : Type}

/-- A step of some process that is able to take it. -/
def Step (P : Processes σ π) (s t : σ) : Prop := ∃ p, P.able p s = true ∧ t = P.step p s

/-- States that are reached by any number of steps. -/
inductive Steps (P : Processes σ π) : σ → σ → Prop where
  | refl (s : σ) : Steps P s s
  | tail {s t u : σ} : Steps P s t → P.Step t u → Steps P s u

/-- Whether every process waits. -/
def isQuiet (P : Processes σ π) (s : σ) : Bool := (P.all s).all fun p => !P.able p s

/-- Lets the processes of a queue go on, each until it has to wait, and appends those that become
able meanwhile. -/
def serve [BEq π] (P : Processes σ π) : Nat → List π → σ → σ
  | 0, _, s => s
  | fuel + 1, [], s =>
    match (P.all s).filter fun p => P.able p s with
    | [] => s
    | queue => serve P fuel queue s
  | fuel + 1, p :: queue, s =>
    if P.able p s then
      let t := P.step p s
      let woken := (P.all t).filter fun q => !(p :: queue).contains q && P.able q t
      serve P fuel (p :: queue ++ woken) t
    else serve P fuel queue s

/-- Lets all processes go on until they wait. -/
def settle [BEq π] (P : Processes σ π) (s : σ) : σ := P.serve (P.load s) [] s

/-- The next time for which a process waits. -/
def nextDue? (P : Processes σ π) (s : σ) : Option Nat := ((P.dues s).filter (P.now s < ·)).min?

/-- Moves the clock on, until `stop` holds or the time has come. -/
def elapse [BEq π] (P : Processes σ π) (stop : σ → Bool) (time : Nat) : Nat → σ → σ
  | 0, s => s
  | fuel + 1, s =>
    if stop s then s
    else
      match P.nextDue? s with
      | some due =>
        if due ≤ time then elapse P stop time fuel (P.settle (P.setNow due s))
        else P.settle (P.setNow time s)
      | none => P.settle (P.setNow time s)

/-- Lets time pass, but not beyond the moment at which `stop` holds. -/
def advanceUntil [BEq π] (P : Processes σ π) (stop : σ → Bool) (ms : Nat) (s : σ) : σ :=
  P.elapse stop (P.now s + ms) (ms + 1) s

/-- Lets time pass. -/
def advance [BEq π] (P : Processes σ π) (ms : Nat) (s : σ) : σ :=
  P.advanceUntil (fun _ => false) ms s

/-- Whatever every step keeps is kept until the processes wait. -/
theorem serve_induction [BEq π] (P : Processes σ π) {motive : σ → Prop}
    (keeps : ∀ s p, motive s → P.able p s = true → motive (P.step p s)) :
    ∀ (fuel : Nat) (queue : List π) (s : σ), motive s → motive (P.serve fuel queue s)
  | 0, _, _, h => h
  | fuel + 1, [], s, h => by
    unfold serve
    split
    · exact h
    · exact serve_induction P keeps fuel _ s h
  | fuel + 1, p :: queue, s, h => by
    unfold serve
    split
    · next able => exact serve_induction P keeps fuel _ _ (keeps s p h able)
    · exact serve_induction P keeps fuel queue s h

/-- Letting the processes go on is one of the interleavings. -/
theorem steps_settle [BEq π] (P : Processes σ π) (s : σ) : P.Steps s (P.settle s) :=
  P.serve_induction (fun _ p h able => .tail h ⟨p, able, rfl⟩) _ _ s (.refl s)

end Processes

end Switchboard
