import Mathlib.Algebra.BigOperators.Group.Multiset.Basic
import Switchboard.Proofs.HotReload
import Switchboard.Proofs.PoolJobs
import Switchboard.Runner.Start

/-!
# Moves of a runner

A move is a step of an actor that is able to take it, a passing of time, or something that somebody
outside does. A schedule says which moves follow each other, without end; what is true after any
number of moves of any schedule is true of all runs and all interleavings.

`Runner.works` are the jobs of inputs that are on their way, wherever they are: in an intake's
hands, with an intake that waits, in the queue, or with a worker.
-/

namespace Switchboard

namespace Runner

variable {κ : Type}

/-! ## Runs -/

/-- What may happen next. -/
inductive Move where
  /-- An actor takes its next step, if it is able to. -/
  | act (a : Actor)
  /-- Time passes, in milliseconds. -/
  | pass (ms : Nat)
  /-- The run loop of a lane is told to hand over an input. -/
  | tell (lane : Nat) (i : Input)
  /-- The run loop of a lane is told to raise an error. -/
  | raise (lane : Nat) (e : BotError)
  /-- The other side of a lane's bot goes away. -/
  | hangUp (lane : Nat)
  /-- The configuration files become these. -/
  | edit (files : FileTree)
  /-- The operating system reports to the watcher. -/
  | report (x : WatchReport)
  /-- The run as a whole is told to stop. -/
  | cancel

def move (r : Runner κ) : Move → Runner κ
  | .act a => if able a r then step a r else r
  | .pass ms => { r with workshop.now := r.now + ms }
  | .tell k i => r.setLane k fun l => l.tell i
  | .raise k e => r.setLane k fun l => l.tellError e
  | .hangUp k => r.setLane k Lane.hangUp
  | .edit files => { r with workshop.files := files }
  | .report x => { r with workshop := r.workshop.report x }
  | .cancel => r.cancel

/-- The runner after so many moves of a schedule. -/
def after (r : Runner κ) (schedule : Nat → Move) : Nat → Runner κ
  | 0 => r
  | n + 1 => (r.after schedule n).move (schedule n)

/-- What happens by a move of a schedule. -/
def happens (r : Runner κ) (schedule : Nat → Move) (n : Nat) : List (Happening κ) :=
  (r.after schedule (n + 1)).trace.drop (r.after schedule n).trace.length

end Runner

/-! ## Jobs of inputs -/

/-- Whether a job is one of an input, and not one of a task. -/
def Work.ofLane {κ : Type} (w : Work κ) : Bool := w.job.isOfLane

/-- The job in an intake's hands. -/
def Intake.held {κ : Type} : Intake κ → Multiset (Work κ)
  | .holding job => pick Work.ofLane [{ job }]
  | _ => 0

namespace Runner

variable {κ : Type}

/-- The jobs in the hands of the intakes. -/
def heldWorks (r : Runner κ) : Multiset (Work κ) := (r.lanes.map fun l => l.intake.held).sum

/-- The jobs of inputs on their way. -/
def works (r : Runner κ) : Multiset (Work κ) := r.heldWorks + r.pool.jobs Work.ofLane

end Runner

/-! ## Happenings of inputs -/

/-- Whether a happening has to do with an input, and with nothing else. -/
def Happening.isTalk {κ : Type} : Happening κ → Bool
  | accepted .. | resumed .. | executed .. | responded .. | failed .. | stored .. => true
  | panicked sender _ => sender.isSome
  | sent _ sender _ _ => sender.isSome
  | _ => false

/-! ## Lanes -/

/-- What of a lane its jobs depend on. -/
def Lane.core {κ : Type} (l : Lane κ) : Bot × Intake κ := (l.bot, l.intake)

namespace Runner

variable {κ : Type} {r : Runner κ} {k : Nat}

@[simp] theorem getElem?_lanes_setLane (r : Runner κ) (k j : Nat) (f : Lane κ → Lane κ) :
    (r.setLane k f).lanes[j]? = (fun l => if k = j then f l else l) <$> r.lanes[j]? :=
  List.getElem?_modify ..

/-- Changes of a lane that keep something keep it for all lanes. -/
theorem map_lanes_setLane {β : Type} (g : Lane κ → β) {f : Lane κ → Lane κ}
    (keeps : ∀ l, r.lanes[k]? = some l → g (f l) = g l) :
    (r.setLane k f).lanes.map g = r.lanes.map g := by
  apply List.ext_getElem?
  intro j
  rw [List.getElem?_map, List.getElem?_map, getElem?_lanes_setLane]
  cases hl : r.lanes[j]? with
  | none => rfl
  | some l =>
    by_cases same : k = j
    · subst same
      simp [keeps l hl]
    · simp [same]

/-- The job in one intake's hands among those of all. -/
theorem exists_heldWorks_eq {l : Lane κ} (hl : r.lanes[k]? = some l) :
    ∃ rest, r.heldWorks = l.intake.held + rest ∧
      ∀ f : Lane κ → Lane κ, (r.setLane k f).heldWorks = (f l).intake.held + rest := by
  obtain ⟨bound, rfl⟩ := List.getElem?_eq_some_iff.mp hl
  refine ⟨((r.lanes.take k).map fun l => l.intake.held).sum +
    ((r.lanes.drop (k + 1)).map fun l => l.intake.held).sum, ?_, ?_⟩
  · have split : r.lanes = r.lanes.take k ++ r.lanes[k] :: r.lanes.drop (k + 1) := by
      rw [List.cons_getElem_drop_succ, List.take_append_drop]
    conv_lhs => rw [heldWorks, split]
    simp only [List.map_append, List.map_cons, List.sum_append, List.sum_cons]
    abel
  · intro f
    rw [heldWorks, setLane, List.modify_eq_take_cons_drop bound]
    simp only [List.map_append, List.map_cons, List.sum_append, List.sum_cons]
    abel

end Runner

end Switchboard
