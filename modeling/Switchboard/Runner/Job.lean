import Switchboard.Task.Template

/-!
# Jobs

What workers do: deliver a help listing, deal with a message, or execute a task. A job is carried
out in steps, between which other jobs may go on: it begins, its execution waits as often as it
likes and ends, and then its outputs are sent one after another.
-/

namespace Switchboard

/-- An execution on its way. -/
structure Execution (α : Type) where
  /-- What is left to do, beginning with the current wait. -/
  rest : Activity α
  /-- When the current wait ends, if there is one. -/
  wake : Nat
  deriving Inhabited

namespace Execution

variable {α : Type}

/-- Begins an activity. -/
def start (now : Nat) (a : Activity α) : Execution α :=
  match a with
  | .sleep ms _ => ⟨a, now + ms⟩
  | .guarded ms limit _ _ => ⟨a, now + min ms limit⟩
  | _ => ⟨a, now⟩

/-- Whether the execution waits, and until when at the latest. -/
def due? (e : Execution α) : Option Nat :=
  match e.rest with
  | .sleep .. | .guarded .. => some e.wake
  | _ => none

/-- Whether the execution can go on. A guarded wait ends early when the execution is cancelled. -/
def canGoOn (e : Execution α) (now : Nat) (cancelled : Bool) : Bool :=
  match e.rest with
  | .sleep .. => e.wake ≤ now
  | .guarded .. => cancelled || e.wake ≤ now
  | _ => true

/-- The execution after its current wait. -/
def goOn (e : Execution α) (now : Nat) (cancelled : Bool) : Execution α :=
  match e.rest with
  | .sleep _ after => start now after
  | .guarded ms limit finished givenUp =>
    start now (if cancelled || limit < ms then givenUp else finished)
  | _ => e

/-- How the execution ended, if it has. -/
def outcome? (e : Execution α) : Option (Outcome α) :=
  match e.rest with
  | .done a => some (.done a)
  | .fail c => some (.failed c)
  | .panic m => some (.panicked m)
  | _ => none

end Execution

/-- A job. Lanes are given by their number. -/
inductive Job (κ : Type) where
  /-- Sends the answer to a request. -/
  | deliver (lane : Nat) (sender : String) (output : Output)
  /-- Deals with a message, with the step that was pending for its sender. -/
  | converse (lane : Nat) (input : Input) (pending : Option (Step κ))
  /-- Executes a task. -/
  | perform (lane : Nat) (task : ScheduledTask)

namespace Job

variable {κ : Type}

/-- The lane whose bot sends the outputs. -/
def lane : Job κ → Nat
  | deliver lane .. => lane
  | converse lane .. => lane
  | perform lane _ => lane

/-- Whether the job belongs to its lane and is cancelled with it; tasks belong to the runner. -/
def isOfLane : Job κ → Bool
  | perform .. => false
  | _ => true

/-- The sender to whom the job is due. -/
def sender? : Job κ → Option String
  | deliver _ sender _ => some sender
  | converse _ input _ => some input.sender
  | perform .. => none

end Job

/-- How far a job has got. -/
inductive Stage (κ : Type) where
  | ready
  /-- A command or a step is executed; `label` names it. -/
  | talking (label : String) (since : Nat) (execution : Execution (Turn κ))
  /-- A task is executed. -/
  | working (execution : Execution (List TaskResult))
  /-- Outputs are left to be sent. -/
  | sending (outputs : List Output)
  deriving Inhabited

/-- A job in a worker's hands. -/
structure Work (κ : Type) where
  job : Job κ
  stage : Stage κ := .ready

namespace Work

variable {κ : Type}

/-- The time for which a job waits. -/
def due? (w : Work κ) : Option Nat :=
  match w.stage with
  | .talking _ _ e => e.due?
  | .working e => e.due?
  | _ => none

/-- Whether the job can go on. -/
def canGoOn (w : Work κ) (now : Nat) (cancelled : Bool) : Bool :=
  match w.stage with
  | .talking _ _ e => e.canGoOn now cancelled
  | .working e => e.canGoOn now cancelled
  | _ => true

end Work

end Switchboard
