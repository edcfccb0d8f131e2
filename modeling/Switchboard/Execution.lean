import Switchboard.Error
import Switchboard.Message

/-!
# Executions

An execution is a small activity: it ends with a result, fails, panics, or waits first. A command is
executed for an input and ends with a turn: a content to send, and a step for the sender's next
input. What a step does is written in some language `κ`, which says how its codes are run; so steps
that lead back to themselves are codes, not infinite objects.
-/

namespace Switchboard

/-- What an execution does. Waiting is in milliseconds. -/
inductive Activity (α : Type) where
  | done (result : α)
  | fail (cause : Chain)
  | panic (message : String)
  | sleep (ms : Nat) (after : Activity α)
  /-- Waits `ms`, but gives up after `limit` or when the execution is cancelled. -/
  | guarded (ms limit : Nat) (finished givenUp : Activity α)
  deriving Inhabited

/-- How an execution ended. -/
inductive Outcome (α : Type) where
  | done (result : α)
  | failed (cause : Chain)
  | panicked (message : String)
  deriving Inhabited

namespace Activity

variable {α : Type}

/-- How the activity ends when nothing cancels it. -/
def outcome : Activity α → Outcome α
  | done a => .done a
  | fail c => .failed c
  | panic m => .panicked m
  | sleep _ after => after.outcome
  | guarded ms limit a b => if ms ≤ limit then a.outcome else b.outcome

end Activity

/-- What a command is executed with. -/
structure Call where
  botType : BotType
  input : Input
  /-- The time of day at which the execution begins. -/
  clock : Timestamp
  deriving Inhabited

/-- The stored step of a conversation: what is run for the sender's next input. -/
structure Step (κ : Type) where
  /-- Its own time to live in milliseconds. -/
  ttl : Option Nat := none
  code : κ
  deriving DecidableEq, Repr

/-- What executing a command or a step yields. -/
structure Turn (κ : Type) where
  content : Option Content := none
  next : Option (Step κ) := none
  deriving Inhabited

namespace Turn

/-- A turn that sends a text. -/
def say {κ : Type} (s : String) : Turn κ := { content := some (.text s) }

end Turn

/-- How commands and steps are executed. -/
abbrev Executor (κ : Type) := Call → Activity (Turn κ)

/-- A language of steps: how a code is run. -/
abbrev Language (κ : Type) := κ → Executor κ

/-- One result of a task; without a destination it goes to the default one. -/
structure TaskResult where
  content : Content
  destination : Option Destination := none
  deriving Repr, Inhabited

/-- What a task is executed with. -/
structure TaskCall where
  botType : BotType
  /-- How many executions of the task's template have begun, this one among them. -/
  count : Nat
  clock : Timestamp
  deriving Inhabited

/-- How tasks are executed. -/
abbrev TaskExecutor := TaskCall → Activity (List TaskResult)

end Switchboard
