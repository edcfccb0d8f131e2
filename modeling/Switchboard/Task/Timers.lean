import Switchboard.Task.Template
import Switchboard.Ticker

/-!
# Task timers

Each task has a timer of its own, and a key that stays the same when the task is built anew.
Scheduling a task whose key has a timer stops that timer. A timer fires when it is due and does not
go on before the firing has been dealt with; a stopped timer leaves as soon as it is not firing. If
a timer is both due and stopped, either may win.
-/

namespace Switchboard

/-- What identifies a task across its builds. -/
structure TaskKey where
  botType : BotType
  identifier : String
  deriving DecidableEq, Repr, Inhabited

instance : ToString TaskKey := ⟨fun k => s!"{k.botType}/{k.identifier}"⟩

def ScheduledTask.key (t : ScheduledTask) : TaskKey := ⟨t.botType, t.identifier⟩

/-- The milliseconds until a schedule fires next, by the time of day. -/
def Schedule.waitFrom? (s : Schedule) (clock : Timestamp) : Option Nat :=
  match s.nextAfter clock with
  | .next t => some (clock.millisUntil t)
  | _ => none

/-- A timer. Timers are numbered in the order of their making. -/
structure Timer where
  number : Nat
  task : ScheduledTask
  /-- When the timer fires next, if it ever does. -/
  due : Option Nat
  /-- Whether a firing is being dealt with. -/
  isFiring : Bool := false
  isStopped : Bool := false

namespace Timer

/-- A timer that begins to wait at `now`; `clock` is the time of day. -/
def start (number : Nat) (task : ScheduledTask) (now : Nat) (clock : Timestamp) : Timer :=
  let wait :=
    match task.schedule with
    | .every ms => some ms
    | s => s.waitFrom? clock
  { number, task, due := wait.map (now + ·) }

/-- Whether the timer can fire. -/
def canFire (t : Timer) (now : Nat) : Bool := !t.isFiring && t.due.any (· ≤ now)

/-- Whether the timer can leave. -/
def canLeave (t : Timer) : Bool := !t.isFiring && (t.isStopped || t.due.isNone)

/-- The timer begins a firing. An interval is counted from the time for which this firing was due,
or from now if that is long past. -/
def fire (t : Timer) (now : Nat) : Timer :=
  let next :=
    match t.task.schedule, t.due with
    | .every ms, some due => some ((Ticker.mk ms due).nextFrom now).due
    | _, _ => none
  { t with due := next, isFiring := true }

/-- The firing has been dealt with. A calendar rule is asked again now. -/
def rearm (t : Timer) (now : Nat) (clock : Timestamp) : Timer :=
  let next :=
    match t.task.schedule with
    | .every _ => t.due
    | s => (s.waitFrom? clock).map (now + ·)
  { t with due := next, isFiring := false }

end Timer

/-- The timers that have not left, and which of them stands for each key. -/
structure Timers where
  timers : List Timer := []
  current : List (TaskKey × Nat) := []
  /-- How many timers have been made. -/
  made : Nat := 0
  /-- Whether all timers are stopped, later ones too. -/
  closed : Bool := false

namespace Timers

def timer? (s : Timers) (number : Nat) : Option Timer := s.timers.find? fun t => t.number == number

def contains (s : Timers) (key : TaskKey) : Bool := s.current.any fun e => e.1 == key

def size (s : Timers) : Nat := s.current.length

def isEmpty (s : Timers) : Bool := s.current.isEmpty

def update (s : Timers) (number : Nat) (f : Timer → Timer) : Timers :=
  { s with timers := s.timers.map fun t => if t.number = number then f t else t }

/-- Stops the timer that stands for a key, and forgets the key. -/
def cancel (s : Timers) (key : TaskKey) : Timers :=
  let numbers := (s.current.filter fun e => e.1 = key).map Prod.snd
  { s with
    timers := s.timers.map fun t =>
      if numbers.contains t.number then { t with isStopped := true } else t
    current := s.current.filter fun e => e.1 ≠ key }

/-- Starts a timer for a task in the place of an earlier one. -/
def schedule (s : Timers) (task : ScheduledTask) (now : Nat) (clock : Timestamp) : Timers :=
  let rest := s.cancel task.key
  { rest with
    timers := rest.timers ++ [{ Timer.start s.made task now clock with isStopped := s.closed }]
    current := rest.current ++ [(task.key, s.made)]
    made := s.made + 1 }

/-- Stops all timers, and those that are made later. -/
def close (s : Timers) : Timers :=
  { s with timers := s.timers.map fun t => { t with isStopped := true }, closed := true }

/-- Stops all timers that stand for keys, and forgets the keys. -/
def shutdown (s : Timers) : Timers :=
  { s with timers := s.timers.map fun t => { t with isStopped := true }, current := [] }

/-- A timer leaves. -/
def leave (s : Timers) (number : Nat) : Timers :=
  { s with timers := s.timers.filter fun t => t.number ≠ number }

/-- The times for which timers wait. -/
def dues (s : Timers) : List Nat :=
  s.timers.filterMap fun t => if t.isFiring then none else t.due

end Timers

end Switchboard
