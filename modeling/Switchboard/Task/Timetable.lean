import Switchboard.Processes
import Switchboard.Task.Timers

/-!
# A timetable

Task timers on a clock, where dealing with a firing takes a fixed time. The timetable counts how
often each timer has fired.
-/

namespace Switchboard

/-- Timers on a clock. -/
structure Timetable where
  now : Nat := 0
  /-- The time of day at the clock's start. -/
  origin : Timestamp
  timers : Timers := {}
  /-- How long a firing takes. -/
  firing : Nat := 0
  /-- Timers that are firing, and when they are done. -/
  ends : List (Nat × Nat) := []
  /-- The numbers of the timers that fired, the last one first. -/
  fired : List Nat := []

namespace Timetable

/-- The time of day. -/
def clock (t : Timetable) : Timestamp := (t.origin.addMillis? t.now).getD t.origin

def schedule (t : Timetable) (task : ScheduledTask) : Timetable :=
  { t with timers := t.timers.schedule task t.now t.clock }

/-- What takes steps. A timer that is due and has been stopped may do either. -/
inductive Actor where
  /-- A timer that leaves. -/
  | exit (number : Nat)
  /-- A timer that fires or is done with a firing. -/
  | timer (number : Nat)
  deriving DecidableEq, Repr

def able (a : Actor) (t : Timetable) : Bool :=
  match a with
  | .exit n => (t.timers.timer? n).any Timer.canLeave
  | .timer n =>
    match t.ends.lookup n with
    | some time => time ≤ t.now
    | none => (t.timers.timer? n).any fun timer => timer.canFire t.now

/-- The next step of a timer: a firing ends, or the timer fires. -/
def go (t : Timetable) (number : Nat) : Timetable :=
  match t.ends.lookup number with
  | some _ =>
    { t with
      timers := t.timers.update number fun timer => timer.rearm t.now t.clock
      ends := t.ends.filter fun e => e.1 ≠ number }
  | none =>
    { t with
      timers := t.timers.update number fun timer => timer.fire t.now
      ends := t.ends ++ [(number, t.now + t.firing)]
      fired := number :: t.fired }

/-- The next step of an actor. -/
def step (a : Actor) (t : Timetable) : Timetable :=
  match a with
  | .exit n => { t with timers := t.timers.leave n }
  | .timer n => t.go n

/-- The timers as processes. A timer fires, rearms and leaves at most once at one moment, unless it
is behind its time. -/
def processes : Processes Timetable Actor where
  all t := t.timers.timers.flatMap fun timer => [.exit timer.number, .timer timer.number]
  able := able
  step := step
  now := Timetable.now
  setNow n t := { t with now := n }
  dues t := t.timers.dues ++ t.ends.map Prod.snd
  load t := 12 * (t.timers.timers.length + 1)

end Timetable

end Switchboard
