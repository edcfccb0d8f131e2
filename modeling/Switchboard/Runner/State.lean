import Switchboard.Conversations
import Switchboard.Metrics
import Switchboard.Pool
import Switchboard.Registry.Workshop
import Switchboard.Runner.Happening
import Switchboard.Runner.Lane
import Switchboard.Status
import Switchboard.Ticker

/-!
# The state of a runner

A runner consists of the workshop with its live commands and tasks, a lane for each bot, the worker
pool, the pending conversations and the task timers. `Runner.course` says how far the run as a whole
has come.
-/

namespace Switchboard

/-- How far a run has come. -/
inductive Course where
  | running
  /-- Waiting for the lanes to close. -/
  | closingLanes
  /-- Waiting for the workers to leave. -/
  | closingPool
  /-- Waiting for these timers to leave. -/
  | closingTimers (numbers : List Nat)
  /-- Waiting for the planner, the sweeper and the watcher to end. -/
  | closingRest
  | ended
  /-- The run could not begin. -/
  | failed (cause : RunnerError)
  deriving DecidableEq, Repr, Inhabited

/-- A runner. -/
structure Runner (κ : Type) where
  /-- How the codes of steps are run. -/
  language : Language κ
  /-- The time of day at the clock's start. -/
  origin : Timestamp
  workshop : Workshop κ
  /-- Whether the watcher was made for this run and ends with it. -/
  ownsWatcher : Bool := false
  lanes : List (Lane κ) := []
  alerters : List Alerter := []
  pool : Pool (Work κ)
  conversations : Conversations κ
  timers : Timers := {}
  /-- Whether the planner, which starts timers for new tasks, has ended. -/
  plannerIsOver : Bool := false
  sweeper : Option Ticker := none
  gauge : Option Ticker := none
  metrics : Metrics := {}
  status : Status
  course : Course := .running
  /-- Whether the run as a whole has been told to stop. -/
  isCancelled : Bool := false
  /-- What has happened, in order. -/
  trace : List (Happening κ) := []

namespace Runner

variable {κ : Type}

/-- The milliseconds since the clock's start. -/
def now (r : Runner κ) : Nat := r.workshop.now

/-- The time of day. -/
def clock (r : Runner κ) : Timestamp := (r.origin.addMillis? r.now).getD r.origin

/-- Appends to the trace. -/
def emit (r : Runner κ) (h : Happening κ) : Runner κ := { r with trace := r.trace ++ [h] }

def note (r : Runner κ) (n : Note) : Runner κ := r.emit (.noted n)

/-- Changes a lane. -/
def setLane (r : Runner κ) (k : Nat) (f : Lane κ → Lane κ) : Runner κ :=
  { r with lanes := r.lanes.modify k f }

/-- The lane of a bot type. -/
def laneOf? (r : Runner κ) (bot : BotType) : Option Nat :=
  r.lanes.findIdx? fun l => l.botType = bot

/-- The bot type of a lane. -/
def botTypeOf (r : Runner κ) (k : Nat) : BotType := (r.lanes[k]?.map Lane.botType).getD default

/-- Whether a lane has been told to stop, by itself or with the whole run. -/
def isStopped (r : Runner κ) (k : Nat) : Bool := r.isCancelled || r.lanes[k]?.any Lane.isStopped

/-- The number under which a lane's intake waits at the pool. -/
def intakeProducer (k : Nat) : Nat := 2 * k

/-- The number under which a timer waits at the pool. -/
def timerProducer (n : Nat) : Nat := 2 * n + 1

/-- Tells the whole run to stop. -/
def cancel (r : Runner κ) : Runner κ :=
  { r with
    isCancelled := true
    workshop := r.workshop.cancel
    pool := r.pool.close
    timers := r.timers.close }

end Runner

end Switchboard
