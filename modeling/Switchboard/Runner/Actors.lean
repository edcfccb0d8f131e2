import Switchboard.Runner.Background
import Switchboard.Runner.Labour

/-!
# The actors of a runner

Everything in a runner that takes steps of its own. Theorems about all interleavings are about
`Runner.processes.Step`; `Runner.settle` and `Runner.advance` follow one of them.
-/

namespace Switchboard

namespace Runner

variable {κ : Type}

/-- What takes steps. Lanes, workers and timers are given by their numbers. -/
inductive Actor where
  /-- The run as a whole. -/
  | course
  | supervisor (lane : Nat)
  | runLoop (lane : Nat)
  | intake (lane : Nat)
  | errorLoop (lane : Nat)
  | worker (number : Nat)
  /-- A timer that leaves. -/
  | timerExit (number : Nat)
  | timer (number : Nat)
  | plannerExit
  | planner
  | watcher
  | sweeperExit
  | sweeper
  | gaugeExit
  | gauge
  deriving DecidableEq, Repr

/-- The actors in the order in which they are served. Of the idle workers only the first in line can
act. -/
def actors (r : Runner κ) : List Actor :=
  let lanes := (List.range r.lanes.length).flatMap fun k =>
    [.supervisor k, .runLoop k, .intake k, .errorLoop k]
  let workers := (r.pool.idle.take 1 ++ r.pool.busy.map Prod.fst).map .worker
  let timers := r.timers.timers.flatMap fun t => [.timerExit t.number, .timer t.number]
  [.course] ++ lanes ++ workers ++ timers ++
    [.plannerExit, .planner, .watcher, .sweeperExit, .sweeper, .gaugeExit, .gauge]

/-- Whether an actor can take a step. -/
def able (a : Actor) (r : Runner κ) : Bool :=
  match a with
  | .course => r.courseIsAble
  | .supervisor k => r.lanes[k]?.any Lane.supervisorIsAble
  | .runLoop k => r.lanes[k]?.any fun l => l.runIsAble (r.isStopped k)
  | .intake k => r.intakeIsAble k
  | .errorLoop k => r.lanes[k]?.any fun l => l.errorLoopIsAble (r.isStopped k)
  | .worker n => r.workerIsAble n
  | .timerExit n => r.timerCanLeave n
  | .timer n => r.timerIsAble n
  | .plannerExit => r.isCancelled && !r.plannerIsOver
  | .planner => r.plannerIsAble
  | .watcher => r.workshop.isAble
  | .sweeperExit => r.isCancelled && r.sweeper.isSome
  | .sweeper => r.sweeper.any fun t => t.isDue r.now
  | .gaugeExit => r.isCancelled && r.gauge.isSome
  | .gauge => r.gauge.any fun t => t.isDue r.now

/-- The next step of an actor. -/
def step (a : Actor) (r : Runner κ) : Runner κ :=
  match a with
  | .course => r.courseStep
  | .supervisor k => r.supervisorStep k
  | .runLoop k => r.setLane k fun l => l.runStep (r.isStopped k)
  | .intake k => r.intakeStep k
  | .errorLoop k => r.errorStep k
  | .worker n => r.workerStep n
  | .timerExit n => r.timerLeave n
  | .timer n => r.timerStep n
  | .plannerExit => r.plannerEnd
  | .planner => r.plannerStep
  | .watcher => r.watch
  | .sweeperExit => { r with sweeper := none }
  | .sweeper => r.sweep
  | .gaugeExit => { r with gauge := none }
  | .gauge => r.measure

/-- The times for which actors wait. -/
def dues (r : Runner κ) : List Nat :=
  r.timers.dues ++ (r.sweeper.toList ++ r.gauge.toList).map Ticker.due ++
    (r.pool.busy.filterMap fun b => b.2.due?) ++ r.workshop.dues

/-- How many steps are taken at one moment at most; no burst of work comes near. -/
def stepLimit : Nat := 0x1000000

/-- The actors as processes. -/
def processes : Processes (Runner κ) Actor where
  all := actors
  able := able
  step := step
  now := now
  setNow n r := { r with workshop.now := n }
  dues := dues
  load _ := stepLimit

/-- Lets all actors go on until they wait. -/
def settle (r : Runner κ) : Runner κ := processes.settle r

/-- Lets time pass. -/
def advance (r : Runner κ) (ms : Nat) : Runner κ := processes.advance ms r

/-- Whether the run has ended or could not begin. -/
def isOver (r : Runner κ) : Bool :=
  match r.course with
  | .ended | .failed _ => true
  | _ => false

/-- Tells the run to stop, and lets time pass until it has ended. -/
def shutDown (r : Runner κ) (patience : Nat) : Runner κ :=
  processes.advanceUntil isOver patience r.cancel.settle

/-- The outputs that were sent, bot type after bot type in the order of their names. -/
def outputs (r : Runner κ) : List (BotType × Output) :=
  let sent := r.trace.filterMap Happening.output?
  (BotType.sortedOnce (r.lanes.map Lane.botType)).flatMap fun b => sent.filter fun o => o.1 = b

/-- Whether the bot of a lane shows the inputs that it responded to. -/
def showsUnmatched (r : Runner κ) (bot : BotType) : Bool :=
  r.lanes.any fun l => l.botType == bot && l.bot.showsUnmatched && !l.isHungUp

/-- The inputs to which bots responded, bot type after bot type in the order of their names. -/
def unmatched (r : Runner κ) : List (BotType × Input) :=
  let responded := r.trace.filterMap Happening.unmatched?
  (BotType.sortedOnce (r.lanes.map Lane.botType)).flatMap fun b =>
    responded.filter fun i => i.1 = b && r.showsUnmatched b

/-- What was logged, in order. -/
def log (r : Runner κ) : List Note := r.trace.filterMap Happening.note?

end Runner

end Switchboard
