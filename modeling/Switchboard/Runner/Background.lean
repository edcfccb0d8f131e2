import Switchboard.Runner.Dispatch
import Switchboard.Runner.Supervision

/-!
# Background work

Next to the lanes and the workers a runner has a timer for each live task, a planner that starts the
timers, a sweeper that purges expired conversations, and a gauge of the pool's queue. The run as a
whole waits until it is told to stop, and then for one part after another.

A firing of a timer is dealt with when its job is in the queue; without a bot for the task there is
no job. Whether something that is both due and told to stop goes on once more is left open: going on
and ending are steps of their own.
-/

namespace Switchboard

namespace Runner

variable {κ : Type}

/-- The counter of firings. -/
def firingCounter : String := "tasks_fired_total"

/-- A firing has been dealt with. -/
def rearm (r : Runner κ) (n : Nat) : Runner κ :=
  { r with timers := r.timers.update n fun t => t.rearm r.now r.clock }

/-- A timer fires. -/
def fire (r : Runner κ) (n : Nat) (t : Timer) : Runner κ :=
  let task := t.task
  let r := { r with timers := r.timers.update n fun t => t.fire r.now }.emit (.fired task.key)
  match r.laneOf? task.botType with
  | none => (r.note .taskWithoutBot).rearm n
  | some k =>
    let r := { r with
      metrics := r.metrics.increment firingCounter 1 [("task", task.identifier)] }
    let work : Work κ := { job := .perform k task }
    if r.pool.closed then r.rearm n
    else if r.pool.hasRoom then { r with pool := r.pool.push work }.rearm n
    else { r with pool := r.pool.keepWaiting (timerProducer n) work }

/-- Whether a timer can go on. -/
def timerIsAble (r : Runner κ) (n : Nat) : Bool :=
  (r.timers.timer? n).any fun t =>
    if t.isFiring then r.poolAnswers (timerProducer n) else t.canFire r.now

/-- The next step of a timer: it fires, or the pool answers it. -/
def timerStep (r : Runner κ) (n : Nat) : Runner κ :=
  match r.timers.timer? n with
  | none => r
  | some t =>
    if t.isFiring then
      let producer := timerProducer n
      let pool := r.pool.withdraw producer
      if r.pool.closed then { r with pool }.rearm n
      else
        match r.pool.admitted? producer with
        | none => r
        | some work => { r with pool := pool.push work }.rearm n
    else r.fire n t

/-- Whether a timer can leave. -/
def timerCanLeave (r : Runner κ) (n : Nat) : Bool := (r.timers.timer? n).any Timer.canLeave

/-- A timer leaves. -/
def timerLeave (r : Runner κ) (n : Nat) : Runner κ := { r with timers := r.timers.leave n }

/-- Whether the planner can start a timer. -/
def plannerIsAble (r : Runner κ) : Bool := !r.plannerIsOver && !r.workshop.feed.tasks.isEmpty

/-- The planner starts a timer for the next new task. -/
def plannerStep (r : Runner κ) : Runner κ :=
  match r.workshop.feed.tasks with
  | [] => r
  | t :: rest =>
    { r with workshop.feed.tasks := rest, timers := r.timers.schedule t r.now r.clock }

/-- The planner ends; later tasks find nobody. -/
def plannerEnd (r : Runner κ) : Runner κ :=
  { r with plannerIsOver := true, workshop.feed := r.workshop.feed.close }

/-- The sweeper purges the expired conversations. -/
def sweep (r : Runner κ) : Runner κ :=
  { r with
    sweeper := r.sweeper.map Ticker.next
    conversations := r.conversations.purge r.now }

/-- The gauge takes the length of the queue. -/
def measure (r : Runner κ) : Runner κ :=
  { r with
    gauge := r.gauge.map Ticker.next
    metrics := r.metrics.setGauge Pool.lengthGauge r.pool.queueLength }

/-- The watcher acts, and the templates whose files have changed are built anew. -/
def watch (r : Runner κ) : Runner κ :=
  let w := r.workshop.watch
  { r with
    workshop := { w with notes := [] }
    trace := r.trace ++ w.notes.map .noted }

/-- Whether the watcher, if it ends with the run, has ended. -/
def watcherIsOver (r : Runner κ) : Bool := !r.ownsWatcher || r.workshop.watcher.all Watcher.isOver

/-- Whether the run as a whole can go on. -/
def courseIsAble (r : Runner κ) : Bool :=
  match r.course with
  | .running => r.isCancelled
  | .closingLanes => r.lanesAreOver
  | .closingPool => r.pool.isDeserted && r.gauge.isNone
  | .closingTimers numbers => !numbers.any fun n => (r.timers.timer? n).isSome
  | .closingRest => r.plannerIsOver && r.sweeper.isNone && r.watcherIsOver
  | .ended | .failed _ => false

/-- The next step of the run as a whole. -/
def courseStep (r : Runner κ) : Runner κ :=
  match r.course with
  | .running =>
    { r with course := .closingLanes, status := r.status.setPhase .shuttingDown }
  | .closingLanes => { r with course := .closingPool }
  | .closingPool =>
    { r with
      course := .closingTimers (r.timers.current.map Prod.snd)
      timers := r.timers.shutdown }
  | .closingTimers _ => { r with course := .closingRest }
  | .closingRest => { r with course := .ended, status := r.status.setPhase .stopped }
  | .ended | .failed _ => r

end Runner

end Switchboard
