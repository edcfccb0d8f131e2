import Switchboard.Error
import Switchboard.Metrics
import Switchboard.Note
import Switchboard.Pool
import Switchboard.Processes
import Switchboard.Ticker

/-!
# A pool under a workload

Named tasks on a worker pool: each notes its start, waits for a time or at a gate or not at all, and
notes its end, unless it panics. Every task is offered to the pool by a producer of its own. A gauge
of the queue's length is kept up to date by a ticker.
-/

namespace Switchboard

/-- What a task does between its start and its end. -/
inductive Chore where
  | finish
  | sleep (ms : Nat)
  /-- Waits until the gate of its name is opened. -/
  | gate
  | panic (message : String)
  deriving Repr, Inhabited

/-- How far a task has got. -/
inductive Progress where
  | unstarted
  | asleep (wake : Nat)
  | atGate
  | awake
  deriving DecidableEq, Repr, Inhabited

/-- A task of a workload. -/
structure Errand where
  name : String
  chore : Chore
  progress : Progress := .unstarted
  deriving Repr, Inhabited

/-- How a producer's offer ended. -/
structure Admission where
  name : String
  refusal : Option PoolError
  deriving Repr, Inhabited

/-- A pool with the tasks on their way. -/
structure Workload where
  now : Nat := 0
  pool : Pool Errand
  gauge : Option Ticker := none
  /-- Producers that wait, with the names of their tasks. -/
  producers : List (Nat × String) := []
  /-- How many tasks have been offered. -/
  offers : Nat := 0
  metrics : Metrics := {}
  /-- Starts and ends, in order. -/
  notes : List String := []
  admissions : List Admission := []
  log : List Note := []
  deriving Inhabited

namespace Workload

/-- A workload on a new pool. -/
def ofSize (workers queueSize : Nat) (period : Option Nat) : Workload :=
  { pool := .ofSize workers queueSize, gauge := period.bind (Ticker.immediate? 0) }

/-- The processes of a workload. -/
inductive Actor where
  | producer (number : Nat)
  | worker (number : Nat)
  | gauge
  deriving DecidableEq, Repr

/-- Offers a task to the pool. -/
def offer (w : Workload) (errand : Errand) : Workload :=
  let number := w.offers
  let w := { w with offers := number + 1 }
  let settled (refusal : Option PoolError) : List Admission :=
    w.admissions ++ [⟨errand.name, refusal⟩]
  if w.pool.closed then { w with admissions := settled (some .closed) }
  else if w.pool.hasRoom then { w with pool := w.pool.push errand, admissions := settled none }
  else
    { w with
      pool := w.pool.keepWaiting number errand
      producers := w.producers ++ [(number, errand.name)] }

/-- Opens the gate at which a task waits. -/
def openGate (w : Workload) (name : String) : Workload :=
  { w with
    pool := { w.pool with
      busy := w.pool.busy.map fun (worker, e) =>
        if e.name = name ∧ e.progress = .atGate then (worker, { e with progress := .awake })
        else (worker, e) } }

/-- Whether a task waits at its gate. -/
def isAtGate (w : Workload) (name : String) : Bool :=
  w.pool.busy.any fun (_, e) => e.name == name && e.progress == .atGate

def close (w : Workload) : Workload := { w with pool := w.pool.close }

/-- Whether all workers have left and the gauge has stopped. -/
def isOver (w : Workload) : Bool := w.pool.isDeserted && w.gauge.isNone

def actors (w : Workload) : List Actor :=
  (w.producers.map fun p => .producer p.1) ++
    (w.pool.idle ++ w.pool.busy.map Prod.fst).map .worker ++
    if w.gauge.isSome then [.gauge] else []

def workerAble (w : Workload) (number : Nat) : Bool :=
  match w.pool.job? number with
  | none => (w.pool.offered? number).isSome || w.pool.canLeave number
  | some e =>
    match e.progress with
    | .unstarted | .awake => true
    | .asleep wake => wake ≤ w.now
    | .atGate => false

def able (a : Actor) (w : Workload) : Bool :=
  match a with
  | .producer n => (w.pool.isWaiting n) && (w.pool.closed || (w.pool.admitted? n).isSome)
  | .worker n => w.workerAble n
  | .gauge => w.gauge.any fun t => w.pool.closed || t.isDue w.now

def note (w : Workload) (text : String) : Workload := { w with notes := w.notes ++ [text] }

/-- A worker ends its task. -/
def finish (w : Workload) (number : Nat) (e : Errand) : Workload :=
  { w.note s!"end {e.name}" with pool := w.pool.finish number }

/-- A worker goes on with the task in its hands. -/
def work (w : Workload) (number : Nat) (e : Errand) : Workload :=
  match e.progress with
  | .unstarted =>
    let begun := w.note s!"start {e.name}"
    let wait (p : Progress) : Workload :=
      { begun with pool := w.pool.setJob number { e with progress := p } }
    match e.chore with
    | .finish => wait .awake
    | .sleep ms => wait (.asleep (w.now + ms))
    | .gate => wait .atGate
    | .panic message =>
      { begun with
        pool := w.pool.finish number
        log := w.log ++ [.jobPanicked message]
        metrics := w.metrics.increment Pool.panicCounter 1 }
  | _ => w.finish number e

def producerStep (w : Workload) (number : Nat) : Workload :=
  let name := (w.producers.lookup number).getD ""
  let settle (pool : Pool Errand) (refusal : Option PoolError) : Workload :=
    { w with
      pool
      producers := w.producers.filter fun p => p.1 ≠ number
      admissions := w.admissions ++ [⟨name, refusal⟩] }
  if w.pool.closed then settle (w.pool.withdraw number) (some .closed)
  else
    match w.pool.admitted? number with
    | some job => settle ((w.pool.withdraw number).push job) none
    | none => w

def step (a : Actor) (w : Workload) : Workload :=
  match a with
  | .producer n => w.producerStep n
  | .worker n =>
    match w.pool.job? n with
    | some e => w.work n e
    | none =>
      if w.pool.canLeave n then { w with pool := w.pool.leave n }
      else { w with pool := w.pool.take n }
  | .gauge =>
    if w.pool.closed then { w with gauge := none }
    else
      { w with
        gauge := w.gauge.map Ticker.next
        metrics := w.metrics.setGauge Pool.lengthGauge w.pool.queueLength }

def dues (w : Workload) : List Nat :=
  (w.gauge.toList.map Ticker.due) ++
    w.pool.busy.filterMap fun (_, e) =>
      match e.progress with
      | .asleep wake => some wake
      | _ => none

/-- Each task takes at most six steps, and each worker and ticker one more. -/
def load (w : Workload) : Nat :=
  8 * (w.producers.length + w.pool.queue.length + w.pool.workers + 2)

/-- The producers, the workers and the gauge as processes. -/
def processes : Processes Workload Actor where
  all := actors
  able := able
  step := step
  now := Workload.now
  setNow n w := { w with now := n }
  dues := dues
  load := load

end Workload

end Switchboard
