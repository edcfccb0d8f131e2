/-!
# The worker pool

A fixed number of workers takes jobs from a bounded queue. A producer that finds the queue full
waits; producers are admitted in the order in which they came, and a free place of the queue belongs
to the first of them who waits. Idle workers stand in line too: the first takes the next job. After
the pool is closed no job is taken any more, and every worker leaves once it has nothing in hand.

A job is whatever the pool's owner makes of it; a busy worker has its job in hand, and the owner
keeps there how far it has got.
-/

namespace Switchboard

/-- A pool of workers for jobs of type `ι`. Workers are numbered from 0. -/
structure Pool (ι : Type) where
  /-- How many jobs the queue holds. -/
  capacity : Nat
  /-- Idle workers, the one that takes the next job first. -/
  idle : List Nat
  /-- Busy workers with their jobs. -/
  busy : List (Nat × ι) := []
  /-- Jobs that no worker has taken, the oldest first. -/
  queue : List ι := []
  /-- Producers that wait for a place, with their jobs, the first comer first. -/
  waiting : List (Nat × ι) := []
  closed : Bool := false
  deriving Repr, Inhabited

namespace Pool

variable {ι : Type}

/-- The counter of jobs that panicked. -/
def panicCounter : String := "worker_panics_total"

/-- The gauge of the queue's length. -/
def lengthGauge : String := "worker_queue_length"

/-- A pool of at least one worker, with a queue of at least one place. -/
def ofSize (workers queueSize : Nat) : Pool ι :=
  { capacity := max queueSize 1, idle := List.range (max workers 1) }

/-- How many workers have not left. -/
def workers (p : Pool ι) : Nat := p.idle.length + p.busy.length

/-- Whether a newcomer's job finds a place. -/
def hasRoom (p : Pool ι) : Bool := p.queue.length + p.waiting.length < p.capacity

/-- Puts a job at the end of the queue. -/
def push (p : Pool ι) (job : ι) : Pool ι := { p with queue := p.queue ++ [job] }

/-- Lets a producer wait with its job. -/
def keepWaiting (p : Pool ι) (producer : Nat) (job : ι) : Pool ι :=
  { p with waiting := p.waiting ++ [(producer, job)] }

/-- Whether a producer waits. -/
def isWaiting (p : Pool ι) (producer : Nat) : Bool := p.waiting.any fun w => w.1 == producer

/-- The job with which a producer waits, if a place is free for it. -/
def admitted? (p : Pool ι) (producer : Nat) : Option ι :=
  ((p.waiting.take (p.capacity - p.queue.length)).find? fun w => w.1 == producer).map Prod.snd

/-- Ends a producer's waiting. -/
def withdraw (p : Pool ι) (producer : Nat) : Pool ι :=
  { p with waiting := p.waiting.filter fun w => w.1 ≠ producer }

/-- Whether a worker stands first in line. -/
def isNext (p : Pool ι) (worker : Nat) : Bool := p.idle.head? == some worker

/-- The job that a worker can take now. -/
def offered? (p : Pool ι) (worker : Nat) : Option ι :=
  if p.isNext worker && !p.closed then p.queue.head? else none

/-- A worker takes the first job of the queue. -/
def take (p : Pool ι) (worker : Nat) : Pool ι :=
  match p.offered? worker with
  | none => p
  | some job =>
    { p with
      idle := p.idle.drop 1
      busy := p.busy ++ [(worker, job)]
      queue := p.queue.drop 1 }

/-- The job in a worker's hands. -/
def job? (p : Pool ι) (worker : Nat) : Option ι := p.busy.lookup worker

/-- Sets how far a worker has got with its job. -/
def setJob (p : Pool ι) (worker : Nat) (job : ι) : Pool ι :=
  { p with busy := p.busy.map fun b => if b.1 = worker then (worker, job) else b }

/-- A worker has finished its job and stands in line again. -/
def finish (p : Pool ι) (worker : Nat) : Pool ι :=
  { p with
    idle := p.idle ++ [worker]
    busy := p.busy.filter fun b => b.1 ≠ worker }

/-- Whether a worker can leave. -/
def canLeave (p : Pool ι) (worker : Nat) : Bool := p.closed && p.isNext worker

/-- The first worker in line leaves a closed pool. When the last has left, the queue is dropped. -/
def leave (p : Pool ι) (worker : Nat) : Pool ι :=
  let rest := { p with idle := p.idle.erase worker }
  if rest.workers = 0 then { rest with queue := [] } else rest

/-- Closes the pool. -/
def close (p : Pool ι) : Pool ι := { p with closed := true }

/-- How many jobs wait in the queue. -/
def queueLength (p : Pool ι) : Nat := p.queue.length

/-- Whether all workers have left. -/
def isDeserted (p : Pool ι) : Bool := p.workers = 0

end Pool

end Switchboard
