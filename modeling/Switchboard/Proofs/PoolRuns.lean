import Switchboard.Metrics
import Switchboard.Proofs.PoolJobs

/-!
# Runs of a pool

A pool at work: newcomers find a place in the queue or wait, producers that wait are admitted, and
workers take jobs and finish them, or lose them to a panic. Idle workers share the receiving end of
the queue: only one of them holds it at a time, and which is left open. `Crew.Happens` has all these
events, in any order; a run lists what has happened.

All events keep the workers and the bounds of the pool (`Crew.IsSound`), and they lose no job
(`Crew.IsBooked`): jobs that were offered wait or were admitted, those admitted are queued or were
started, in their order, and those started are in hand or finished.
-/

namespace Switchboard

namespace Pool

variable {ι : Type} {own : ι → Bool} {p : Pool ι} {n : Nat} {job : ι}

/-! ## Workers -/

/-- Lets an idle worker stand first in line. -/
def promote (p : Pool ι) (n : Nat) : Pool ι := { p with idle := n :: p.idle.erase n }

theorem perm_promote (idle : n ∈ p.idle) : (p.promote n).idle.Perm p.idle :=
  (List.perm_cons_erase idle).symm

theorem IsOrderly.promote (h : p.IsOrderly own) (idle : n ∈ p.idle) :
    (p.promote n).IsOrderly own :=
  ⟨((perm_promote idle).append_right _).nodup_iff.mpr h.workers, h.producers⟩

/-- Who is first in line stays there. -/
theorem promote_of_isNext (h : p.isNext n = true) : p.promote n = p := by
  obtain ⟨rest, idle⟩ := List.head?_eq_some_iff.mp (by simpa [isNext] using h)
  rw [promote, idle, List.erase_cons_head, ← idle]

theorem workers_promote (idle : n ∈ p.idle) : (p.promote n).workers = p.workers := by
  rw [workers, (perm_promote idle).length_eq]
  rfl

theorem workers_take (offered : p.offered? n = some job) : (p.take n).workers = p.workers := by
  obtain ⟨idle, queue, hi, -, taken⟩ := exists_take_eq offered
  simp only [taken, workers, hi, List.length_append, List.length_cons, List.length_nil]
  omega

theorem workers_finish (h : p.IsOrderly own) (held : p.job? n = some job) :
    (p.finish n).workers = p.workers := by
  obtain ⟨front, back, busy, -, gone⟩ := exists_busy_eq h held
  rw [workers, gone, workers, busy]
  simp only [finish, List.length_append, List.length_cons, List.length_nil]
  omega

/-! ## Producers -/

theorem length_queue_lt_of_admitted? {producer : Nat} (h : p.admitted? producer = some job) :
    p.queue.length < p.capacity := by
  obtain ⟨e, found, -⟩ := Option.map_eq_some_iff.mp h
  have := List.length_pos_of_mem (List.mem_of_find?_eq_some found)
  rw [List.length_take] at this
  omega

/-- The first that waits is admitted if there is a place. -/
theorem admitted?_head {w : Nat × ι} {rest : List (Nat × ι)} (waits : p.waiting = w :: rest)
    (room : p.queue.length < p.capacity) : p.admitted? w.1 = some w.2 := by
  obtain ⟨k, places⟩ := Nat.exists_eq_succ_of_ne_zero (Nat.sub_pos_of_lt room).ne'
  rw [admitted?, waits, places, List.take_succ_cons, List.find?_cons_of_pos (by simp)]
  rfl

/-- A producer waits only for a pool without room. -/
theorem hasRoom_eq_false {producer : Nat} (waits : p.isWaiting producer = true)
    (refused : p.admitted? producer = none) : p.hasRoom = false := by
  by_contra room
  have short : p.waiting.length ≤ p.capacity - p.queue.length := by
    simp only [hasRoom, Bool.not_eq_false, decide_eq_true_eq] at room
    omega
  rw [admitted?, List.take_of_length_le short, Option.map_eq_none_iff,
    List.find?_eq_none] at refused
  obtain ⟨e, he, same⟩ := List.any_eq_true.mp waits
  exact refused e he same

/-- Who is admitted leaves the others waiting. -/
theorem perm_waiting {producer : Nat} (h : p.IsOrderly fun _ => true)
    (admitted : p.admitted? producer = some job) :
    (p.waiting.map Prod.snd).Perm (job :: (p.withdraw producer).waiting.map Prod.snd) := by
  have jobs := jobs_admitted h (fun _ _ _ => rfl) admitted
  simp only [Pool.jobs, ← Multiset.cons_add] at jobs
  have same := add_right_cancel (add_right_cancel jobs)
  simpa only [pick, List.filter_true, Multiset.cons_coe, Multiset.coe_eq_coe] using same

end Pool

namespace Metrics

/-- A counter counts, up to its limit. -/
theorem counter_increment {m : Metrics} {name : String} {count : Nat}
    (h : m.counter name = min limit count) :
    (m.increment name 1).counter name = min limit (count + 1) := by
  rw [counter] at h ⊢
  rw [increment, Table.find?_update, if_pos rfl, Option.getD_some, h, saturatingAdd]
  omega

end Metrics

/-! ## Events -/

/-- What happens to a pool at work. -/
inductive PoolEvent (ι : Type) where
  /-- The job of a newcomer finds a place. -/
  | enter (job : ι)
  /-- A newcomer waits with its job. -/
  | wait (producer : Nat) (job : ι)
  /-- A producer that waits gets a place for its job. -/
  | place (producer : Nat) (job : ι)
  /-- An idle worker gets hold of the receiving end of the queue. -/
  | receive (worker : Nat)
  /-- The worker that has it takes a job, and lets go of it. -/
  | start (worker : Nat) (job : ι)
  /-- Jobs in hand get on. -/
  | goOn
  | finish (worker : Nat) (job : ι) (panicked : Bool)
  /-- The length of the queue is reported. -/
  | report

namespace PoolEvent

variable {ι : Type}

def offered? : PoolEvent ι → Option ι
  | enter job | wait _ job => some job
  | _ => none

def admitted? : PoolEvent ι → Option ι
  | enter job | place _ job => some job
  | _ => none

def started? : PoolEvent ι → Option ι
  | start _ job => some job
  | _ => none

def finished? : PoolEvent ι → Option ι
  | finish _ job _ => some job
  | _ => none

def isPanic : PoolEvent ι → Bool
  | finish _ _ panicked => panicked
  | _ => false

/-- Whether the pool does this by itself: no newcomer comes, no job gets on or ends, and no time
passes. -/
def isOwn : PoolEvent ι → Bool
  | place .. | receive _ | start .. => true
  | _ => false

end PoolEvent

/-- A pool at work. -/
structure Crew (ι : Type) where
  pool : Pool ι
  /-- The idle worker that has the receiving end of the queue. -/
  receiver : Option Nat := none
  metrics : Metrics := {}

namespace Crew

open PoolEvent

/-- A new pool. -/
def ofSize {ι : Type} (workers queueSize : Nat) : Crew ι := { pool := .ofSize workers queueSize }

section

variable {ι τ : Type} (tag : ι → τ) (s : Crew ι)

/-- What may happen. Jobs are known by their tags, which stay the same while they get on. -/
inductive Happens : PoolEvent ι → Crew ι → Prop
  | enter (job : ι) (room : s.pool.hasRoom = true) :
    Happens (.enter job) { s with pool := s.pool.push job }
  | wait (producer : Nat) (job : ι) (full : s.pool.hasRoom = false)
    (fresh : s.pool.isWaiting producer = false) :
    Happens (.wait producer job) { s with pool := s.pool.keepWaiting producer job }
  | place (producer : Nat) (job : ι) (h : s.pool.admitted? producer = some job) :
    Happens (.place producer job) { s with pool := (s.pool.withdraw producer).push job }
  | receive (n : Nat) (free : s.receiver = none) (idle : n ∈ s.pool.idle) :
    Happens (.receive n) { s with pool := s.pool.promote n, receiver := some n }
  | start (n : Nat) (job : ι) (holds : s.receiver = some n)
    (offered : s.pool.offered? n = some job) :
    Happens (.start n job) { s with pool := s.pool.take n, receiver := none }
  | goOn (busy : List (Nat × ι))
    (same : busy.map (Prod.map id tag) = s.pool.busy.map (Prod.map id tag)) :
    Happens .goOn { s with pool := { s.pool with busy } }
  | finish (n : Nat) (job : ι) (panicked : Bool) (held : s.pool.job? n = some job) :
    Happens (.finish n job panicked)
      { s with
        pool := s.pool.finish n
        metrics := if panicked then s.metrics.increment Pool.panicCounter 1 else s.metrics }
  | report :
    Happens .report
      { s with metrics := s.metrics.setGauge Pool.lengthGauge s.pool.queueLength }

/-- What has happened, in order, and what it has led to. -/
inductive Run (start : Crew ι) : List (PoolEvent ι) → Crew ι → Prop
  | nil : Run start [] start
  | snoc {past : List (PoolEvent ι)} {s t : Crew ι} {e : PoolEvent ι} (h : Run start past s)
    (happens : s.Happens tag e t) : Run start (past ++ [e]) t

/-- The jobs that workers have in hand. -/
def running : List τ := s.pool.busy.map fun b => tag b.2

end

variable {ι τ : Type} {tag : ι → τ} {s t : Crew ι} {past : List (PoolEvent ι)} {e : PoolEvent ι}
  {workers queueSize : Nat}

/-- A worker that gets on with its job. -/
theorem happens_setJob {own : ι → Bool} (h : s.pool.IsOrderly own) {n : Nat} {job next : ι}
    (held : s.pool.job? n = some job) (same : tag next = tag job) :
    s.Happens tag .goOn { s with pool := s.pool.setJob n next } := by
  obtain ⟨front, back, busy, set, -⟩ := Pool.exists_busy_eq h held
  refine .goOn (s.pool.setJob n next).busy ?_
  simp [set, busy, same]

/-! ## Workers and places -/

/-- What all events keep: all workers, at most as many jobs as there are places. -/
structure IsSound (s : Crew ι) (workers queueSize : Nat) : Prop where
  orderly : s.pool.IsOrderly fun _ => true
  running : s.pool.closed = false
  capacity : s.pool.capacity = max queueSize 1
  workers : s.pool.workers = max workers 1
  receiver : ∀ n ∈ s.receiver, s.pool.idle.head? = some n
  queue : s.pool.queue.length ≤ s.pool.capacity

theorem IsSound.happens (h : s.IsSound workers queueSize) (happens : s.Happens tag e t) :
    t.IsSound workers queueSize := by
  cases happens with
  | enter job room =>
    have room : s.pool.queue.length + s.pool.waiting.length < s.pool.capacity := by
      simpa [Pool.hasRoom] using room
    refine { h with orderly := h.orderly.push job, queue := ?_ }
    simp only [Pool.push, List.length_append, List.length_singleton]
    omega
  | wait producer job full fresh =>
    refine { h with orderly := h.orderly.keepWaiting fun _ w hw _ => ?_ }
    simpa using List.any_eq_false.mp fresh w hw
  | place producer job admitted =>
    have := Pool.length_queue_lt_of_admitted? admitted
    refine { h with orderly := (h.orderly.withdraw producer).push job, queue := ?_ }
    simp only [Pool.push, Pool.withdraw, List.length_append, List.length_singleton]
    omega
  | receive n free idle =>
    refine { h with
      orderly := h.orderly.promote idle
      workers := (Pool.workers_promote idle).trans h.workers
      receiver := ?_ }
    rintro _ ⟨⟩
    rfl
  | start n job holds offered =>
    obtain ⟨idle, queue, hi, hq, taken⟩ := Pool.exists_take_eq offered
    have fewer := h.queue
    rw [hq] at fewer
    exact {
      orderly := h.orderly.take n
      running := by rw [taken]; exact h.running
      capacity := by rw [taken]; exact h.capacity
      workers := (Pool.workers_take offered).trans h.workers
      receiver := by simp
      queue := by rw [taken]; exact (Nat.le_succ _).trans fewer }
  | goOn busy same =>
    have numbers : busy.map Prod.fst = s.pool.busy.map Prod.fst := by
      simpa [Function.comp_def] using congrArg (List.map Prod.fst) same
    have count : busy.length = s.pool.busy.length := by
      simpa using congrArg List.length same
    refine { h with orderly := ⟨?_, h.orderly.producers⟩, workers := ?_ }
    · rw [numbers]
      exact h.orderly.workers
    · show s.pool.idle.length + busy.length = _
      rw [count]
      exact h.workers
  | finish n job panicked held =>
    refine { h with
      orderly := h.orderly.finish held
      workers := (Pool.workers_finish h.orderly held).trans h.workers
      receiver := fun m hm => ?_ }
    simp only [Pool.finish, List.head?_append, h.receiver m hm, Option.some_or]
  | report => exact { h with }

/-! ## Jobs -/

/-- The jobs of a run: where they are now, and how many panicked. -/
structure IsBooked (tag : ι → τ) (past : List (PoolEvent ι)) (s : Crew ι) : Prop where
  /-- What was offered was admitted, or waits. -/
  offered : (past.filterMap offered?).Perm
    (past.filterMap admitted? ++ s.pool.waiting.map Prod.snd)
  /-- What was admitted was started in this order, or is in the queue. -/
  admitted : past.filterMap admitted? = past.filterMap started? ++ s.pool.queue
  /-- What was started is in hand or finished. -/
  started : ((past.filterMap started?).map tag).Perm
    (s.running tag ++ (past.filterMap finished?).map tag)
  /-- The counter stands at the number of panics, or at the largest that a counter has. -/
  panics : s.metrics.counter Pool.panicCounter = min Metrics.limit (past.countP isPanic)

theorem filterMap_snoc {α β : Type} (f : α → Option β) (past : List α) (e : α) :
    (past ++ [e]).filterMap f = past.filterMap f ++ (f e).toList := by
  rw [List.filterMap_append]
  cases h : f e <;> simp [h]

theorem perm_snoc {β : Type} {l a b : List β} (h : l.Perm (a ++ b)) (x : β) :
    (l ++ [x]).Perm (a ++ [x] ++ b) := by
  refine (h.append_right [x]).trans ?_
  rw [List.append_assoc, List.append_assoc]
  exact List.perm_append_comm.append_left a

theorem IsBooked.offered_snoc (h : s.IsBooked tag past) (orderly : s.pool.IsOrderly fun _ => true)
    (happens : s.Happens tag e t) : ((past ++ [e]).filterMap offered?).Perm
      ((past ++ [e]).filterMap admitted? ++ t.pool.waiting.map Prod.snd) := by
  rw [filterMap_snoc, filterMap_snoc]
  cases happens with
  | enter job room => exact perm_snoc h.offered job
  | wait producer job full fresh =>
    simpa [offered?, admitted?, Pool.keepWaiting] using h.offered.append_right [job]
  | place producer job admitted =>
    have waits := (Pool.perm_waiting orderly admitted).append_left (past.filterMap admitted?)
    simpa [offered?, admitted?, Pool.push] using h.offered.trans waits
  | start n job holds offered =>
    obtain ⟨idle, queue, -, -, taken⟩ := Pool.exists_take_eq offered
    simpa [offered?, admitted?, taken] using h.offered
  | _ =>
    simp only [offered?, admitted?, Option.toList_none, List.append_nil]
    exact h.offered

theorem IsBooked.admitted_snoc (h : s.IsBooked tag past) (happens : s.Happens tag e t) :
    (past ++ [e]).filterMap admitted? = (past ++ [e]).filterMap started? ++ t.pool.queue := by
  rw [filterMap_snoc, filterMap_snoc, h.admitted]
  cases happens with
  | start n job holds offered =>
    obtain ⟨idle, queue, -, hq, taken⟩ := Pool.exists_take_eq offered
    simp [admitted?, started?, taken, hq]
  | _ => simp [admitted?, started?, Pool.push, Pool.keepWaiting, Pool.withdraw, Pool.promote,
      Pool.finish]

theorem IsBooked.started_snoc (h : s.IsBooked tag past) (orderly : s.pool.IsOrderly fun _ => true)
    (happens : s.Happens tag e t) : (((past ++ [e]).filterMap started?).map tag).Perm
      (t.running tag ++ ((past ++ [e]).filterMap finished?).map tag) := by
  rw [filterMap_snoc, filterMap_snoc]
  cases happens with
  | start n job holds offered =>
    obtain ⟨idle, queue, -, -, taken⟩ := Pool.exists_take_eq offered
    simpa [started?, finished?, running, taken] using perm_snoc h.started (tag job)
  | goOn busy same =>
    have hands : running tag { s with pool := { s.pool with busy } } = s.running tag := by
      simpa [running, Function.comp_def] using congrArg (List.map Prod.snd) same
    simpa [hands, started?, finished?] using h.started
  | finish n job panicked held =>
    obtain ⟨front, back, busy, -, gone⟩ := Pool.exists_busy_eq orderly held
    have started := h.started
    simp only [running, busy, List.map_append, List.map_cons] at started
    simp only [running, started?, finished?, gone, Option.toList_none, Option.toList_some,
      List.append_nil, List.map_append, List.map_cons, List.map_nil]
    refine started.trans ((List.perm_middle.append_right _).trans ?_)
    rw [List.cons_append, ← List.append_assoc]
    exact (List.perm_append_singleton _ _).symm
  | _ =>
    simp only [started?, finished?, Option.toList_none, List.append_nil]
    exact h.started

theorem IsBooked.panics_snoc (h : s.IsBooked tag past) (happens : s.Happens tag e t) :
    t.metrics.counter Pool.panicCounter = min Metrics.limit ((past ++ [e]).countP isPanic) := by
  rw [List.countP_append]
  cases happens with
  | finish n job panicked held =>
    cases panicked with
    | true => exact Metrics.counter_increment h.panics
    | false => exact h.panics
  | _ => exact h.panics

theorem IsBooked.snoc (h : s.IsBooked tag past) (orderly : s.pool.IsOrderly fun _ => true)
    (happens : s.Happens tag e t) : t.IsBooked tag (past ++ [e]) where
  offered := h.offered_snoc orderly happens
  admitted := h.admitted_snoc happens
  started := h.started_snoc orderly happens
  panics := h.panics_snoc happens

/-! ## Runs -/

theorem isSound_ofSize (workers queueSize : Nat) :
    (ofSize workers queueSize : Crew ι).IsSound workers queueSize where
  orderly := ⟨by simpa [ofSize, Pool.ofSize] using List.nodup_range, List.nodup_nil⟩
  running := rfl
  capacity := rfl
  workers := by simp [ofSize, Pool.ofSize, Pool.workers]
  receiver := by simp [ofSize]
  queue := Nat.zero_le _

theorem Run.isSound_and_isBooked (h : Run tag (ofSize workers queueSize) past s) :
    s.IsSound workers queueSize ∧ s.IsBooked tag past := by
  induction h with
  | nil => exact ⟨isSound_ofSize workers queueSize, ⟨.nil, rfl, .nil, rfl⟩⟩
  | snoc h happens ih => exact ⟨ih.1.happens happens, ih.2.snoc ih.1.orderly happens⟩

end Crew

end Switchboard
