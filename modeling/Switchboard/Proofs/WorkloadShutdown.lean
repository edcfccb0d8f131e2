import Switchboard.Proofs.PoolShutdown
import Switchboard.Proofs.WorkloadRuns

/-!
# Workloads to their end

A workload that may be closed at any time goes through a life of a pool (`Workload.exists_life`), in
which the jobs are the names of its tasks: an idle worker gets hold of the queue and takes a job, or
leaves, in one step, and how far a task has got does not matter to the pool (`Pool.map`).
-/

namespace Switchboard

namespace Pool

variable {ι κ : Type} (f : ι → κ) (p : Pool ι) (n : Nat)

/-- A pool with its jobs seen through a function. -/
def map : Pool κ where
  capacity := p.capacity
  idle := p.idle
  busy := p.busy.map (Prod.map id f)
  queue := p.queue.map f
  waiting := p.waiting.map (Prod.map id f)
  closed := p.closed

@[simp] theorem hasRoom_map : (p.map f).hasRoom = p.hasRoom := by simp [hasRoom, map]

@[simp] theorem isWaiting_map : (p.map f).isWaiting n = p.isWaiting n := by
  simp [isWaiting, map, Function.comp_def]

@[simp] theorem admitted?_map : (p.map f).admitted? n = (p.admitted? n).map f := by
  simp only [admitted?, map, ← List.map_take, List.length_map, List.find?_map, Option.map_map]
  rfl

@[simp] theorem offered?_map : (p.map f).offered? n = (p.offered? n).map f := by
  simp only [offered?, isNext, map, List.head?_map]
  by_cases free : (p.idle.head? == some n && !p.closed) = true
  · simp only [free, ↓reduceIte]
  · simp only [free, ↓reduceIte, Option.map_none, Bool.false_eq_true]

@[simp] theorem job?_map : (p.map f).job? n = (p.job? n).map f := by
  simp only [job?, map]
  induction p.busy with
  | nil => rfl
  | cons b rest ih =>
    rw [List.map_cons, List.lookup_cons, List.lookup_cons, ih]
    simp only [Prod.map_fst, id, Prod.map_snd]
    split <;> rfl

theorem map_push (job : ι) : (p.push job).map f = (p.map f).push (f job) := by
  simp [map, push]

theorem map_keepWaiting (job : ι) :
    (p.keepWaiting n job).map f = (p.map f).keepWaiting n (f job) := by
  simp [map, keepWaiting]

theorem map_withdraw : (p.withdraw n).map f = (p.map f).withdraw n := by
  simp [map, withdraw, List.filter_map, Function.comp_def]

theorem map_take : (p.take n).map f = (p.map f).take n := by
  simp only [take, offered?_map]
  cases p.offered? n <;> simp [map]

theorem map_finish : (p.finish n).map f = (p.map f).finish n := by
  simp [map, finish, List.filter_map, Function.comp_def]

theorem map_leave : (p.leave n).map f = (p.map f).leave n := by
  have same : ({ p.map f with idle := (p.map f).idle.erase n } : Pool κ).workers =
      ({ p with idle := p.idle.erase n } : Pool ι).workers := by simp [workers, map]
  simp only [leave, same]
  split <;> simp [map]

theorem orderly_map (h : (p.map f).IsOrderly fun _ => true) : p.IsOrderly fun _ => true := by
  refine ⟨?_, ?_⟩
  · simpa [map, Function.comp_def] using h.workers
  · simpa [map, Function.comp_def] using h.producers

theorem map_close : p.close.map f = (p.map f).close := rfl

/-- How far a job has got is not seen through a function that does not look at it. -/
theorem map_setJob {job next : ι} (h : p.IsOrderly fun _ => true) (held : p.job? n = some job)
    (same : f next = f job) : (p.setJob n next).map f = p.map f := by
  obtain ⟨front, back, busy, set, -⟩ := exists_busy_eq h held
  have hands : (p.setJob n next).busy.map (Prod.map id f) = p.busy.map (Prod.map id f) := by
    rw [set, busy]
    simp [same]
  simp only [map, hands]
  rfl

end Pool

namespace Workload

/-- What may be done with a workload, which may be closed at any time. -/
inductive Then (w : Workload) : Workload → Prop
  | next {v : Workload} (h : w.Next v) : Then w v
  | close : Then w w.close

/-- What may come of a workload. -/
abbrev Leads (w v : Workload) : Prop := Relation.ReflTransGen Then w v

/-- A workload as its pool sees it. Between steps nobody has hold of the queue. -/
structure Mirrors (w : Workload) (s : PoolLife String) : Prop where
  pool : s.pool = w.pool.map Errand.name
  receiver : s.receiver = none
  reports : s.reports = w.gauge.isSome
  calls : s.calls = w.offers
  answers : s.answers.map Prod.snd = w.admissions.map Admission.refusal

/-- The workload has gone through a life of a pool. -/
def HasLife (workers queueSize : Nat) (reports : Bool) (w : Workload) : Prop :=
  ∃ moves, w.Mirrors ((PoolLife.ofSize workers queueSize reports).run moves)

section Life

variable {workers queueSize : Nat} {reports : Bool} {w v : Workload} {n : Nat} {e : Errand}
  {s : PoolLife String}

/-- The life goes on with a move. -/
theorem HasLife.snoc (h : w.HasLife workers queueSize reports) (m : PoolLife.Move String)
    (mirrors : ∀ s : PoolLife String, s.IsSound workers → w.Mirrors s → v.Mirrors (s.move m)) :
    v.HasLife workers queueSize reports := by
  obtain ⟨moves, life⟩ := h
  refine ⟨moves ++ [m], ?_⟩
  rw [PoolLife.run_append]
  exact mirrors _ ((PoolLife.isSound_ofSize workers queueSize reports).run moves) life

/-- What the pool does not see does not matter to it. -/
theorem HasLife.stays (h : w.HasLife workers queueSize reports)
    (mirrors : ∀ s : PoolLife String, s.IsSound workers → w.Mirrors s → v.Mirrors s) :
    v.HasLife workers queueSize reports := by
  obtain ⟨moves, life⟩ := h
  exact ⟨moves, mirrors _ ((PoolLife.isSound_ofSize workers queueSize reports).run moves) life⟩

theorem Mirrors.orderly (h : w.Mirrors s) (sound : s.IsSound workers) :
    w.pool.IsOrderly fun _ => true :=
  Pool.orderly_map Errand.name w.pool (h.pool ▸ sound.orderly)

theorem Mirrors.offer (h : w.Mirrors s) (e : Errand) :
    (w.offer e).Mirrors (s.enqueue e.name) := by
  have closed : s.pool.closed = w.pool.closed := by rw [h.pool]; rfl
  have room : s.pool.hasRoom = w.pool.hasRoom := by rw [h.pool, Pool.hasRoom_map]
  unfold Workload.offer PoolLife.enqueue
  simp only [closed, room]
  split
  · exact { h with
      calls := congrArg (· + 1) h.calls
      answers := by simp [PoolLife.answer, h.answers] }
  · split
    · exact {
        pool := by rw [h.pool, Pool.map_push]; rfl
        receiver := h.receiver
        reports := h.reports
        calls := congrArg (· + 1) h.calls
        answers := by simp [PoolLife.answer, h.answers] }
    · exact {
        pool := by rw [h.pool, h.calls, Pool.map_keepWaiting]
        receiver := h.receiver
        reports := h.reports
        calls := congrArg (· + 1) h.calls
        answers := h.answers }

theorem Mirrors.openGate (h : w.Mirrors s) (name : String) : (w.openGate name).Mirrors s := by
  refine { h with pool := ?_ }
  have hands : (w.openGate name).pool.busy.map (Prod.map id Errand.name) =
      w.pool.busy.map (Prod.map id Errand.name) := by
    simp only [Workload.openGate, List.map_map]
    refine List.map_congr_left fun b _ => ?_
    simp only [Function.comp_apply]
    split <;> rfl
  rw [h.pool, Pool.map, Pool.map, hands]
  rfl

theorem Mirrors.producerStep (h : w.Mirrors s) (able : able (.producer n) w = true) :
    (w.producerStep n).Mirrors (s.retry n) := by
  have closed : s.pool.closed = w.pool.closed := by rw [h.pool]; rfl
  have waits : s.pool.isWaiting n = true := by
    rw [h.pool, Pool.isWaiting_map]
    exact (Bool.and_eq_true_iff.mp able).1
  have admitted : s.pool.admitted? n = (w.pool.admitted? n).map Errand.name := by
    rw [h.pool, Pool.admitted?_map]
  unfold Workload.producerStep PoolLife.retry
  simp only [closed, waits, ↓reduceIte, admitted]
  split
  · exact { h with
      pool := by rw [Pool.map_withdraw, ← h.pool]; rfl
      answers := by simp [PoolLife.answer, h.answers] }
  · cases w.pool.admitted? n with
    | none => exact h
    | some job => exact { h with
        pool := by rw [Pool.map_push, Pool.map_withdraw, ← h.pool]; rfl
        answers := by simp [PoolLife.answer, h.answers] }

/-- A worker that is done with its task stands in line again. -/
theorem Mirrors.finish (h : w.Mirrors s) (held : w.pool.job? n = some e) (panicked : Bool)
    {v : Workload} (pool : v.pool = w.pool.finish n) (gauge : v.gauge = w.gauge)
    (offers : v.offers = w.offers) (admissions : v.admissions = w.admissions) :
    v.Mirrors (s.finish n panicked) := by
  have inHand : s.pool.job? n = some e.name := by rw [h.pool, Pool.job?_map, held]; rfl
  simp only [PoolLife.finish, inHand]
  exact {
    pool := by rw [pool, Pool.map_finish, ← h.pool]
    receiver := h.receiver
    reports := by rw [gauge, ← h.reports]
    calls := by rw [offers, ← h.calls]
    answers := by rw [admissions, ← h.answers] }

/-- An idle worker that is first in line leaves, or takes a job. -/
theorem Mirrors.leave (h : w.Mirrors s) (leaves : w.pool.canLeave n = true) :
    { w with pool := w.pool.leave n }.Mirrors (s.look n) := by
  obtain ⟨closed, next⟩ := Bool.and_eq_true_iff.mp leaves
  have idle : n ∈ s.pool.idle := by
    rw [h.pool]
    show n ∈ w.pool.idle
    exact List.mem_of_head? (by simpa [Pool.isNext] using next)
  have shut : s.pool.closed = true := by rw [h.pool]; exact closed
  rw [PoolLife.look_of_closed shut idle (by simp [h.receiver])]
  exact { h with pool := by rw [Pool.map_leave, ← h.pool], receiver := rfl }

theorem Mirrors.take (h : w.Mirrors s) (offered : (w.pool.offered? n).isSome = true) :
    { w with pool := w.pool.take n }.Mirrors (s.look n) := by
  obtain ⟨job, offered⟩ := Option.isSome_iff_exists.mp offered
  have place : s.pool.offered? n = some job.name := by
    rw [h.pool, Pool.offered?_map, offered]
    rfl
  obtain ⟨idle, queue, hi, -, -⟩ := Pool.exists_take_eq place
  have next : s.pool.promote n = s.pool := Pool.promote_of_isNext (by simp [Pool.isNext, hi])
  have running : s.pool.closed = false := by
    unfold Pool.offered? at place
    split at place
    · next free => simpa using (Bool.and_eq_true_iff.mp free).2
    · cases place
  have looks : s.look n =
      { s with pool := s.pool.take n, receiver := none, started := s.started ++ [job.name] } := by
    simp [PoolLife.look, PoolLife.receive, hi, h.receiver, running, next, place]
  rw [looks]
  exact { h with pool := by rw [Pool.map_take, ← h.pool], receiver := rfl }

theorem Mirrors.report (h : w.Mirrors s) (able : able .gauge w = true) :
    (w.step .gauge).Mirrors (s.report true) := by
  have closed : s.pool.closed = w.pool.closed := by rw [h.pool]; rfl
  obtain ⟨ticker, gauge, -⟩ := (Option.any_eq_true ..).mp able
  have reports : s.reports = true := by rw [h.reports, gauge]; rfl
  unfold PoolLife.report Workload.step
  simp only [closed, Bool.and_true, reports, ↓reduceIte]
  split
  · exact { h with reports := rfl }
  · exact { h with reports := by simp [gauge] }

theorem Mirrors.close (h : w.Mirrors s) : w.close.Mirrors s.close :=
  { h with pool := by rw [Workload.close, Pool.map_close, ← h.pool]; rfl }

/-! ### Steps of a workload -/

/-- A worker gets on with its task: it notes how far it has got, or is done with it. -/
theorem HasLife.work (h : w.HasLife workers queueSize reports) (held : w.pool.job? n = some e) :
    (w.work n e).HasLife workers queueSize reports := by
  have getsOn (next : Errand) (same : next.name = e.name) (notes : List String) :
      { w with pool := w.pool.setJob n next, notes }.HasLife workers queueSize reports :=
    h.stays fun s sound mirrors =>
      { mirrors with
        pool := by rw [Pool.map_setJob _ _ _ (mirrors.orderly sound) held same, mirrors.pool] }
  unfold Workload.work
  split
  · dsimp only
    split
    · exact getsOn _ (by rfl) _
    · exact getsOn _ (by rfl) _
    · exact getsOn _ (by rfl) _
    · exact h.snoc (.finish n true) fun s _ mirrors => mirrors.finish held true rfl rfl rfl rfl
  · exact h.snoc (.finish n false) fun s _ mirrors => mirrors.finish held false rfl rfl rfl rfl

theorem HasLife.workerStep (h : w.HasLife workers queueSize reports)
    (able : able (.worker n) w = true) :
    (w.step (.worker n)).HasLife workers queueSize reports := by
  cases held : w.pool.job? n with
  | some e =>
    simp only [Workload.step, held]
    exact h.work held
  | none =>
    by_cases leaves : w.pool.canLeave n = true
    · simp only [Workload.step, held, leaves, ↓reduceIte]
      exact h.snoc (.look n) fun s _ mirrors => mirrors.leave leaves
    · have offered : (w.pool.offered? n).isSome = true := by
        simpa [Workload.able, workerAble, held, leaves] using able
      simp only [Workload.step, held, leaves, Bool.false_eq_true, ↓reduceIte]
      exact h.snoc (.look n) fun s _ mirrors => mirrors.take offered

theorem HasLife.then (h : w.HasLife workers queueSize reports) (next : w.Then v) :
    v.HasLife workers queueSize reports := by
  cases next with
  | close => exact h.snoc .close fun s _ mirrors => mirrors.close
  | next step =>
    cases step with
    | offer e => exact h.snoc (.enqueue e.name) fun s _ mirrors => mirrors.offer e
    | openGate name => exact h.stays fun s _ mirrors => mirrors.openGate name
    | act a able =>
      cases a with
      | producer n => exact h.snoc (.retry n) fun s _ mirrors => mirrors.producerStep able
      | worker n => exact h.workerStep able
      | gauge => exact h.snoc (.report true) fun s _ mirrors => mirrors.report able
    | pass now => exact h.stays fun s _ mirrors => { mirrors with }

end Life

/-- Whatever is done with a workload, it goes through a life of a pool. -/
theorem exists_life {workers queueSize : Nat} {period : Option Nat} {w : Workload}
    (h : (ofSize workers queueSize period).Leads w) :
    ∃ moves, w.Mirrors ((PoolLife.ofSize workers queueSize
      (period.bind (Ticker.immediate? 0)).isSome).run moves) := by
  induction h with
  | refl => exact ⟨[], by constructor <;> rfl⟩
  | tail _ next ih => exact HasLife.then ih next

end Workload

end Switchboard
