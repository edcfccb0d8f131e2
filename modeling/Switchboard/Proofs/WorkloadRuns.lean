import Mathlib.Logic.Relation
import Switchboard.Pool.Workload
import Switchboard.Proofs.PoolRuns

/-!
# Workloads are runs

Whatever is done with a workload before it is closed, its pool goes through a run
(`Workload.hasRun_of_reaches`): offers are newcomers, producers are admitted, an idle worker gets
hold of the queue and takes a job in one step, and a busy one gets on with its task, ends it, or
panics. The tasks are told apart by their names.
-/

namespace Switchboard

namespace Workload

/-- What may be done with a workload before it is closed. -/
inductive Next (w : Workload) : Workload → Prop
  | offer (e : Errand) : Next w (w.offer e)
  | openGate (name : String) : Next w (w.openGate name)
  | act (a : Actor) (h : able a w = true) : Next w (w.step a)
  | pass (now : Nat) : Next w { w with now }

/-- What may be reached. -/
abbrev Reaches (w v : Workload) : Prop := Relation.ReflTransGen Next w v

theorem reaches_of_steps {w v : Workload} (h : processes.Steps w v) : w.Reaches v := by
  induction h with
  | refl => exact .refl
  | tail _ step ih =>
    obtain ⟨a, able, rfl⟩ := step
    exact ih.tail (.act a able)

theorem reaches_settle (w : Workload) : w.Reaches (processes.settle w) :=
  reaches_of_steps (processes.steps_settle w)

/-- The pool of a workload. Between steps no worker holds the receiving end of its queue. -/
def crew (w : Workload) : Crew Errand := { pool := w.pool, metrics := w.metrics }

/-- The pool of a workload has gone through a run, and the numbers of its producers are given
out. -/
structure HasRun (workers queueSize : Nat) (w : Workload) : Prop where
  numbered : ∀ e ∈ w.pool.waiting, e.1 < w.offers
  run : ∃ past, Crew.Run Errand.name (.ofSize workers queueSize) past w.crew

namespace HasRun

variable {workers queueSize : Nat} {w v : Workload} {n : Nat} {e : Errand}

theorem sound (h : w.HasRun workers queueSize) : w.crew.IsSound workers queueSize := by
  obtain ⟨past, run⟩ := h.run
  exact run.isSound_and_isBooked.1

theorem orderly (h : w.HasRun workers queueSize) : w.pool.IsOrderly fun _ => true := h.sound.orderly

theorem running (h : w.HasRun workers queueSize) : w.pool.closed = false := h.sound.running

/-- What happens to the pool goes on with its run. -/
theorem snoc (h : w.HasRun workers queueSize) {e : PoolEvent Errand}
    (happens : w.crew.Happens Errand.name e v.crew)
    (numbered : ∀ d ∈ v.pool.waiting, d.1 < v.offers) : v.HasRun workers queueSize := by
  obtain ⟨past, run⟩ := h.run
  exact ⟨numbered, _, run.snoc happens⟩

/-! ## Offers and gates -/

theorem offer (h : w.HasRun workers queueSize) (e : Errand) :
    (w.offer e).HasRun workers queueSize := by
  unfold Workload.offer
  rw [if_neg (by simp [h.running])]
  split
  · next room =>
    refine h.snoc (.enter e room) ?_
    exact fun d hd => Nat.lt_succ_of_lt (h.numbered d hd)
  · next full =>
    have fresh : w.pool.isWaiting w.offers = false := by
      refine List.any_eq_false.mpr fun d hd => ?_
      simpa using (h.numbered d hd).ne
    refine h.snoc (.wait w.offers e (Bool.eq_false_iff.mpr full) fresh) fun d hd => ?_
    rcases List.mem_append.mp hd with old | new
    · exact Nat.lt_succ_of_lt (h.numbered d old)
    · rw [List.mem_singleton.mp new]
      exact Nat.lt_succ_self _

/-- To open a gate changes no more than how far jobs have got. -/
theorem openGate (h : w.HasRun workers queueSize) (name : String) :
    (w.openGate name).HasRun workers queueSize := by
  refine h.snoc (.goOn _ ?_) h.numbered
  rw [List.map_map]
  refine List.map_congr_left fun b _ => ?_
  simp only [Function.comp_apply]
  split <;> rfl

/-! ## Producers -/

theorem producerStep (h : w.HasRun workers queueSize) (able : able (.producer n) w = true) :
    (w.producerStep n).HasRun workers queueSize := by
  have places : (w.pool.admitted? n).isSome = true := by
    simpa [Workload.able, h.running] using (Bool.and_eq_true_iff.mp able).2
  obtain ⟨job, admitted⟩ := Option.isSome_iff_exists.mp places
  unfold Workload.producerStep
  simp only [h.running, Bool.false_eq_true, ↓reduceIte, admitted]
  refine h.snoc (.place n job admitted) fun d hd => ?_
  exact h.numbered d (List.mem_filter.mp hd).1

/-! ## Workers -/

/-- An idle worker gets hold of the queue and takes a job. -/
theorem take (h : w.HasRun workers queueSize) {job : Errand}
    (offered : w.pool.offered? n = some job) :
    { w with pool := w.pool.take n }.HasRun workers queueSize := by
  obtain ⟨idle, queue, hi, -, taken⟩ := Pool.exists_take_eq offered
  have next : w.pool.promote n = w.pool := Pool.promote_of_isNext (by simp [Pool.isNext, hi])
  have receives : w.crew.Happens Errand.name (.receive n) { w.crew with receiver := some n } := by
    have happens : w.crew.Happens Errand.name (.receive n) _ :=
      .receive n rfl (by simp [crew, hi])
    simpa only [crew, next] using happens
  obtain ⟨past, run⟩ := h.run
  refine ⟨fun d hd => h.numbered d ?_, _, (run.snoc receives).snoc (.start n job rfl offered)⟩
  rw [taken] at hd
  exact hd

/-- A worker notes how far it has got with its job. -/
theorem setJob (h : w.HasRun workers queueSize) (held : w.pool.job? n = some e) {next : Errand}
    (same : next.name = e.name) (notes : List String) :
    { w with pool := w.pool.setJob n next, notes }.HasRun workers queueSize :=
  h.snoc (Crew.happens_setJob h.orderly held same) h.numbered

theorem finish (h : w.HasRun workers queueSize) (held : w.pool.job? n = some e) :
    (w.finish n e).HasRun workers queueSize := h.snoc (.finish n e false held) h.numbered

theorem work (h : w.HasRun workers queueSize) (held : w.pool.job? n = some e) :
    (w.work n e).HasRun workers queueSize := by
  unfold Workload.work
  split
  · dsimp only
    split
    · exact h.setJob held (by rfl) _
    · exact h.setJob held (by rfl) _
    · exact h.setJob held (by rfl) _
    · exact h.snoc (.finish n e true held) h.numbered
  · exact h.finish held

theorem workerStep (h : w.HasRun workers queueSize) (able : able (.worker n) w = true) :
    (w.step (.worker n)).HasRun workers queueSize := by
  cases held : w.pool.job? n with
  | some e =>
    simp only [Workload.step, held]
    exact h.work held
  | none =>
    have stays : w.pool.canLeave n = false := by simp [Pool.canLeave, h.running]
    have offers : (w.pool.offered? n).isSome = true := by
      simpa [Workload.able, workerAble, held, stays] using able
    obtain ⟨job, offered⟩ := Option.isSome_iff_exists.mp offers
    simp only [Workload.step, held, stays, Bool.false_eq_true, ↓reduceIte]
    exact h.take offered

/-! ## Steps -/

theorem gaugeStep (h : w.HasRun workers queueSize) :
    (w.step .gauge).HasRun workers queueSize := by
  simp only [Workload.step, h.running, Bool.false_eq_true, ↓reduceIte]
  exact h.snoc .report h.numbered

theorem next (h : w.HasRun workers queueSize) (next : w.Next v) : v.HasRun workers queueSize := by
  cases next with
  | offer e => exact h.offer e
  | openGate name => exact h.openGate name
  | act a able =>
    cases a with
    | producer n => exact h.producerStep able
    | worker n => exact h.workerStep able
    | gauge => exact h.gaugeStep
  | pass now => exact ⟨h.numbered, h.run⟩

end HasRun

/-- The pool of a workload that has not been closed has gone through a run. -/
theorem hasRun_of_reaches {workers queueSize : Nat} {period : Option Nat} {w : Workload}
    (h : (ofSize workers queueSize period).Reaches w) : w.HasRun workers queueSize := by
  induction h with
  | refl => exact ⟨by simp [ofSize, Pool.ofSize], [], .nil⟩
  | tail _ next ih => exact ih.next next

end Workload

end Switchboard
