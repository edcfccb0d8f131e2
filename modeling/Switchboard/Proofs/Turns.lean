import Switchboard.Proofs.Effects

/-!
# Turns

A turn is the execution that a message brings about. A worker that has begun it keeps it in hand,
whatever the rest of the runner does (`Runner.job?_move`), and nobody hands over a turn that is
under way: what waits for a worker has not been begun (`Runner.IsUnbegun`). So each step that is
stored was left by one turn, which one worker began and carried out (`RunnerPlan.exists_leaves`).
-/

namespace Switchboard

/-! ## Hands -/

namespace Pool

variable {ι : Type} {p : Pool ι} {n w : Nat} {job : ι}

/-- The jobs that no worker has taken. -/
def untaken (p : Pool ι) : List ι := p.queue ++ p.waiting.map Prod.snd

theorem job?_take_of_ne (h : w ≠ n) : (p.take n).job? w = p.job? w := by
  cases offered : p.offered? n with
  | none => rw [take_of_offered?_eq_none offered]
  | some job =>
    obtain ⟨idle, queue, -, -, taken⟩ := exists_take_eq offered
    have apart : (w == n) = false := by simpa using h
    rw [taken, job?, List.lookup_append, List.lookup_cons, apart]
    simp [job?]

/-- A worker that takes a job takes one that nobody has taken. -/
theorem mem_untaken_of_take (idle : p.job? n = none) (took : (p.take n).job? n = some job) :
    job ∈ p.untaken := by
  cases offered : p.offered? n with
  | none =>
    rw [take_of_offered?_eq_none offered, idle] at took
    cases took
  | some first =>
    obtain ⟨line, queue, -, hq, taken⟩ := exists_take_eq offered
    have new : (p.take n).job? n = some first := by
      rw [job?] at idle
      rw [taken, job?, List.lookup_append, idle]
      simp
    obtain rfl := Option.some_inj.mp (new.symm.trans took)
    rw [untaken, hq]
    simp

theorem job?_setJob_of_ne (h : w ≠ n) (next : ι) : (p.setJob n next).job? w = p.job? w := by
  have apart : (w == n) = false := by simpa using h
  simp only [job?, setJob]
  induction p.busy with
  | nil => rfl
  | cons b rest ih =>
    obtain ⟨owner, v⟩ := b
    rw [List.map_cons]
    split
    · next same =>
      obtain rfl : owner = n := same
      rw [List.lookup_cons, List.lookup_cons, apart, ih]
    · rw [List.lookup_cons, List.lookup_cons, ih]

theorem job?_setJob_self (held : p.job? n = some job) (next : ι) :
    (p.setJob n next).job? n = some next := by
  simp only [job?, setJob] at held ⊢
  generalize p.busy = busy at held ⊢
  induction busy with
  | nil => cases held
  | cons b rest ih =>
    obtain ⟨owner, v⟩ := b
    rw [List.map_cons]
    split
    · simp
    · next other =>
      have apart : (n == owner) = false := beq_false_of_ne (Ne.symm other)
      rw [List.lookup_cons, apart] at held ⊢
      exact ih held

theorem job?_finish_of_ne (h : w ≠ n) : (p.finish n).job? w = p.job? w := by
  simp only [job?, finish]
  induction p.busy with
  | nil => rfl
  | cons b rest ih =>
    obtain ⟨owner, v⟩ := b
    by_cases same : owner = n
    · have apart : (w == owner) = false := by simpa [same] using h
      rw [List.filter_cons_of_neg (by simpa using same), ih, List.lookup_cons, apart]
    · rw [List.filter_cons_of_pos (by simpa using same), List.lookup_cons, List.lookup_cons, ih]

theorem job?_finish_self : (p.finish n).job? n = none := by
  simp only [job?, finish, List.lookup_eq_none_iff, List.mem_filter]
  rintro b ⟨-, other⟩
  simpa [bne_iff_ne, ne_comm] using other

theorem job?_leave : (p.leave n).job? w = p.job? w := by
  unfold leave
  dsimp only
  split <;> rfl

end Pool

namespace Runner

variable {κ : Type} {r r' : Runner κ} {m : Move} {n w k : Nat} {i : Input}
  {pending : Option (Step κ)}

theorem job?_putDown_of_ne {p : Pool (Work κ)} (h : w ≠ n) (next : Option (Work κ)) :
    (putDown p n next).job? w = p.job? w := by
  cases next with
  | none => exact Pool.job?_finish_of_ne h
  | some v => exact Pool.job?_setJob_of_ne h v

theorem job?_putDown_self {p : Pool (Work κ)} {v : Work κ} (held : p.job? n = some v)
    (next : Option (Work κ)) : (putDown p n next).job? n = next := by
  cases next with
  | none => exact Pool.job?_finish_self
  | some u => exact Pool.job?_setJob_self held u

/-! ## Those who do not work -/

/-- What waits for a worker has not been begun. -/
def IsUnbegun (r : Runner κ) : Prop := ∀ v ∈ r.pool.untaken, v.stage = .ready

/-- No worker of a pool is served, what joins those that wait has not been begun, and whoever waits
goes on waiting, but for one producer. -/
structure IsFed (producer : Option Nat) (p p' : Pool (Work κ)) : Prop where
  busy : p'.busy = p.busy
  untaken : ∀ v ∈ p'.untaken, v ∈ p.untaken ∨ v.stage = .ready
  patient : ∀ e ∈ p.waiting, producer ≠ some e.1 → e ∈ p'.waiting

namespace IsFed

variable {producer : Option Nat} {p p' : Pool (Work κ)} {v : Work κ}

theorem refl (producer : Option Nat) (p : Pool (Work κ)) : IsFed producer p p :=
  ⟨rfl, fun _ => .inl, fun _ he _ => he⟩

theorem of_closed (same : p' = { p with closed := p'.closed }) : IsFed producer p p' := by
  rw [same]
  exact ⟨rfl, fun _ => .inl, fun _ he _ => he⟩

theorem push (h : IsFed producer p p') (new : v ∈ p.untaken ∨ v.stage = .ready) :
    IsFed producer p (p'.push v) := by
  refine ⟨h.busy, fun u hu => ?_, h.patient⟩
  have cases : u = v ∨ u ∈ p'.untaken := by
    simp only [Pool.untaken, Pool.push, List.mem_append, List.mem_singleton] at hu ⊢
    tauto
  rcases cases with rfl | old
  · exact new
  · exact h.untaken u old

theorem keepWaiting (h : IsFed producer p p') (n : Nat) (new : v.stage = .ready) :
    IsFed producer p (p'.keepWaiting n v) := by
  refine ⟨h.busy, fun u hu => ?_, fun e he other => List.mem_append_left _ (h.patient e he other)⟩
  have cases : u = v ∨ u ∈ p'.untaken := by
    simp only [Pool.untaken, Pool.keepWaiting, List.map_append, List.map_cons, List.map_nil,
      List.mem_append, List.mem_singleton] at hu ⊢
    tauto
  rcases cases with rfl | old
  · exact .inr new
  · exact h.untaken u old

theorem withdraw (h : IsFed (some n) p p') : IsFed (some n) p (p'.withdraw n) := by
  refine ⟨h.busy, fun u hu => h.untaken u ?_, fun e he other => ?_⟩
  · refine List.append_subset.mpr ⟨List.subset_append_left _ _, ?_⟩ hu
    exact List.subset_append_of_subset_right _ (List.map_subset _ (List.filter_subset_self _))
  · have apart : e.1 ≠ n := fun same => other (by rw [same])
    exact List.mem_filter.mpr ⟨h.patient e he other, by simpa using apart⟩

/-- A job that enters the queue was waiting. -/
theorem admitWaiting (p : Pool (Work κ)) (admitted : p.admitted? n = some v) :
    IsFed (some n) p ((p.withdraw n).push v) := by
  refine (refl _ p).withdraw.push (.inl ?_)
  obtain ⟨e, found, rfl⟩ := Option.map_eq_some_iff.mp admitted
  refine List.mem_append_right _ (List.mem_map_of_mem ?_)
  exact List.mem_of_mem_take (List.mem_of_find?_eq_some found)

end IsFed

/-- Under which number the actor of a move waits at the pool, if it ever does. -/
def Move.producer? : Move → Option Nat
  | .act (.intake k) => some (intakeProducer k)
  | .act (.timer n) => some (timerProducer n)
  | _ => none

theorem isFed_intakeStep (r : Runner κ) (k : Nat) :
    IsFed (some (intakeProducer k)) r.pool (r.intakeStep k).pool := by
  unfold intakeStep
  split
  · exact .refl _ _
  · split
    · exact .refl _ _
    · unfold offer
      split
      · exact .refl _ _
      · split
        · exact (IsFed.refl _ _).push (.inr rfl)
        · exact (IsFed.refl _ _).keepWaiting _ rfl
    · unfold enter
      dsimp only
      split
      · exact (IsFed.refl _ _).withdraw
      · split
        · exact .refl _ _
        · next admitted => exact .admitWaiting _ admitted
    · split
      · exact .refl _ _
      · split
        · exact .refl _ _
        · unfold accept
          dsimp only
          split <;> exact .refl _ _

theorem isFed_timerStep (r : Runner κ) (n : Nat) :
    IsFed (some (timerProducer n)) r.pool (r.timerStep n).pool := by
  unfold timerStep
  split
  · exact .refl _ _
  · split
    · dsimp only
      split
      · exact (IsFed.refl _ _).withdraw
      · split
        · exact .refl _ _
        · next admitted => exact .admitWaiting _ admitted
    · unfold fire
      dsimp only
      split
      · exact .refl _ _
      · split
        · exact .refl _ _
        · split
          · exact (IsFed.refl _ _).push (.inr rfl)
          · exact (IsFed.refl _ _).keepWaiting _ rfl

/-- Only workers serve themselves. -/
theorem isFed_step (r : Runner κ) {a : Actor} (other : ∀ n, a ≠ .worker n) :
    IsFed (Move.act a).producer? r.pool (step a r).pool := by
  cases a with
  | worker n => exact absurd rfl (other n)
  | intake k => exact isFed_intakeStep r k
  | timer n => exact isFed_timerStep r n
  | course => exact .of_closed (isStill_courseStep r).pool
  | supervisor k =>
    obtain ⟨es, still⟩ := exists_isStill_supervisorStep r k
    exact .of_closed still.pool
  | errorLoop k =>
    obtain ⟨es, still⟩ := exists_isStill_errorStep r k
    exact .of_closed still.pool
  | planner =>
    show IsFed _ r.pool r.plannerStep.pool
    unfold plannerStep
    split <;> exact .refl _ _
  | _ => exact .refl _ _

/-- Only a worker's own steps serve it. -/
theorem isFed_move (r : Runner κ) (other : ∀ n, m ≠ .act (.worker n)) :
    IsFed m.producer? r.pool (r.move m).pool := by
  cases m with
  | act a =>
    unfold move
    dsimp only
    split
    · exact isFed_step r fun n same => other n (by rw [same])
    · exact .refl _ _
  | cancel => exact .of_closed rfl
  | _ => exact .refl _ _

/-! ## Workers -/

theorem IsOrderly.mem_works (h : r.IsOrderly) {v : Work κ} (hands : r.pool.job? n = some v)
    (own : v.ofLane = true) : v ∈ r.works := by
  obtain ⟨rest, before, -⟩ := Pool.exists_jobs_eq h.pool hands
  rw [works, before, pick_of_own own]
  simp

/-- What a worker has in hand after a step of its own: what it made of its job, or one that nobody
had taken. -/
theorem pool_workerStep (h : r.IsOrderly) (fit : r.IsFit) (n : Nat) :
    (∃ v next, r.pool.job? n = some v ∧ (r.workerStep n).pool = putDown r.pool n next ∧
      ((∃ conversations es, Labour r v next conversations es) ∨
        ∀ u, next = some u → u.ofLane = false)) ∨
      r.pool.job? n = none ∧
        ((r.workerStep n).pool = r.pool.take n ∨ (r.workerStep n).pool = r.pool.leave n) := by
  cases hands : r.pool.job? n with
  | some v =>
    have step : r.workerStep n = r.carryOn n v := by simp only [workerStep, hands]
    rw [step]
    refine .inl ?_
    cases own : v.ofLane with
    | true =>
      obtain ⟨fitting, bound⟩ := fit v (h.mem_works hands own)
      obtain ⟨next, conversations, es, metrics, labour, frame⟩ :=
        carryOn_spec (n := n) own fitting (List.getElem?_eq_getElem bound)
      exact ⟨v, next, rfl, by rw [frame], .inl ⟨conversations, es, labour⟩⟩
    | false =>
      obtain ⟨next, es, task, -, -, pool, -, -⟩ := carryOn_task (r := r) (n := n) own
      exact ⟨v, next, rfl, pool, .inr task⟩
  | none =>
    refine .inr ⟨rfl, ?_⟩
    unfold workerStep
    rw [hands]
    dsimp only
    split
    · exact .inr rfl
    · exact .inl rfl

theorem untaken_putDown (p : Pool (Work κ)) (n : Nat) (next : Option (Work κ)) :
    (putDown p n next).untaken = p.untaken := by cases next <;> rfl

theorem untaken_take_subset (p : Pool (Work κ)) (n : Nat) : (p.take n).untaken ⊆ p.untaken := by
  cases offered : p.offered? n with
  | none => rw [Pool.take_of_offered?_eq_none offered]; exact List.Subset.refl _
  | some job =>
    obtain ⟨line, queue, -, hq, taken⟩ := Pool.exists_take_eq offered
    rw [Pool.untaken, Pool.untaken, taken, hq]
    exact List.subset_cons_self _ _

theorem untaken_leave_subset (p : Pool (Work κ)) (n : Nat) : (p.leave n).untaken ⊆ p.untaken := by
  unfold Pool.leave
  dsimp only
  split
  · exact List.subset_append_right _ _
  · exact List.Subset.refl _

theorem waiting_workerStep (h : r.IsOrderly) (fit : r.IsFit) (n : Nat) :
    (r.workerStep n).pool.waiting = r.pool.waiting := by
  rcases pool_workerStep h fit n with ⟨v, next, -, pool, -⟩ | ⟨-, pool | pool⟩
  · rw [pool, waiting_putDown]
  · rw [pool, Pool.take]
    split <;> rfl
  · rw [pool, Pool.leave]
    dsimp only
    split <;> rfl

/-- Whoever waits at the pool goes on waiting until a step of its own. -/
theorem mem_waiting_move (h : r.IsOrderly) (fit : r.IsFit) {e : Nat × Work κ}
    (waits : e ∈ r.pool.waiting) (other : m.producer? ≠ some e.1) : e ∈ (r.move m).pool.waiting := by
  by_cases works : ∃ n, m = .act (.worker n)
  · obtain ⟨n, rfl⟩ := works
    unfold move
    dsimp only
    split
    · show e ∈ (r.workerStep n).pool.waiting
      rwa [waiting_workerStep h fit]
    · exact waits
  · exact (isFed_move r fun n same => works ⟨n, same⟩).patient e waits other

/-- Nobody takes a job out of a worker's hands or puts one into them. -/
theorem job?_move (h : r.IsOrderly) (fit : r.IsFit) (other : m ≠ .act (.worker w)) :
    (r.move m).pool.job? w = r.pool.job? w := by
  by_cases works : ∃ n, m = .act (.worker n)
  · obtain ⟨n, rfl⟩ := works
    have apart : w ≠ n := fun same => other (by rw [same])
    unfold move
    dsimp only
    split
    · show (r.workerStep n).pool.job? w = _
      rcases pool_workerStep h fit n with ⟨v, next, -, pool, -⟩ | ⟨-, pool | pool⟩
      · rw [pool, job?_putDown_of_ne apart]
      · rw [pool, Pool.job?_take_of_ne apart]
      · rw [pool, Pool.job?_leave]
    · rfl
  · rw [Pool.job?, (isFed_move r fun n same => works ⟨n, same⟩).busy]
    rfl

/-- What waits for a worker has not been begun, and stays so. -/
theorem IsUnbegun.move (unbegun : r.IsUnbegun) (h : r.IsOrderly) (fit : r.IsFit) (m : Move) :
    (r.move m).IsUnbegun := by
  by_cases works : ∃ n, m = .act (.worker n)
  · obtain ⟨n, rfl⟩ := works
    unfold Runner.move
    dsimp only
    split
    · intro v hv
      refine unbegun v ?_
      change v ∈ (r.workerStep n).pool.untaken at hv
      rcases pool_workerStep h fit n with ⟨-, next, -, pool, -⟩ | ⟨-, pool | pool⟩
      · rwa [pool, untaken_putDown] at hv
      · rw [pool] at hv
        exact untaken_take_subset _ n hv
      · rw [pool] at hv
        exact untaken_leave_subset _ n hv
    · exact unbegun
  · intro v hv
    rcases (isFed_move r fun n same => works ⟨n, same⟩).untaken v hv with old | new
    · exact unbegun v old
    · exact new

/-! ## Turns under way -/

/-- A worker has the turn of a message in hand. -/
def Talks (r : Runner κ) (w k : Nat) (i : Input) (pending : Option (Step κ)) : Prop :=
  ∃ label since e, r.pool.job? w = some ⟨.converse k i pending, .talking label since e⟩

/-- A turn is under way because it was before, or because its worker has just begun it. -/
theorem Talks.before (h : (r.move m).Talks w k i pending) (orderly : r.IsOrderly) (fit : r.IsFit)
    (unbegun : r.IsUnbegun) :
    r.Talks w k i pending ∨
      m = .act (.worker w) ∧ r.pool.job? w = some ⟨.converse k i pending, .ready⟩ := by
  obtain ⟨label, since, e, hands⟩ := h
  by_cases other : m = .act (.worker w)
  · subst other
    unfold Runner.move at hands
    dsimp only at hands
    split at hands
    · change (r.workerStep w).pool.job? w = _ at hands
      rcases pool_workerStep orderly fit w with ⟨v, next, old, pool, made⟩ | ⟨idle, pool | pool⟩
      · rw [pool, job?_putDown_self old] at hands
        subst hands
        rcases made with ⟨conversations, es, labour⟩ | task
        · cases labour with
          | resume => exact .inr ⟨rfl, old⟩
          | execute => exact .inr ⟨rfl, old⟩
          | wait _ _ _ label since e => exact .inl ⟨label, since, e, old⟩
        · cases task _ rfl
      · rw [pool] at hands
        cases unbegun _ (Pool.mem_untaken_of_take idle hands)
      · rw [pool, Pool.job?_leave, idle] at hands
        cases hands
    · exact .inl ⟨label, since, e, hands⟩
  · rw [job?_move orderly fit other] at hands
    exact .inl ⟨label, since, e, hands⟩

/-- A step is stored by the worker that has the turn in hand. -/
theorem Effect.talks {r' : Runner κ} {x : String} {step : Step κ}
    (h : r.Effect m r' [.stored x step]) :
    ∃ w k i pending, m = .act (.worker w) ∧ r.Talks w k i pending ∧ i.sender = x := by
  generalize list : [Happening.stored x step] = es at h
  cases h with
  | labour n hands done =>
    subst list
    cases done with
    | store k i pending label since e =>
      exact ⟨n, k, i, pending, rfl, ⟨label, since, e, hands⟩, rfl⟩
  | quiet silent =>
    have talk := silent _ (list ▸ List.mem_singleton_self _)
    cases talk
  | _ => cases list

end Runner

/-! ## Turns of a run -/

namespace RunnerPlan

variable {κ : Type} (p : RunnerPlan κ) (schedule : Nat → Runner.Move)

theorem isUnbegun_after (n : Nat) : (p.start.after schedule n).IsUnbegun := by
  induction n with
  | zero =>
    show p.start.IsUnbegun
    rw [Runner.IsUnbegun, p.start_spec.2.1]
    exact fun v hv => absurd hv (List.not_mem_nil)
  | succ n ih =>
    obtain ⟨orderly, fit⟩ := p.isOrderly_after schedule n
    exact ih.move orderly fit _

/-- The turn of a message: a worker begins it by move `b`, and has it in hand before move `n`. -/
structure IsTurn (w b n k : Nat) (i : Input) (pending : Option (Step κ)) : Prop where
  earlier : b < n
  worker : schedule b = .act (.worker w)
  begins : (p.start.after schedule b).pool.job? w = some ⟨.converse k i pending, .ready⟩
  held : ∀ j, b < j → j ≤ n → (p.start.after schedule j).Talks w k i pending

/-- A turn that its worker ends by move `s`, and that leaves a step for its sender. -/
structure Leaves (w b s k : Nat) (i : Input) (pending : Option (Step κ)) (step : Step κ) : Prop
    extends p.IsTurn schedule w b s k i pending where
  ends : schedule s = .act (.worker w)
  stored : p.start.happens schedule s = [.stored i.sender step]

variable {p schedule}

/-- A turn that is under way was begun by some move. -/
theorem exists_isTurn {n w k : Nat} {i : Input} {pending : Option (Step κ)}
    (h : (p.start.after schedule n).Talks w k i pending) :
    ∃ b, p.IsTurn schedule w b n k i pending := by
  induction n with
  | zero =>
    obtain ⟨label, since, e, hands⟩ := h
    rw [Runner.after, p.start_spec.2.1] at hands
    cases hands
  | succ n ih =>
    obtain ⟨orderly, fit⟩ := p.isOrderly_after schedule n
    have before := Runner.Talks.before h orderly fit (p.isUnbegun_after schedule n)
    rcases before with old | ⟨worker, begins⟩
    · obtain ⟨b, turn⟩ := ih old
      refine ⟨b, turn.earlier.trans n.lt_succ_self, turn.worker, turn.begins, ?_⟩
      intro j after upTo
      rcases Nat.lt_succ_iff_lt_or_eq.mp (Nat.lt_succ_of_le upTo) with earlier | rfl
      · exact turn.held j after (Nat.le_of_lt_succ earlier)
      · exact h
    · refine ⟨n, n.lt_succ_self, worker, begins, fun j after upTo => ?_⟩
      obtain rfl : j = n + 1 := by omega
      exact h

/-- Whatever is stored was left by a turn of its sender. -/
theorem exists_leaves {s : Nat} {x : String} {step : Step κ}
    (stored : p.start.happens schedule s = [.stored x step]) :
    ∃ w b k i pending, p.Leaves schedule w b s k i pending step ∧ i.sender = x := by
  have effect := (p.effect_after schedule s).2
  rw [stored] at effect
  obtain ⟨w, k, i, pending, ends, talks, rfl⟩ := effect.talks
  obtain ⟨b, turn⟩ := exists_isTurn talks
  exact ⟨w, b, k, i, pending, ⟨turn, ends, stored⟩, rfl⟩

end RunnerPlan

end Switchboard
