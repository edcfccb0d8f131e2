import Mathlib.Data.Nat.Nth
import Switchboard.Proofs.TaskMoves

/-!
# Where executions come from

In a run that is not told to stop, each execution of a task has an origin of its own: the firing
that put its job on its way (`RunnerPlan.exists_isOrigin`, `RunnerPlan.IsOrigin.inj`). Jobs of one
task cannot be told apart, so the first execution of a task has the first firing of it as its
origin, the second the second, and so on. That there are such firings is a matter of counting: the
firings of a task that has a bot have put as many jobs on their way as have been begun since or wait
to be (`RunnerPlan.executions_add_newWorks`).
-/

namespace Switchboard

/-! ## Counting -/

section Counting

open Nat (count nth)

variable {q : Nat → Prop} [DecidablePred q] {i n : Nat}

/-- One with so many in front of it. -/
theorem exists_count_eq (h : i < count q n) : ∃ m < n, q m ∧ count q m = i := by
  have enough : ∀ hf : (Set.ofPred q).Finite, i < hf.toFinset.card :=
    fun hf => h.trans_le (Nat.count_le_card hf n)
  exact ⟨nth q i, Nat.nth_lt_of_lt_count h, Nat.nth_mem i enough, Nat.count_nth enough⟩

/-- What comes and goes one by one is in stock in the meantime. -/
theorem count_add_stock {comes goes : Nat → Prop} [DecidablePred comes] [DecidablePred goes]
    (stock : Nat → Nat) (empty : stock 0 = 0)
    (step : ∀ m < n, stock (m + 1) + (if goes m then 1 else 0) =
      stock m + if comes m then 1 else 0) :
    count goes n + stock n = count comes n := by
  induction n with
  | zero => simpa using empty
  | succ n ih =>
    have before := ih fun m hm => step m (hm.trans n.lt_succ_self)
    have last := step n n.lt_succ_self
    rw [Nat.count_succ, Nat.count_succ]
    omega

end Counting

/-! ## Jobs that have not been begun -/

/-- The job of a task that has not been begun. -/
def Work.IsNew {κ : Type} (t : ScheduledTask) (v : Work κ) : Prop :=
  ∃ k, v = ⟨.perform k t, .ready⟩

namespace Runner

variable {κ : Type} {r r' : Runner κ} {m : Move} {t : ScheduledTask} {es : List (Happening κ)}

/-- By a move a timer fires that drives a task, and there is a bot for it. -/
def Fires (r : Runner κ) (m : Move) (t : ScheduledTask) : Prop :=
  r.firing? m = some t ∧ r.laneOf? t.botType ≠ none

/-- By a move a worker begins to execute a task. -/
def BeginsTask (r : Runner κ) (m : Move) (w : Nat) (t : ScheduledTask) : Prop :=
  m = .act (.worker w) ∧ ∃ k, r.pool.job? w = some ⟨.perform k t, .ready⟩

open Classical in
/-- How many jobs of a task have not been begun. -/
noncomputable def newWorks (r : Runner κ) (t : ScheduledTask) : Nat :=
  r.taskWorks.countP (Work.IsNew t)

theorem workerIsAble_of_ready {w : Nat} {job : Job κ}
    (hands : r.pool.job? w = some ⟨job, .ready⟩) : r.workerIsAble w = true := by
  rw [workerIsAble, hands]
  rfl

open Classical in
/-- A firing adds a job that has not been begun, and the begin of an execution takes one away. -/
theorem TaskMove.newWorks (h : r.TaskMove m r' es) (t : ScheduledTask) :
    r'.newWorks t + (if ∃ w, r.BeginsTask m w t then 1 else 0) =
      r.newWorks t + if r.Fires m t then 1 else 0 := by
  cases h with
  | aside works _ hands unserved =>
    have noBegin : ¬∃ w, r.BeginsTask m w t := by
      rintro ⟨w, acts, k, held⟩
      exact hands w k t .ready acts (workerIsAble_of_ready held) held
    have noFiring : ¬r.Fires m t := fun fires => fires.2 (unserved t fires.1).1
    rw [if_neg noBegin, if_neg noFiring, Runner.newWorks, works, Runner.newWorks]
  | comes k u firing lane _ works =>
    have noBegin : ¬∃ w, r.BeginsTask m w t := by
      rintro ⟨w, rfl, -⟩
      cases firing
    rw [if_neg noBegin, Runner.newWorks, works, Runner.newWorks]
    by_cases same : u = t
    · subst same
      have fires : r.Fires m u := ⟨firing, by simp [lane]⟩
      rw [if_pos fires, Multiset.countP_cons_of_pos _ ⟨k, rfl⟩, Nat.add_zero]
    · have noFiring : ¬r.Fires m t := fun fires =>
        same (Option.some_inj.mp (firing.symm.trans fires.1))
      rw [if_neg noFiring, Multiset.countP_cons_of_neg]
      rintro ⟨k', other⟩
      cases other
      exact same rfl
  | labours w k u s next rest acts hands done before after =>
    have noFiring : ¬r.Fires m t := by
      rintro ⟨firing, -⟩
      rw [acts] at firing
      cases firing
    -- A job that has been begun is not new any more, whatever becomes of it.
    have none : r'.newWorks t = rest.countP (Work.IsNew t) := by
      rw [Runner.newWorks, after, Multiset.countP_add]
      cases next with
      | none => simp
      | some s' =>
        have old : ¬Work.IsNew t (⟨.perform k u, s'⟩ : Work κ) := by
          rintro ⟨k', same⟩
          cases same
          exact done.ne_ready rfl
        rw [Option.elim_some, Multiset.countP_eq_zero.mpr, zero_add]
        intro v hv
        rwa [Multiset.mem_singleton.mp hv]
    rw [if_neg noFiring, none, Runner.newWorks, before]
    by_cases new : Work.IsNew t (⟨.perform k u, s⟩ : Work κ)
    · have begun : ∃ w, r.BeginsTask m w t := by
        obtain ⟨k', same⟩ := new
        cases same
        exact ⟨w, acts, k, hands⟩
      rw [if_pos begun, Multiset.countP_cons_of_pos _ new, Nat.add_zero]
    · have noBegin : ¬∃ w, r.BeginsTask m w t := by
        rintro ⟨w', acts', k', held⟩
        rw [acts] at acts'
        cases acts'
        rw [hands] at held
        cases held
        exact new ⟨k, rfl⟩
      rw [if_neg noBegin, Multiset.countP_cons_of_neg _ new]

theorem newWorks_pos_iff : 0 < r.newWorks t ↔ ∃ k, ⟨.perform k t, .ready⟩ ∈ r.taskWorks := by
  classical
  rw [Runner.newWorks, Multiset.countP_pos]
  constructor
  · rintro ⟨v, mem, k, rfl⟩
    exact ⟨k, mem⟩
  · rintro ⟨k, mem⟩
    exact ⟨_, mem, k, rfl⟩

/-- The job of a task that a worker has in hand is one of those on their way. -/
theorem mem_taskWorks_of_hands (orderly : r.IsOrderly) (served : r.IsServed) {w : Nat} {v : Work κ}
    (hands : r.pool.job? w = some v) (task : v.ofTask = true) : v ∈ r.taskWorks := by
  obtain ⟨rest, before, -⟩ := exists_jobs_putDown (served.isOrderly orderly) hands
  rw [taskWorks, before, pick_of_own task]
  simp

/-- A worker begins one execution at a time. -/
theorem BeginsTask.inj {w w' : Nat} {t' : ScheduledTask} (h : r.BeginsTask m w t)
    (h' : r.BeginsTask m w' t') : w = w' ∧ t = t' := by
  obtain ⟨rfl, k, held⟩ := h
  obtain ⟨same, k', held'⟩ := h'
  cases same
  rw [held] at held'
  cases held'
  exact ⟨rfl, rfl⟩

end Runner

/-! ## Runs -/

namespace RunnerPlan

variable {κ : Type} (p : RunnerPlan κ) (schedule : Nat → Runner.Move)

/-- By a move of a run a timer fires that drives a task, and there is a bot for it. -/
def Fires (f : Nat) (t : ScheduledTask) : Prop := (p.start.after schedule f).Fires (schedule f) t

/-- By a move of a run a worker begins to execute a task. -/
def BeginsTask (b w : Nat) (t : ScheduledTask) : Prop :=
  (p.start.after schedule b).BeginsTask (schedule b) w t

open Classical in
/-- How many firings of a task that has a bot there are before a move. -/
noncomputable def firings (t : ScheduledTask) : Nat → Nat :=
  Nat.count fun f => p.Fires schedule f t

open Classical in
/-- How many executions of a task are begun before a move. -/
noncomputable def executions (t : ScheduledTask) : Nat → Nat :=
  Nat.count fun b => ∃ w, p.BeginsTask schedule b w t

/-- The execution that begins by one move is due to the firing by another. -/
structure IsOrigin (t : ScheduledTask) (f b : Nat) : Prop where
  fires : p.Fires schedule f t
  begins : ∃ w, p.BeginsTask schedule b w t
  count : p.firings schedule t f = p.executions schedule t b

variable {p schedule} {n f f' b b' w : Nat} {t t' : ScheduledTask}

open Classical in
/-- Firings of a task have put as many jobs on their way as have been begun or wait to be. -/
theorem executions_add_newWorks (p : RunnerPlan κ) (going : ∀ m < n, schedule m ≠ .cancel)
    (t : ScheduledTask) :
    p.executions schedule t n + (p.start.after schedule n).newWorks t = p.firings schedule t n := by
  refine count_add_stock (fun m => (p.start.after schedule m).newWorks t) ?_ ?_
  · show p.start.newWorks t = 0
    rw [Runner.newWorks, p.nothing_counted_at_start.2.2.1]
    rfl
  · exact fun m hm => (taskMove_after fun j hj => going j (hj.trans hm)).newWorks t

open Classical in
/-- Each execution has an origin. -/
theorem exists_isOrigin (going : ∀ m < b, schedule m ≠ .cancel)
    (begins : p.BeginsTask schedule b w t) : ∃ f < b, p.IsOrigin schedule t f b := by
  obtain ⟨k, hands⟩ := begins.2
  have waits : 0 < (p.start.after schedule b).newWorks t :=
    Runner.newWorks_pos_iff.mpr ⟨k, Runner.mem_taskWorks_of_hands (p.isOrderly_after schedule b).1
      (p.isServed_after going) hands rfl⟩
  have sum := p.executions_add_newWorks going t
  have fewer : p.executions schedule t b < p.firings schedule t b := by omega
  obtain ⟨f, earlier, fires, count⟩ := exists_count_eq fewer
  exact ⟨f, earlier, fires, ⟨w, begins⟩, count⟩

open Classical in
/-- No execution has two origins. -/
theorem IsOrigin.eq (h : p.IsOrigin schedule t f b) (h' : p.IsOrigin schedule t' f' b) :
    f = f' := by
  obtain ⟨w, begins⟩ := h.begins
  obtain ⟨w', begins'⟩ := h'.begins
  obtain ⟨-, rfl⟩ := begins.inj begins'
  exact Nat.count_injective h.fires h'.fires (h.count.trans h'.count.symm)

open Classical in
/-- No firing is the origin of two executions. -/
theorem IsOrigin.inj (h : p.IsOrigin schedule t f b) (h' : p.IsOrigin schedule t' f b') :
    b = b' := by
  obtain rfl : t = t' := Option.some_inj.mp (h.fires.1.symm.trans h'.fires.1)
  exact Nat.count_injective h.begins h'.begins (h.count.symm.trans h'.count)

open Classical in
/-- A firing is the origin of an execution once more have been begun than there were firings before
it. -/
theorem exists_isOrigin_of_lt (going : ∀ m < n, schedule m ≠ .cancel)
    (fires : p.Fires schedule f t) (begun : p.firings schedule t f < p.executions schedule t n) :
    ∃ b < n, f < b ∧ p.IsOrigin schedule t f b := by
  obtain ⟨b, hb, ⟨w, begins⟩, count⟩ := exists_count_eq begun
  have origin : p.IsOrigin schedule t f b := ⟨fires, ⟨w, begins⟩, count.symm⟩
  obtain ⟨f', before, origin'⟩ := exists_isOrigin (fun m hm => going m (hm.trans hb)) begins
  rw [← origin.eq origin'] at before
  exact ⟨b, hb, before, origin⟩

open Classical in
/-- A firing adds to those before it. -/
theorem firings_lt (fires : p.Fires schedule f t) (earlier : f < n) :
    p.firings schedule t f < p.firings schedule t n := Nat.count_strict_mono fires earlier

/-! ## Bots -/

theorem start_lanes (started : p.start.course = .running) :
    p.start.lanes = p.bots.map Lane.ofBot := by
  unfold start at started ⊢
  split at started
  · cases started
  · dsimp only at started ⊢
    split at started
    · rfl
    · cases started

/-- The lanes of a run are those of its bots. -/
theorem laneOf?_ne_none_iff (started : p.start.course = .running) {bot : BotType} :
    (p.start.after schedule n).laneOf? bot ≠ none ↔ ∃ b ∈ p.bots, b.botType = bot := by
  have same := Runner.laneOf?_of_bots (Runner.isLater_after p.start schedule n.zero_le).bots bot
  rw [same, Ne, Runner.laneOf?_eq_none_iff, Runner.after, start_lanes started]
  simp [Lane.botType, Lane.ofBot]

end RunnerPlan

end Switchboard
