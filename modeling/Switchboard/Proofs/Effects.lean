import Switchboard.Proofs.Labours
import Switchboard.Proofs.Lasting

/-!
# What a move does

Every move of a runner, as far as inputs are concerned, is one of a few things: an input is
accepted, a worker goes on with the job of an input, expired conversations are swept, jobs are
dropped after the pool was closed, or nothing that has to do with inputs happens (`Runner.Effect`).

`move_spec` says so of every move, for runners in which each worker and each waiting intake has one
job (`Runner.IsOrderly`); a start is orderly, and every move keeps that.
-/

namespace Switchboard

namespace Runner

variable {κ : Type} {r : Runner κ} {n : Nat} {w : Work κ}

/-! ## Orderly runners -/

/-- Each worker has one job at most, each intake that waits has its job at the pool, and whoever
else waits there has the job of a task. -/
structure IsOrderly (r : Runner κ) : Prop where
  pool : r.pool.IsOrderly Work.ofLane
  intakes : ∀ e ∈ r.pool.waiting, e.2.ofLane = true →
    ∃ k l, e.1 = intakeProducer k ∧ r.lanes[k]? = some l ∧ l.intake = .waiting
  timers : ∀ e ∈ r.pool.waiting, e.2.ofLane = false → ∃ n, e.1 = timerProducer n
  held : ∀ l ∈ r.lanes, ∀ job, l.intake = .holding job → job.isOfLane = true

/-- The jobs of inputs are at stages of such jobs, and have a lane. -/
def IsFit (r : Runner κ) : Prop := ∀ w ∈ r.works, w.IsFit ∧ w.job.lane < r.lanes.length

/-- What a move does, and what happens by it. -/
inductive Effect (r : Runner κ) : Move → Runner κ → List (Happening κ) → Prop
  /-- Nothing that has to do with inputs. -/
  | quiet {m : Move} {r' : Runner κ} {es : List (Happening κ)}
    (silent : ∀ e ∈ es, e.isTalk = false) (works : r'.works = r.works)
    (conversations : r'.conversations = r.conversations) : Effect r m r' es
  /-- Jobs are dropped after the pool was closed. -/
  | drop {m : Move} {r' : Runner κ} (closed : r.pool.closed = true) (works : r'.works ≤ r.works)
    (conversations : r'.conversations = r.conversations) : Effect r m r' []
  | sweep {m : Move} {r' : Runner κ} (works : r'.works = r.works)
    (conversations : r'.conversations = r.conversations.purge r.now) : Effect r m r' []
  | abort {m : Move} {r' : Runner κ} (k : Nat) (i : Input) (kind : i.kind = .abort)
    (works : r'.works = r.works)
    (conversations : r'.conversations = r.conversations.remove i.sender) :
    Effect r m r' [.accepted (r.botTypeOf k) i]
  | help {m : Move} {r' : Runner κ} (k : Nat) (i : Input) (kind : i.kind = .help)
    (lane : k < r.lanes.length) (works : r'.works = ⟨r.helpJob k i, .ready⟩ ::ₘ r.works)
    (conversations : r'.conversations = r.conversations) :
    Effect r m r' [.accepted (r.botTypeOf k) i]
  | message {m : Move} {r' : Runner κ} (k : Nat) (i : Input) (kind : i.kind = .message)
    (lane : k < r.lanes.length)
    (works : r'.works =
      ⟨.converse k i (r.conversations.take r.now i.sender).1, .ready⟩ ::ₘ r.works)
    (conversations : r'.conversations = (r.conversations.take r.now i.sender).2) :
    Effect r m r' [.accepted (r.botTypeOf k) i]
  /-- A worker goes on with the job of an input. -/
  | labour {r' : Runner κ} (n : Nat) {w : Work κ} {next : Option (Work κ)}
    {conversations : Conversations κ} {es : List (Happening κ)} {rest : Multiset (Work κ)}
    (hands : r.pool.job? n = some w) (done : Labour r w next conversations es)
    (before : r.works = w ::ₘ rest) (after : r'.works = next.elim 0 ({·}) + rest)
    (stored : r'.conversations = conversations) : Effect r (.act (.worker n)) r' es

/-! ## Moves that leave the jobs alone -/

section Still

variable {r' r'' : Runner κ} {es : List (Happening κ)}

theorem heldWorks_of_cores (cores : r'.lanes.map Lane.core = r.lanes.map Lane.core) :
    r'.heldWorks = r.heldWorks := by
  have of_cores : ∀ s : Runner κ,
      s.heldWorks = ((s.lanes.map Lane.core).map fun c => c.2.held).sum := by
    intro s
    rw [heldWorks, List.map_map]
    rfl
  rw [of_cores, of_cores, cores]

/-- What an intake does is told by its core. -/
theorem exists_lane_of_cores (cores : r'.lanes.map Lane.core = r.lanes.map Lane.core) {k : Nat}
    {l : Lane κ} (hl : r.lanes[k]? = some l) :
    ∃ l', r'.lanes[k]? = some l' ∧ l'.bot = l.bot ∧ l'.intake = l.intake := by
  have same : (r'.lanes.map Lane.core)[k]? = (r.lanes.map Lane.core)[k]? := by rw [cores]
  rw [List.getElem?_map, List.getElem?_map, hl] at same
  obtain ⟨l', hl', core⟩ := Option.map_eq_some_iff.mp same
  exact ⟨l', hl', congrArg Prod.fst core, congrArg Prod.snd core⟩

/-- A runner stays orderly when lanes keep their cores and only tasks join those who wait. -/
theorem IsOrderly.of_pool (h : r.IsOrderly) (cores : r'.lanes.map Lane.core = r.lanes.map Lane.core)
    (pool : r'.pool.IsOrderly Work.ofLane)
    (waiting : ∀ e ∈ r'.pool.waiting, e ∈ r.pool.waiting ∨
      e.2.ofLane = false ∧ ∃ n, e.1 = timerProducer n) : r'.IsOrderly := by
  refine ⟨pool, ?_, ?_, ?_⟩
  · intro e he own
    rcases waiting e he with old | ⟨task, -⟩
    · obtain ⟨k, l, producer, hl, waits⟩ := h.intakes e old own
      obtain ⟨l', hl', -, intake⟩ := exists_lane_of_cores cores hl
      exact ⟨k, l', producer, hl', intake.trans waits⟩
    · rw [task] at own
      cases own
  · intro e he task
    rcases waiting e he with old | ⟨-, producer⟩
    · exact h.timers e old task
    · exact producer
  · intro l hl job holding
    obtain ⟨k, hk⟩ := List.getElem?_of_mem hl
    obtain ⟨l', hl', -, intake⟩ := exists_lane_of_cores cores.symm hk
    exact h.held l' (List.mem_of_getElem? hl') job (intake.trans holding)

/-- What jobs depend on is the same, and nothing happens that has to do with inputs. -/
structure IsStill (r r' : Runner κ) (es : List (Happening κ)) : Prop where
  trace : r'.trace = r.trace ++ es
  silent : ∀ e ∈ es, e.isTalk = false
  pool : r'.pool = { r.pool with closed := r'.pool.closed }
  cores : r'.lanes.map Lane.core = r.lanes.map Lane.core
  conversations : r'.conversations = r.conversations

namespace IsStill

theorem refl (r : Runner κ) : r.IsStill r [] :=
  ⟨(List.append_nil _).symm, by simp, rfl, rfl, rfl⟩

/-- A change of fields that no job depends on. -/
theorem update (h : r.IsStill r' es) (trace : r''.trace = r'.trace) (pool : r''.pool = r'.pool)
    (lanes : r''.lanes = r'.lanes) (conversations : r''.conversations = r'.conversations) :
    r.IsStill r'' es :=
  ⟨trace.trans h.trace, h.silent, by rw [pool, ← h.pool], by rw [lanes, h.cores],
    conversations.trans h.conversations⟩

theorem emit (h : r.IsStill r' es) {x : Happening κ} (silent : x.isTalk = false) :
    r.IsStill (r'.emit x) (es ++ [x]) := by
  refine ⟨?_, ?_, h.pool, h.cores, h.conversations⟩
  · rw [Runner.emit, h.trace, List.append_assoc]
  · intro e he
    rcases List.mem_append.mp he with he | he
    · exact h.silent e he
    · rw [List.mem_singleton.mp he]
      exact silent

theorem setLane (h : r.IsStill r' es) (k : Nat) {f : Lane κ → Lane κ}
    (keeps : ∀ l, (f l).core = l.core) : r.IsStill (r'.setLane k f) es :=
  ⟨h.trace, h.silent, h.pool, (map_lanes_setLane _ fun l _ => keeps l).trans h.cores,
    h.conversations⟩

theorem stopLane (h : r.IsStill r' es) (k : Nat) : r.IsStill (r'.stopLane k) es :=
  h.setLane k fun _ => rfl

theorem orderly (h : r.IsStill r' es) (orderly : r.IsOrderly) : r'.IsOrderly := by
  refine orderly.of_pool h.cores ?_ ?_
  · rw [h.pool]
    exact ⟨orderly.pool.workers, orderly.pool.producers⟩
  · intro e he
    rw [h.pool] at he
    exact .inl he

theorem effect (h : r.IsStill r' es) (m : Move) : r.Effect m r' es := by
  refine .quiet h.silent ?_ h.conversations
  rw [works, works, heldWorks_of_cores h.cores, h.pool]
  rfl

end IsStill

theorem core_runStep (l : Lane κ) (stopped : Bool) : (l.runStep stopped).core = l.core := by
  unfold Lane.runStep
  split
  · split
    · rfl
    · split <;> rfl
  · split
    · rfl
    · split <;> rfl

theorem isStill_courseStep (r : Runner κ) : r.IsStill r.courseStep [] := by
  unfold courseStep
  split
  all_goals exact (IsStill.refl r).update rfl rfl rfl rfl

theorem exists_isStill_supervisorStep (r : Runner κ) (k : Nat) :
    ∃ es, r.IsStill (r.supervisorStep k) es := by
  unfold supervisorStep
  split
  · exact ⟨_, .refl r⟩
  · next l _ =>
    dsimp only
    split
    · refine ⟨[], IsStill.setLane ?_ k fun _ => rfl⟩
      exact (IsStill.refl r).update rfl rfl rfl rfl
    · split
      · refine ⟨[.noted .runLoopFailed], (IsStill.stopLane ?_ k).setLane k fun _ => rfl⟩
        exact ((IsStill.refl r).emit rfl).update rfl rfl rfl rfl
      · refine ⟨[], (IsStill.stopLane ?_ k).setLane k fun _ => rfl⟩
        exact (IsStill.refl r).update rfl rfl rfl rfl
    · exact ⟨_, (IsStill.refl r).setLane k fun _ => rfl⟩
    · exact ⟨_, .refl r⟩

theorem exists_isStill_errorStep (r : Runner κ) (k : Nat) :
    ∃ es, r.IsStill (r.errorStep k) es := by
  unfold errorStep
  split
  · exact ⟨_, .refl r⟩
  · split
    · exact ⟨_, .refl r⟩
    · exact ⟨_, ((IsStill.refl r).emit rfl).setLane k fun _ => rfl⟩
    · refine ⟨[], IsStill.stopLane ?_ k⟩
      exact (IsStill.refl r).setLane k fun _ => rfl
    · split
      · exact ⟨_, (IsStill.refl r).setLane k fun _ => rfl⟩
      · split
        · exact ⟨_, (IsStill.refl r).setLane k fun _ => rfl⟩
        · exact ⟨_, ((IsStill.refl r).emit rfl).setLane k fun _ => rfl⟩

theorem isStill_watch (r : Runner κ) :
    r.IsStill r.watch (r.workshop.watch.notes.map .noted) := by
  refine ⟨rfl, ?_, rfl, rfl, rfl⟩
  intro e he
  obtain ⟨x, -, rfl⟩ := List.mem_map.mp he
  rfl

/-! ## Timers -/

/-- The timers put jobs of tasks into the pool, and only those. -/
structure IsTaskWork (r r' : Runner κ) (es : List (Happening κ)) : Prop where
  trace : r'.trace = r.trace ++ es
  silent : ∀ e ∈ es, e.isTalk = false
  lanes : r'.lanes = r.lanes
  conversations : r'.conversations = r.conversations
  jobs : r'.pool.jobs Work.ofLane = r.pool.jobs Work.ofLane
  pool : r'.pool.IsOrderly Work.ofLane
  waiting : ∀ e ∈ r'.pool.waiting, e ∈ r.pool.waiting ∨
    e.2.ofLane = false ∧ ∃ n, e.1 = timerProducer n

theorem IsTaskWork.orderly (h : r.IsTaskWork r' es) (orderly : r.IsOrderly) : r'.IsOrderly :=
  orderly.of_pool (by rw [h.lanes]) h.pool h.waiting

theorem IsTaskWork.effect (h : r.IsTaskWork r' es) (m : Move) : r.Effect m r' es := by
  refine .quiet h.silent ?_ h.conversations
  have held : r'.heldWorks = r.heldWorks := heldWorks_of_cores (by rw [h.lanes])
  rw [works, works, held, h.jobs]

theorem intakeProducer_ne_timerProducer (k n : Nat) : intakeProducer k ≠ timerProducer n := by
  unfold intakeProducer timerProducer
  omega

/-- A timer waits with the job of a task. -/
theorem IsOrderly.task_of_timer (h : r.IsOrderly) {n : Nat} :
    ∀ e ∈ r.pool.waiting, e.1 = timerProducer n → e.2.ofLane = false := by
  intro e he producer
  cases own : e.2.ofLane with
  | false => rfl
  | true =>
    obtain ⟨k, -, even, -⟩ := h.intakes e he own
    exact absurd (even.symm.trans producer) (intakeProducer_ne_timerProducer k n)

/-- An intake waits with the job of an input. -/
theorem IsOrderly.ofLane_of_intake (h : r.IsOrderly) {k : Nat} :
    ∀ e ∈ r.pool.waiting, e.1 = intakeProducer k → e.2.ofLane = true := by
  intro e he producer
  cases own : e.2.ofLane with
  | true => rfl
  | false =>
    obtain ⟨n, odd⟩ := h.timers e he own
    exact absurd (producer.symm.trans odd) (intakeProducer_ne_timerProducer k n)

theorem exists_isTaskWork_fire (h : r.IsOrderly) (n : Nat) (t : Timer) :
    ∃ es, r.IsTaskWork (r.fire n t) es := by
  unfold fire
  dsimp only
  split
  · refine ⟨[.fired t.task.key, .noted .taskWithoutBot], ?_, ?_, rfl, rfl, rfl, h.pool,
      fun _ => .inl⟩
    · simp [rearm, note, emit]
    · simp [Happening.isTalk]
  · next k _ =>
    have task : ({ job := .perform k t.task } : Work κ).ofLane = false := rfl
    split
    · refine ⟨[.fired t.task.key], rfl, ?_, rfl, rfl, rfl, h.pool, fun _ => .inl⟩
      simp [Happening.isTalk]
    · split
      · refine ⟨[.fired t.task.key], rfl, ?_, rfl, rfl, ?_, h.pool.push _, fun _ => .inl⟩
        · simp [Happening.isTalk]
        · refine (Pool.jobs_push _ _).trans ?_
          rw [pick_of_not_own task, zero_add]
          rfl
      · refine ⟨[.fired t.task.key], rfl, ?_, rfl, rfl, ?_, h.pool.keepWaiting ?_, ?_⟩
        · simp [Happening.isTalk]
        · refine (Pool.jobs_keepWaiting _ _ _).trans ?_
          rw [pick_of_not_own task, zero_add]
          rfl
        · intro own
          rw [task] at own
          cases own
        · intro e he
          rcases List.mem_append.mp he with he | he
          · exact .inl he
          · rw [List.mem_singleton.mp he]
            exact .inr ⟨task, n, rfl⟩

theorem exists_isTaskWork_timerStep (h : r.IsOrderly) (n : Nat) :
    ∃ es, r.IsTaskWork (r.timerStep n) es := by
  have refl : r.IsTaskWork r [] :=
    ⟨(List.append_nil _).symm, by simp, rfl, rfl, rfl, h.pool, fun _ => .inl⟩
  have withdrawn : (r.pool.withdraw (timerProducer n)).jobs Work.ofLane =
      r.pool.jobs Work.ofLane := Pool.jobs_withdraw_other _ h.task_of_timer
  unfold timerStep
  split
  · exact ⟨_, refl⟩
  · next t _ =>
    split
    · dsimp only
      split
      · refine ⟨[], (List.append_nil _).symm, by simp, rfl, rfl, withdrawn, h.pool.withdraw _, ?_⟩
        exact fun e he => .inl (List.mem_filter.mp he).1
      · split
        · exact ⟨_, refl⟩
        · next work admitted =>
          obtain ⟨e, found, rfl⟩ := Option.map_eq_some_iff.mp admitted
          have mem : e ∈ r.pool.waiting := List.mem_of_mem_take (List.mem_of_find?_eq_some found)
          have task : e.2.ofLane = false :=
            h.task_of_timer e mem (by simpa using List.find?_some found)
          refine ⟨[], (List.append_nil _).symm, by simp, rfl, rfl, ?_,
            (h.pool.withdraw _).push _, ?_⟩
          · refine (Pool.jobs_push _ _).trans ?_
            rw [pick_of_not_own task, zero_add, withdrawn]
          · exact fun e he => .inl (List.mem_filter.mp he).1
    · exact exists_isTaskWork_fire h n t

/-! ## Workers -/

theorem waiting_putDown (p : Pool (Work κ)) (n : Nat) (next : Option (Work κ)) :
    (putDown p n next).waiting = p.waiting := by cases next <;> rfl

theorem isOrderly_putDown {p : Pool (Work κ)} {n : Nat} {w : Work κ}
    (h : p.IsOrderly Work.ofLane) (hands : p.job? n = some w) (next : Option (Work κ)) :
    (putDown p n next).IsOrderly Work.ofLane := by
  cases next with
  | none => exact h.finish hands
  | some v => exact h.setJob n v

/-- A worker goes on with the job of an input. -/
theorem effect_labour (h : r.IsOrderly) (fit : r.IsFit) {n : Nat} {w : Work κ}
    (hands : r.pool.job? n = some w) (own : w.ofLane = true) :
    (r.workerStep n).IsOrderly ∧ ∃ next conversations es rest,
      (r.workerStep n).trace = r.trace ++ es ∧ Labour r w next conversations es ∧
      r.works = w ::ₘ rest ∧ (r.workerStep n).works = next.elim 0 ({·}) + rest ∧
      (r.workerStep n).conversations = conversations := by
  obtain ⟨rest, before, changed, finished⟩ := Pool.exists_jobs_eq h.pool hands
  rw [pick_of_own own] at before
  have works_eq : r.works = w ::ₘ (r.heldWorks + rest) := by
    rw [works, before, ← Multiset.singleton_add]
    abel
  obtain ⟨fitting, bound⟩ := fit w (works_eq ▸ Multiset.mem_cons_self _ _)
  obtain ⟨next, conversations, es, metrics, labour, frame⟩ :=
    carryOn_spec (n := n) own fitting (List.getElem?_eq_getElem bound)
  have step : r.workerStep n = r.carryOn n w := by simp only [workerStep, hands]
  rw [step, frame]
  refine ⟨?_, next, conversations, es, r.heldWorks + rest, rfl, labour, works_eq, ?_, rfl⟩
  · refine h.of_pool rfl (isOrderly_putDown h.pool hands next) ?_
    intro e he
    rw [waiting_putDown] at he
    exact .inl he
  · cases next with
    | none =>
      show r.heldWorks + (r.pool.finish n).jobs Work.ofLane = 0 + (r.heldWorks + rest)
      rw [finished, zero_add]
    | some v =>
      have own' : v.ofLane = true := by rw [Work.ofLane, labour.job_eq]; exact own
      show r.heldWorks + (r.pool.setJob n v).jobs Work.ofLane = {v} + (r.heldWorks + rest)
      rw [changed, pick_of_own own']
      abel

/-- What else workers do: they take jobs, leave, or see to tasks. -/
theorem effect_workerStep (h : r.IsOrderly) (fit : r.IsFit) (n : Nat) :
    (r.workerStep n).IsOrderly ∧ ∃ es, (r.workerStep n).trace = r.trace ++ es ∧
      r.Effect (.act (.worker n)) (r.workerStep n) es := by
  cases hands : r.pool.job? n with
  | some w =>
    cases own : w.ofLane with
    | true =>
      obtain ⟨orderly, next, conversations, es, rest, trace, labour, before, after, stored⟩ :=
        effect_labour h fit hands own
      exact ⟨orderly, es, trace, .labour n hands labour before after stored⟩
    | false =>
      have step : r.workerStep n = r.carryOn n w := by simp only [workerStep, hands]
      obtain ⟨next, es, task, silent, trace, pool, conversations, lanes⟩ :=
        carryOn_task (r := r) (n := n) own
      rw [step]
      obtain ⟨rest, before, changed, finished⟩ := Pool.exists_jobs_eq h.pool hands
      have jobs : (r.carryOn n w).pool.jobs Work.ofLane = r.pool.jobs Work.ofLane := by
        rw [pool, before, pick_of_not_own own, zero_add]
        cases next with
        | none => exact finished
        | some v => exact (changed v).trans (by rw [pick_of_not_own (task v rfl), zero_add])
      have work : r.IsTaskWork (r.carryOn n w) es := by
        refine ⟨trace, silent, lanes, conversations, jobs, ?_, ?_⟩
        · rw [pool]
          exact isOrderly_putDown h.pool hands next
        · intro e he
          rw [pool, waiting_putDown] at he
          exact .inl he
      exact ⟨work.orderly h, es, trace, work.effect _⟩
  | none =>
    have held : ∀ p : Pool (Work κ), ({ r with pool := p } : Runner κ).works =
        r.heldWorks + p.jobs Work.ofLane := fun _ => rfl
    unfold workerStep
    rw [hands]
    dsimp only
    split
    · next leaves =>
      have closed : r.pool.closed = true := (Bool.and_eq_true_iff.mp leaves).1
      refine ⟨h.of_pool rfl (h.pool.leave n) ?_, [], (List.append_nil _).symm,
        .drop closed ?_ rfl⟩
      · intro e he
        unfold Pool.leave at he
        dsimp only at he
        split at he
        · exact .inl he
        · exact .inl he
      · rw [held]
        exact Multiset.add_le_add_left (r.pool.jobs_leave_le n)
    · refine ⟨h.of_pool rfl (h.pool.take n) ?_, [], (List.append_nil _).symm,
        .quiet (by simp) ?_ rfl⟩
      · intro e he
        unfold Pool.take at he
        split at he
        · exact .inl he
        · exact .inl he
      · rw [held, Pool.jobs_take]
        rfl

/-! ## Intakes -/

section Intakes

variable {k : Nat} {l : Lane κ}

theorem intakeProducer_inj {j k : Nat} (h : intakeProducer j = intakeProducer k) : j = k := by
  unfold intakeProducer at h
  omega

/-- An intake that does not wait has no job at the pool. -/
theorem IsOrderly.absent (h : r.IsOrderly) (hl : r.lanes[k]? = some l)
    (busy : l.intake ≠ .waiting) :
    ∀ e ∈ r.pool.waiting, e.2.ofLane = true → e.1 ≠ intakeProducer k := by
  intro e he own same
  obtain ⟨j, l', producer, hl', waits⟩ := h.intakes e he own
  obtain rfl := intakeProducer_inj (producer.symm.trans same)
  rw [hl] at hl'
  cases hl'
  exact busy waits

/-- One intake does something else, and its job at the pool is as it says. -/
theorem IsOrderly.setIntake (h : r.IsOrderly) (hl : r.lanes[k]? = some l) {f : Lane κ → Lane κ}
    (lanes : r'.lanes = (r.setLane k f).lanes) (pool : r'.pool.IsOrderly Work.ofLane)
    (waiting : ∀ e ∈ r'.pool.waiting,
      e ∈ r.pool.waiting ∧ (e.2.ofLane = true → e.1 ≠ intakeProducer k) ∨
        e.2.ofLane = true ∧ e.1 = intakeProducer k ∧ (f l).intake = .waiting)
    (held : ∀ job, (f l).intake = .holding job → job.isOfLane = true) : r'.IsOrderly := by
  have here : r'.lanes[k]? = some (f l) := by
    rw [lanes, getElem?_lanes_setLane, hl]
    simp
  refine ⟨pool, ?_, ?_, ?_⟩
  · intro e he own
    rcases waiting e he with ⟨old, apart⟩ | ⟨-, producer, waits⟩
    · obtain ⟨j, l', producer, hl', waits⟩ := h.intakes e old own
      have differs : k ≠ j := fun same => apart own (same ▸ producer)
      refine ⟨j, l', producer, ?_, waits⟩
      rw [lanes, getElem?_lanes_setLane, hl']
      simp [differs]
    · exact ⟨k, f l, producer, here, waits⟩
  · intro e he task
    rcases waiting e he with ⟨old, -⟩ | ⟨own, -, -⟩
    · exact h.timers e old task
    · rw [task] at own
      cases own
  · intro l' hl' job holding
    obtain ⟨j, hj⟩ := List.getElem?_of_mem hl'
    rw [lanes, getElem?_lanes_setLane] at hj
    obtain ⟨old, hold, rfl⟩ := Option.map_eq_some_iff.mp hj
    by_cases same : k = j
    · subst same
      rw [hl] at hold
      cases hold
      rw [if_pos rfl] at holding
      exact held job holding
    · rw [if_neg same] at holding
      exact h.held old (List.mem_of_getElem? hold) job holding

/-- The job of one intake among the jobs on their way. -/
theorem exists_works_eq (hl : r.lanes[k]? = some l) :
    ∃ rest, r.works = l.intake.held + rest + r.pool.jobs Work.ofLane ∧
      ∀ (s : Runner κ) (f : Lane κ → Lane κ), s.lanes = (r.setLane k f).lanes →
        s.works = (f l).intake.held + rest + s.pool.jobs Work.ofLane := by
  obtain ⟨rest, before, after⟩ := exists_heldWorks_eq hl
  refine ⟨rest, by rw [works, before], ?_⟩
  intro s f lanes
  rw [works, ← after, heldWorks, lanes]
  rfl

/-- What an intake does, and what it makes of the runner. -/
def StepsTo (r : Runner κ) (m : Move) (r' : Runner κ) : Prop :=
  r'.IsOrderly ∧ ∃ es, r'.trace = r.trace ++ es ∧ r.Effect m r' es

theorem stepsTo_refl (h : r.IsOrderly) (m : Move) : r.StepsTo m r :=
  ⟨h, [], (List.append_nil _).symm, .quiet (by simp) rfl rfl⟩

/-- An intake ends, with or without a job. -/
theorem stepsTo_endIntake (h : r.IsOrderly) (hl : r.lanes[k]? = some l) (m : Move)
    (busy : l.intake ≠ .waiting) (closed : r.pool.closed = true ∨ l.intake.held = 0) :
    r.StepsTo m (r.setLane k Lane.endIntake) := by
  obtain ⟨rest, before, after⟩ := exists_works_eq hl
  have ended : (r.setLane k Lane.endIntake).works = 0 + rest + r.pool.jobs Work.ofLane :=
    after _ _ rfl
  refine ⟨?_, [], (List.append_nil _).symm, ?_⟩
  · refine h.setIntake hl rfl h.pool ?_ (by rintro _ ⟨⟩)
    exact fun e he => .inl ⟨he, h.absent hl busy e he⟩
  · rcases closed with closed | empty
    · refine .drop closed ?_ rfl
      rw [ended, before]
      gcongr
      exact Multiset.zero_le _
    · refine .quiet (by simp) ?_ rfl
      rw [ended, before, empty]

/-- An intake goes on, and its job with it. -/
theorem stepsTo_setIntake (h : r.IsOrderly) (hl : r.lanes[k]? = some l) (m : Move)
    (busy : l.intake ≠ .waiting) {s : Runner κ} {next : Intake κ}
    (lanes : s.lanes = (r.setLane k fun l => { l with intake := next }).lanes)
    (trace : s.trace = r.trace) (conversations : s.conversations = r.conversations)
    (pool : s.pool.IsOrderly Work.ofLane)
    (waiting : ∀ e ∈ s.pool.waiting, e ∈ r.pool.waiting ∨
      e.2.ofLane = true ∧ e.1 = intakeProducer k ∧ next = .waiting)
    (idle : ∀ job, next ≠ .holding job)
    (jobs : s.pool.jobs Work.ofLane = l.intake.held + r.pool.jobs Work.ofLane) :
    r.StepsTo m s := by
  obtain ⟨rest, before, after⟩ := exists_works_eq hl
  refine ⟨?_, [], by rw [trace, List.append_nil], .quiet (by simp) ?_ conversations⟩
  · refine h.setIntake hl lanes pool ?_ fun job same => absurd same (idle job)
    intro e he
    rcases waiting e he with old | ⟨own, producer, waits⟩
    · exact .inl ⟨old, h.absent hl busy e old⟩
    · exact .inr ⟨own, producer, waits⟩
  · have empty : next.held = 0 := by
      cases next with
      | holding job => exact absurd rfl (idle job)
      | _ => rfl
    rw [after s _ lanes, before, jobs]
    dsimp only
    rw [empty]
    abel

/-- An intake offers its job. -/
theorem stepsTo_offer (h : r.IsOrderly) (hl : r.lanes[k]? = some l) {job : Job κ}
    (holding : l.intake = .holding job) (m : Move) : r.StepsTo m (r.offer k job) := by
  have own : Work.ofLane { job } = true := h.held l (List.mem_of_getElem? hl) job holding
  have busy : l.intake ≠ .waiting := by simp [holding]
  have held : l.intake.held = {{ job }} := by
    rw [holding]
    exact pick_of_own own
  unfold offer
  split
  · next closed => exact stepsTo_endIntake h hl m busy (.inl closed)
  · split
    · refine stepsTo_setIntake h hl m busy rfl rfl rfl (h.pool.push _) (fun e he => .inl he)
        (by rintro _ ⟨⟩) ?_
      rw [held, ← pick_of_own own]
      exact Pool.jobs_push _ _
    · refine stepsTo_setIntake h hl m busy rfl rfl rfl
        (h.pool.keepWaiting fun _ => h.absent hl busy) ?_ (by rintro _ ⟨⟩) ?_
      · intro e he
        rcases List.mem_append.mp he with old | new
        · exact .inl old
        · rw [List.mem_singleton.mp new]
          exact .inr ⟨own, rfl, rfl⟩
      · rw [held, ← pick_of_own own]
        exact Pool.jobs_keepWaiting _ _ _

/-- The pool answers an intake that waits. -/
theorem stepsTo_enter (h : r.IsOrderly) (hl : r.lanes[k]? = some l) (waits : l.intake = .waiting)
    (m : Move) : r.StepsTo m (r.enter k) := by
  obtain ⟨rest, before, after⟩ := exists_works_eq hl
  have held : l.intake.held = 0 := by
    rw [waits]
    rfl
  have gone : ∀ e ∈ r.pool.waiting.filter (fun w => w.1 ≠ intakeProducer k),
      e ∈ r.pool.waiting ∧ (e.2.ofLane = true → e.1 ≠ intakeProducer k) := by
    intro e he
    obtain ⟨old, apart⟩ := List.mem_filter.mp he
    exact ⟨old, fun _ => by simpa using apart⟩
  have empty : ∀ (s : Runner κ) (f : Lane κ → Lane κ), s.lanes = (r.setLane k f).lanes →
      (f l).intake.held = 0 → s.works = rest + s.pool.jobs Work.ofLane := by
    intro s f lanes none
    rw [after s f lanes, none, zero_add]
  rw [held, zero_add] at before
  unfold enter
  dsimp only
  split
  · next closed =>
    refine ⟨?_, [], (List.append_nil _).symm, .drop closed ?_ rfl⟩
    · exact h.setIntake hl rfl (h.pool.withdraw _) (fun e he => .inl (gone e he)) (by rintro _ ⟨⟩)
    · refine (empty _ Lane.endIntake ?_ rfl).trans_le ?_
      · rfl
      · rw [before]
        exact Multiset.add_le_add_left (r.pool.jobs_withdraw_le _)
  · split
    · exact stepsTo_refl h m
    · next work admitted =>
      have entering := Pool.jobs_admitted h.pool h.ofLane_of_intake admitted
      have own : work.ofLane = true := by
        obtain ⟨e, found, rfl⟩ := Option.map_eq_some_iff.mp admitted
        exact h.ofLane_of_intake e (List.mem_of_mem_take (List.mem_of_find?_eq_some found))
          (by simpa using List.find?_some found)
      refine ⟨?_, [], (List.append_nil _).symm, .quiet (by simp) ?_ rfl⟩
      · refine h.setIntake hl rfl ((h.pool.withdraw _).push _) ?_ (by rintro _ ⟨⟩)
        exact fun e he => .inl (gone e he)
      · refine (empty _ (fun l => { l with intake := .listening }) ?_ rfl).trans ?_
        · rfl
        · rw [before, entering, ← Multiset.singleton_add, ← pick_of_own own]
          exact congrArg _ (Pool.jobs_push _ _)

/-- An intake that has nothing in hand accepts an input to be dropped. -/
theorem accept_abort (r : Runner κ) (k : Nat) {i : Input} (kind : i.kind = .abort) :
    ∃ metrics, r.accept k i = { r with
      metrics, conversations := r.conversations.remove i.sender
      trace := r.trace ++ [.accepted (r.botTypeOf k) i] } := by
  unfold accept
  rw [kind]
  exact ⟨_, rfl⟩

/-- An input that is not dropped makes a job. -/
theorem accept_job (r : Runner κ) (k : Nat) {i : Input} {job : Job κ}
    {conversations : Conversations κ}
    (made : i.kind = .help ∧ job = r.helpJob k i ∧ conversations = r.conversations ∨
      i.kind = .message ∧ job = .converse k i (r.conversations.take r.now i.sender).1 ∧
        conversations = (r.conversations.take r.now i.sender).2) :
    (r.accept k i).lanes = (r.setLane k fun l => { l with intake := .holding job }).lanes ∧
      (r.accept k i).pool = r.pool ∧ (r.accept k i).conversations = conversations ∧
      (r.accept k i).trace = r.trace ++ [.accepted (r.botTypeOf k) i] := by
  unfold accept
  rcases made with ⟨kind, rfl, rfl⟩ | ⟨kind, rfl, rfl⟩
  · rw [kind]
    exact ⟨rfl, rfl, rfl, rfl⟩
  · rw [kind]
    exact ⟨rfl, rfl, rfl, rfl⟩

theorem botTypeOf_setLane (r : Runner κ) (k j : Nat) {f : Lane κ → Lane κ}
    (keeps : ∀ l, (f l).bot = l.bot) : (r.setLane k f).botTypeOf j = r.botTypeOf j := by
  unfold botTypeOf
  rw [getElem?_lanes_setLane]
  cases r.lanes[j]? with
  | none => rfl
  | some l =>
    by_cases same : k = j
    · simp [same, Lane.botType, keeps]
    · simp [same]

/-- An intake accepts the next input of its mailbox. -/
theorem stepsTo_accept (h : r.IsOrderly) (hl : r.lanes[k]? = some l) (free : l.intake.held = 0)
    (busy : l.intake ≠ .waiting) (i : Input) (mail : List Input) (m : Move) :
    r.StepsTo m ((r.setLane k fun l => { l with mailbox := mail }).accept k i) := by
  obtain ⟨rest, before, after⟩ := exists_works_eq hl
  rw [free, zero_add] at before
  have bound : k < r.lanes.length := (List.getElem?_eq_some_iff.mp hl).1
  have bot : (r.setLane k fun l => { l with mailbox := mail }).botTypeOf k = r.botTypeOf k :=
    botTypeOf_setLane r k k fun _ => rfl
  have cores : (r.setLane k fun l => { l with mailbox := mail }).lanes.map Lane.core =
      r.lanes.map Lane.core := map_lanes_setLane _ fun _ _ => rfl
  -- A job of an input in the intake's hands joins the jobs on their way.
  have hold : ∀ (job : Job κ) (s : Runner κ), Work.ofLane { job } = true →
      s.lanes = (r.setLane k fun l => { l with mailbox := mail, intake := .holding job }).lanes →
      s.pool = r.pool → s.IsOrderly ∧ s.works = { job } ::ₘ r.works := by
    intro job s own lanes pool
    refine ⟨?_, ?_⟩
    · refine h.setIntake hl lanes (pool ▸ h.pool) ?_ ?_
      · rw [pool]
        exact fun e he => .inl ⟨he, h.absent hl busy e he⟩
      · rintro _ ⟨⟩
        exact own
    · have held : (Intake.holding job).held = {{ job }} := pick_of_own own
      rw [after s _ lanes, pool, before]
      dsimp only
      rw [held, ← Multiset.singleton_add]
      abel
  cases kind : i.kind with
  | abort =>
    obtain ⟨metrics, accepted⟩ :=
      accept_abort (r.setLane k fun l => { l with mailbox := mail }) k kind
    rw [accepted, bot]
    refine ⟨h.of_pool cores h.pool fun _ => .inl, _, rfl, .abort k i kind ?_ rfl⟩
    exact congrArg (· + _) (heldWorks_of_cores cores)
  | help =>
    obtain ⟨lanes, pool, conversations, trace⟩ :=
      accept_job (r.setLane k fun l => { l with mailbox := mail }) k (.inl ⟨kind, rfl, rfl⟩)
    have same : (r.setLane k fun l => { l with mailbox := mail }).helpJob k i = r.helpJob k i := by
      rw [helpJob, helpJob, bot]
      rfl
    rw [same] at lanes
    obtain ⟨orderly, works⟩ :=
      hold (r.helpJob k i) _ rfl (lanes.trans (List.modify_modify_eq ..)) pool
    exact ⟨orderly, _, trace, bot ▸ .help k i kind bound works conversations⟩
  | message =>
    obtain ⟨lanes, pool, conversations, trace⟩ :=
      accept_job (r.setLane k fun l => { l with mailbox := mail }) k (.inr ⟨kind, rfl, rfl⟩)
    obtain ⟨orderly, works⟩ := hold (.converse k i (r.conversations.take r.now i.sender).1) _ rfl
      (lanes.trans (List.modify_modify_eq ..)) pool
    exact ⟨orderly, _, trace, bot ▸ .message k i kind bound works conversations⟩

/-- What an intake does. -/
theorem stepsTo_intakeStep (h : r.IsOrderly) (k : Nat) (m : Move) :
    r.StepsTo m (r.intakeStep k) := by
  unfold intakeStep
  split
  · exact stepsTo_refl h m
  · next l hl =>
    split
    · exact stepsTo_refl h m
    · next job holding => exact stepsTo_offer h hl holding m
    · next waits => exact stepsTo_enter h hl waits m
    · next listening =>
      have busy : l.intake ≠ .waiting := by simp [listening]
      have free : l.intake.held = 0 := by
        rw [listening]
        rfl
      split
      · exact stepsTo_endIntake h hl m busy (.inr free)
      · split
        · exact stepsTo_refl h m
        · next i rest _ => exact stepsTo_accept h hl free busy i rest m

end Intakes

/-! ## Moves -/

theorem IsStill.stepsTo {m : Move} (h : r.IsOrderly) (still : r.IsStill r' es) : r.StepsTo m r' :=
  ⟨still.orderly h, es, still.trace, still.effect m⟩

theorem IsTaskWork.stepsTo {m : Move} (h : r.IsOrderly) (work : r.IsTaskWork r' es) :
    r.StepsTo m r' :=
  ⟨work.orderly h, es, work.trace, work.effect m⟩

theorem stepsTo_update {m : Move} (h : r.IsOrderly) (trace : r'.trace = r.trace)
    (pool : r'.pool = r.pool) (lanes : r'.lanes = r.lanes)
    (conversations : r'.conversations = r.conversations) : r.StepsTo m r' :=
  ((IsStill.refl r).update trace pool lanes conversations).stepsTo h

theorem stepsTo_setLane {m : Move} {k : Nat} {f : Lane κ → Lane κ} (h : r.IsOrderly)
    (keeps : ∀ l, (f l).core = l.core) : r.StepsTo m (r.setLane k f) :=
  ((IsStill.refl r).setLane k keeps).stepsTo h

/-- What actors do. -/
theorem stepsTo_step (h : r.IsOrderly) (fit : r.IsFit) (a : Actor) :
    r.StepsTo (.act a) (step a r) := by
  cases a with
  | course => exact (isStill_courseStep r).stepsTo h
  | supervisor k =>
    obtain ⟨es, still⟩ := exists_isStill_supervisorStep r k
    exact still.stepsTo h
  | runLoop k => exact stepsTo_setLane h fun l => core_runStep l _
  | intake k => exact stepsTo_intakeStep h k _
  | errorLoop k =>
    obtain ⟨es, still⟩ := exists_isStill_errorStep r k
    exact still.stepsTo h
  | worker n => exact effect_workerStep h fit n
  | timer n =>
    obtain ⟨es, work⟩ := exists_isTaskWork_timerStep h n
    exact work.stepsTo h
  | watcher => exact (isStill_watch r).stepsTo h
  | planner =>
    show r.StepsTo _ r.plannerStep
    unfold plannerStep
    split
    · exact stepsTo_refl h _
    · exact stepsTo_update h rfl rfl rfl rfl
  | sweeper =>
    exact ⟨h.of_pool rfl h.pool fun _ => .inl, [], (List.append_nil _).symm, .sweep rfl rfl⟩
  | timerExit n => exact stepsTo_update h rfl rfl rfl rfl
  | plannerExit => exact stepsTo_update h rfl rfl rfl rfl
  | sweeperExit => exact stepsTo_update h rfl rfl rfl rfl
  | gaugeExit => exact stepsTo_update h rfl rfl rfl rfl
  | gauge => exact stepsTo_update h rfl rfl rfl rfl

/-- What moves do. -/
theorem move_spec (h : r.IsOrderly) (fit : r.IsFit) (m : Move) : r.StepsTo m (r.move m) := by
  cases m with
  | act a =>
    unfold move
    dsimp only
    split
    · exact stepsTo_step h fit a
    · exact stepsTo_refl h _
  | pass ms => exact stepsTo_update h rfl rfl rfl rfl
  | tell k i =>
    refine stepsTo_setLane h fun l => ?_
    unfold Lane.tell
    split <;> rfl
  | raise k e =>
    refine stepsTo_setLane h fun l => ?_
    unfold Lane.tellError
    split <;> rfl
  | hangUp k => exact stepsTo_setLane h fun _ => rfl
  | edit files => exact stepsTo_update h rfl rfl rfl rfl
  | report x => exact stepsTo_update h rfl rfl rfl rfl
  | cancel =>
    have still : r.IsStill r.cancel [] := ⟨(List.append_nil _).symm, by simp, rfl, rfl, rfl⟩
    exact still.stepsTo h

end Still

/-! ## Schedules -/

section Schedules

variable {r' : Runner κ} {m : Move} {es : List (Happening κ)}

theorem Labour.isFit {v : Work κ} {conversations : Conversations κ}
    (h : Labour r w (some v) conversations es) (fit : w.IsFit) : v.IsFit := by
  cases h with
  | send job o rest => cases job <;> trivial
  | _ => trivial

theorem Effect.isFit (h : r.Effect m r' es) (later : r.IsLater r') (fit : r.IsFit) :
    r'.IsFit := by
  intro v hv
  rw [later.length]
  cases h with
  | quiet _ works => exact fit v (works ▸ hv)
  | drop _ works => exact fit v (Multiset.mem_of_le works hv)
  | sweep works => exact fit v (works ▸ hv)
  | abort _ _ _ works => exact fit v (works ▸ hv)
  | help k i _ lane works =>
    rw [works] at hv
    rcases Multiset.mem_cons.mp hv with rfl | old
    · exact ⟨trivial, lane⟩
    · exact fit v old
  | message k i _ lane works =>
    rw [works] at hv
    rcases Multiset.mem_cons.mp hv with rfl | old
    · exact ⟨trivial, lane⟩
    · exact fit v old
  | @labour _ n w next conversations es rest hands done before after =>
    rw [IsFit, before, Multiset.forall_mem_cons] at fit
    rw [after] at hv
    rcases Multiset.mem_add.mp hv with new | old
    · cases next with
      | none => cases new
      | some u =>
        obtain rfl := Multiset.mem_singleton.mp new
        exact ⟨done.isFit fit.1.1, done.job_eq ▸ fit.1.2⟩
    · exact fit.2 v old

end Schedules

end Runner

namespace RunnerPlan

variable {κ : Type}

/-- What a start leaves: nothing is on its way, nothing is stored, and no input has come. -/
theorem start_spec (p : RunnerPlan κ) :
    (p.start.lanes = p.bots.map Lane.ofBot ∨ p.start.lanes = []) ∧
      p.start.pool = .ofSize p.settings.worker.workers p.settings.worker.queueSize ∧
      p.start.conversations =
        { lifetime := p.settings.conversation.ttlSeconds * 1000
          limit := p.settings.conversation.maxEntries } ∧
      p.start.language = p.language ∧ ∀ e ∈ p.start.trace, e.isTalk = false := by
  unfold start
  split
  · exact ⟨.inr rfl, rfl, rfl, rfl, by simp [runner]⟩
  · dsimp only
    split
    · refine ⟨.inl rfl, rfl, rfl, rfl, ?_⟩
      intro e he
      obtain ⟨x, -, rfl⟩ := List.mem_map.mp he
      rfl
    · refine ⟨.inr rfl, rfl, rfl, rfl, ?_⟩
      intro e he
      obtain ⟨x, -, rfl⟩ := List.mem_map.mp he
      rfl

theorem intake_start (p : RunnerPlan κ) : ∀ l ∈ p.start.lanes, l.intake = .listening := by
  intro l hl
  rcases p.start_spec.1 with lanes | lanes
  · rw [lanes] at hl
    obtain ⟨bot, -, rfl⟩ := List.mem_map.mp hl
    rfl
  · rw [lanes] at hl
    cases hl

theorem works_start (p : RunnerPlan κ) : p.start.works = 0 := by
  have held : p.start.heldWorks = 0 := by
    refine List.sum_eq_zero fun x hx => ?_
    obtain ⟨l, hl, rfl⟩ := List.mem_map.mp hx
    rw [p.intake_start l hl]
    rfl
  rw [Runner.works, held, p.start_spec.2.1]
  rfl

theorem isOrderly_start (p : RunnerPlan κ) : p.start.IsOrderly := by
  have pool := p.start_spec.2.1
  refine ⟨?_, ?_, ?_, ?_⟩
  · rw [pool]
    refine ⟨?_, List.nodup_nil⟩
    simpa [Pool.ofSize] using List.nodup_range
  · intro e he
    rw [pool] at he
    cases he
  · intro e he
    rw [pool] at he
    cases he
  · intro l hl job holding
    rw [p.intake_start l hl] at holding
    cases holding

variable (p : RunnerPlan κ) (schedule : Nat → Runner.Move)

theorem isOrderly_after (n : Nat) :
    (p.start.after schedule n).IsOrderly ∧ (p.start.after schedule n).IsFit := by
  induction n with
  | zero =>
    refine ⟨p.isOrderly_start, ?_⟩
    show p.start.IsFit
    rw [Runner.IsFit, p.works_start]
    exact fun w hw => absurd hw (Multiset.notMem_zero w)
  | succ n ih =>
    obtain ⟨orderly, es, -, effect⟩ := Runner.move_spec ih.1 ih.2 (schedule n)
    exact ⟨orderly, effect.isFit (Runner.isLater_move _ _) ih.2⟩

/-- What the moves of a run do. -/
theorem effect_after (n : Nat) :
    (p.start.after schedule (n + 1)).trace =
        (p.start.after schedule n).trace ++ p.start.happens schedule n ∧
      (p.start.after schedule n).Effect (schedule n) (p.start.after schedule (n + 1))
        (p.start.happens schedule n) := by
  obtain ⟨orderly, fit⟩ := p.isOrderly_after schedule n
  obtain ⟨-, es, trace, effect⟩ := Runner.move_spec orderly fit (schedule n)
  have happens : p.start.happens schedule n = es := by
    show ((p.start.after schedule n).move (schedule n)).trace.drop _ = es
    rw [trace, List.drop_left]
  rw [happens]
  exact ⟨trace, effect⟩

end RunnerPlan

end Switchboard
