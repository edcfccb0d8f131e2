import Switchboard.Proofs.Backgrounds
import Switchboard.Proofs.Calls

/-!
# Timers that wait at the pool

A timer that has fired waits with the job of its task if the queue is full, and does nothing else
until the pool has answered: it neither fires again nor leaves. So each timer waits with one job
at most (`Runner.IsServed`), and in a pool that is open no job of a task is lost on its way:
`Runner.taskWorks` only grows by a firing, and shrinks when a worker has finished.
-/

namespace Switchboard

namespace Timers

variable {s t : Timers} {n k : Nat} {timer : Timer}

/-- Whether a timer has fired and the firing is being dealt with. -/
def isFiring (s : Timers) (n : Nat) : Bool := (s.timer? n).any Timer.isFiring

theorem isFiring_of_timer? (h : s.timer? n = some timer) : s.isFiring n = timer.isFiring := by
  rw [isFiring, h, Option.any_some]

theorem timer?_map {g : Timer → Timer} (timers : t.timers = s.timers.map g)
    (number : ∀ x, (g x).number = x.number) : t.timer? n = (s.timer? n).map g := by
  rw [timer?, timers, List.find?_map]
  simp only [Function.comp_def, number]
  rfl

/-- Changes that let a timer be, or have it fire, leave a firing to be dealt with. -/
theorem isFiring_map {g : Timer → Timer} (timers : t.timers = s.timers.map g)
    (number : ∀ x, (g x).number = x.number)
    (keeps : ∀ x, x.number = n → x.isFiring = true → (g x).isFiring = true)
    (firing : s.isFiring n = true) : t.isFiring n = true := by
  rw [isFiring, Option.any_eq_true] at firing ⊢
  obtain ⟨x, found, fires⟩ := firing
  exact ⟨g x, by rw [timer?_map timers number, found]; rfl,
    keeps x (number_of_timer? found) fires⟩

theorem isFiring_fire (now : Nat) (firing : s.isFiring k = true) :
    (s.update n fun x => x.fire now).isFiring k = true := by
  refine isFiring_map rfl (fun x => ?_) (fun x _ fires => ?_) firing
  · split <;> rfl
  · split
    · rfl
    · exact fires

theorem isFiring_fire_self (now : Nat) (found : s.timer? n = some timer) :
    (s.update n fun x => x.fire now).isFiring n = true := by
  have number : ∀ x : Timer, (if x.number = n then x.fire now else x).number = x.number := by
    intro x
    split <;> rfl
  rw [isFiring, timer?_map rfl number, found, Option.map_some, Option.any_some,
    if_pos (number_of_timer? found)]
  rfl

theorem isFiring_rearm (now : Nat) (clock : Timestamp) (other : k ≠ n)
    (firing : s.isFiring k = true) :
    (s.update n fun x => x.rearm now clock).isFiring k = true := by
  refine isFiring_map rfl (fun x => ?_) (fun x same fires => ?_) firing
  · split <;> rfl
  · rwa [if_neg (same ▸ other)]

theorem isFiring_cancel (key : TaskKey) (firing : s.isFiring k = true) :
    (s.cancel key).isFiring k = true := by
  refine isFiring_map rfl (fun x => ?_) (fun x _ fires => ?_) firing
  · split <;> rfl
  · split
    · exact fires
    · exact fires

theorem isFiring_schedule (task : ScheduledTask) (now : Nat) (clock : Timestamp)
    (firing : s.isFiring k = true) : (s.schedule task now clock).isFiring k = true := by
  have kept := isFiring_cancel task.key firing
  rw [isFiring, Option.any_eq_true] at kept ⊢
  obtain ⟨x, found, fires⟩ := kept
  refine ⟨x, ?_, fires⟩
  rw [timer?, schedule, List.find?_append]
  rw [timer?] at found
  rw [found, Option.some_or]

theorem isFiring_close (firing : s.isFiring k = true) : s.close.isFiring k = true :=
  isFiring_map rfl (fun _ => rfl) (fun _ _ fires => fires) firing

theorem isFiring_shutdown (firing : s.isFiring k = true) : s.shutdown.isFiring k = true :=
  isFiring_map rfl (fun _ => rfl) (fun _ _ fires => fires) firing

/-- A timer that can leave has no firing to be dealt with, and the others stay. -/
theorem isFiring_leave (able : (s.timer? n).any Timer.canLeave = true)
    (firing : s.isFiring k = true) : (s.leave n).isFiring k = true := by
  have other : k ≠ n := by
    rintro rfl
    obtain ⟨x, found, leaves⟩ := (Option.any_eq_true ..).mp able
    rw [isFiring_of_timer? found] at firing
    simp [Timer.canLeave, firing] at leaves
  have same : (s.leave n).timer? k = s.timer? k := by
    rw [timer?, leave, List.find?_filter, timer?]
    refine List.find?_congr fun x _ => ?_
    by_cases here : x.number = k
    · simp [here, other]
    · simp [here]
  rw [isFiring, same]
  exact firing

end Timers

/-- Whether a job is one of a task. -/
def Work.ofTask {κ : Type} (w : Work κ) : Bool := !w.ofLane

namespace Runner

variable {κ : Type} {r r' : Runner κ} {n k : Nat} {w : Work κ} {m : Move}

/-- The jobs of tasks on their way. -/
def taskWorks (r : Runner κ) : Multiset (Work κ) := r.pool.jobs Work.ofTask

/-- The timers that wait at the pool, with the jobs of their tasks. -/
def waitingTasks (r : Runner κ) : List (Nat × Work κ) := r.pool.waiting.filter fun e => e.2.ofTask

/-- Who waits with the job of a task is a timer that fires, with one job. -/
structure IsServed (r : Runner κ) : Prop where
  producers : (r.waitingTasks.map Prod.fst).Nodup
  firing : ∀ e ∈ r.waitingTasks, ∃ n, e.1 = timerProducer n ∧ r.timers.isFiring n = true

theorem timerProducer_inj {j k : Nat} (h : timerProducer j = timerProducer k) : j = k := by
  unfold timerProducer at h
  omega

/-- Nobody but a timer ends its own firing. -/
theorem isFiring_move (r : Runner κ) (other : ∀ n, m ≠ .act (.timer n))
    (firing : r.timers.isFiring k = true) : (r.move m).timers.isFiring k = true := by
  show (r.move m).background.timers.isFiring k = true
  have h := r.backgroundMove_move m
  generalize (r.move m).background = b at h
  cases h with
  | @ticks n => exact absurd rfl (other n)
  | leaves n able => exact Timers.isFiring_leave able firing
  | plans t => exact Timers.isFiring_schedule t _ _ firing
  | cancels => exact Timers.isFiring_close firing
  | goesOn =>
    show r.courseStep.timers.isFiring k = true
    unfold courseStep
    split
    all_goals first
      | exact firing
      | exact Timers.isFiring_shutdown firing
  | _ => exact firing

theorem IsServed.keep (served : r.IsServed) (waiting : r'.waitingTasks = r.waitingTasks)
    (firing : ∀ n, r.timers.isFiring n = true → r'.timers.isFiring n = true) : r'.IsServed := by
  refine ⟨waiting ▸ served.producers, fun e he => ?_⟩
  obtain ⟨n, producer, fires⟩ := served.firing e (waiting ▸ he)
  exact ⟨n, producer, firing n fires⟩

/-! ## Those who have nothing to do with tasks -/

/-- The jobs of tasks are the same, and the same timers wait with them. -/
structure KeepsTasks (r r' : Runner κ) : Prop where
  works : r'.taskWorks = r.taskWorks
  waiting : r'.waitingTasks = r.waitingTasks

namespace KeepsTasks

theorem of_pool (pool : r'.pool = { r.pool with closed := r'.pool.closed }) : r.KeepsTasks r' :=
  ⟨by rw [taskWorks, pool]; rfl, by rw [waitingTasks, pool]; rfl⟩

theorem of_jobs (jobs : r'.taskWorks = r.taskWorks) (waiting : r'.pool.waiting = r.pool.waiting) :
    r.KeepsTasks r' :=
  ⟨jobs, by rw [waitingTasks, waiting, waitingTasks]⟩

end KeepsTasks

/-- The job of an input joins the queue. -/
theorem keepsTasks_push (own : w.ofLane = true) (pool : r'.pool = r.pool.push w) :
    r.KeepsTasks r' := by
  refine .of_jobs ?_ (by rw [pool]; rfl)
  have other : w.ofTask = false := by simp [Work.ofTask, own]
  rw [taskWorks, pool, Pool.jobs_push, pick_of_not_own other, zero_add, taskWorks]

theorem keepsTasks_keepWaiting (own : w.ofLane = true) (producer : Nat)
    (pool : r'.pool = r.pool.keepWaiting producer w) : r.KeepsTasks r' := by
  have other : w.ofTask = false := by simp [Work.ofTask, own]
  constructor
  · rw [taskWorks, pool, Pool.jobs_keepWaiting, pick_of_not_own other, zero_add, taskWorks]
  · rw [waitingTasks, pool, Pool.keepWaiting, List.filter_append,
      List.filter_cons_of_neg (by simp [other]), List.filter_nil, List.append_nil, waitingTasks]

/-- An intake does not wait any more. -/
theorem keepsTasks_withdraw (orderly : r.IsOrderly) (k : Nat)
    (pool : r'.pool = r.pool.withdraw (intakeProducer k)) : r.KeepsTasks r' := by
  have other : ∀ e ∈ r.pool.waiting, e.1 = intakeProducer k → e.2.ofTask = false := by
    intro e he producer
    simp [Work.ofTask, orderly.ofLane_of_intake e he producer]
  constructor
  · rw [taskWorks, pool, Pool.jobs_withdraw_other _ other, taskWorks]
  · rw [waitingTasks, pool, Pool.withdraw, List.filter_filter, waitingTasks]
    refine List.filter_congr fun e he => ?_
    by_cases producer : e.1 = intakeProducer k
    · simp [producer, other e he producer]
    · simp [producer]

theorem KeepsTasks.trans {r'' : Runner κ} (h : r.KeepsTasks r') (h' : r'.KeepsTasks r'') :
    r.KeepsTasks r'' :=
  ⟨h'.works.trans h.works, h'.waiting.trans h.waiting⟩

theorem keepsTasks_accept (r : Runner κ) (k : Nat) (i : Input) : r.KeepsTasks (r.accept k i) := by
  refine .of_pool ?_
  unfold accept
  dsimp only
  split <;> rfl

theorem keepsTasks_intakeStep (orderly : r.IsOrderly) (k : Nat) :
    r.KeepsTasks (r.intakeStep k) := by
  have refl : r.KeepsTasks r := ⟨rfl, rfl⟩
  unfold intakeStep
  split
  · exact refl
  · next l hl =>
    split
    · exact refl
    · next job holding =>
      have own : Work.ofLane { job } = true := orderly.held l (List.mem_of_getElem? hl) job holding
      unfold offer
      split
      · exact .of_pool rfl
      · split
        · exact keepsTasks_push own rfl
        · exact keepsTasks_keepWaiting own (intakeProducer k) rfl
    · unfold enter
      dsimp only
      split
      · exact keepsTasks_withdraw orderly k rfl
      · split
        · exact refl
        · next work admitted =>
          obtain ⟨e, found, rfl⟩ := Option.map_eq_some_iff.mp admitted
          have own : e.2.ofLane = true :=
            orderly.ofLane_of_intake e (List.mem_of_mem_take (List.mem_of_find?_eq_some found))
              (by simpa using List.find?_some found)
          have withdrawn : r.KeepsTasks { r with pool := r.pool.withdraw (intakeProducer k) } :=
            keepsTasks_withdraw orderly k rfl
          exact withdrawn.trans (keepsTasks_push own rfl)
    · split
      · exact .of_pool rfl
      · split
        · exact refl
        · next i rest _ =>
          have read : r.KeepsTasks (r.setLane k fun l => { l with mailbox := rest }) := .of_pool rfl
          exact read.trans (keepsTasks_accept ..)

/-- Only workers and timers have to do with the jobs of tasks. -/
theorem keepsTasks_move (orderly : r.IsOrderly) (worker : ∀ n, m ≠ .act (.worker n))
    (timer : ∀ n, m ≠ .act (.timer n)) : r.KeepsTasks (r.move m) := by
  have still : ∀ {r' : Runner κ} {es : List (Happening κ)}, r.IsStill r' es → r.KeepsTasks r' :=
    fun h => .of_pool h.pool
  cases m with
  | act a =>
    simp only [move]
    split
    · cases a with
      | worker n => exact absurd rfl (worker n)
      | timer n => exact absurd rfl (timer n)
      | intake k => exact keepsTasks_intakeStep orderly k
      | errorLoop k =>
        obtain ⟨es, h⟩ := exists_isStill_errorStep r k
        exact still h
      | supervisor k =>
        obtain ⟨es, h⟩ := exists_isStill_supervisorStep r k
        exact still h
      | course => exact still (isStill_courseStep r)
      | planner =>
        show r.KeepsTasks r.plannerStep
        unfold plannerStep
        split <;> exact .of_pool rfl
      | _ => exact .of_pool rfl
    · exact .of_pool rfl
  | _ => exact .of_pool rfl

/-! ## Timers -/

/-- What a timer's step has to do with the jobs of tasks. -/
inductive TimerMove (r r' : Runner κ) : Prop
  | keeps (works : r'.taskWorks = r.taskWorks) (metrics : r'.metrics = r.metrics)
  | fires (k : Nat) (t : ScheduledTask)
    (works : r'.taskWorks = { job := .perform k t } ::ₘ r.taskWorks)
    (metrics : r'.metrics = r.metrics.increment firingCounter 1 [("task", t.identifier)])

/-- A timer that does not fire does not wait. -/
theorem IsServed.absent (served : r.IsServed) (idle : r.timers.isFiring n = false) :
    ∀ e ∈ r.waitingTasks, e.1 ≠ timerProducer n := by
  intro e he same
  obtain ⟨k, producer, fires⟩ := served.firing e he
  rw [timerProducer_inj (producer.symm.trans same), idle] at fires
  cases fires

/-- The pool without the timer that does not wait any more. -/
theorem IsServed.rearm (served : r.IsServed) (now : Nat) (clock : Timestamp)
    (waiting : r'.waitingTasks = r.waitingTasks.filter fun e => e.1 ≠ timerProducer n)
    (timers : r'.timers = r.timers.update n fun x => x.rearm now clock) : r'.IsServed := by
  refine ⟨waiting ▸ served.producers.sublist (List.filter_sublist.map _), fun e he => ?_⟩
  obtain ⟨present, apart⟩ := List.mem_filter.mp (waiting ▸ he)
  obtain ⟨k, producer, fires⟩ := served.firing e present
  refine ⟨k, producer, ?_⟩
  rw [timers]
  refine Timers.isFiring_rearm now clock ?_ fires
  rintro rfl
  simp [producer] at apart

theorem IsServed.isOrderly (served : r.IsServed) (orderly : r.IsOrderly) :
    r.pool.IsOrderly Work.ofTask :=
  ⟨orderly.pool.workers, served.producers⟩

/-- The job with which a timer waits joins the queue. -/
theorem timerMove_admitted (orderly : r.IsOrderly) (served : r.IsServed)
    (admitted : r.pool.admitted? (timerProducer n) = some w)
    (pool : r'.pool = (r.pool.withdraw (timerProducer n)).push w) :
    r'.taskWorks = r.taskWorks ∧
      r'.waitingTasks = r.waitingTasks.filter fun e => e.1 ≠ timerProducer n := by
  have mine : ∀ e ∈ r.pool.waiting, e.1 = timerProducer n → e.2.ofTask = true := by
    intro e he producer
    simp [Work.ofTask, orderly.task_of_timer e he producer]
  have task : w.ofTask = true := by
    obtain ⟨e, found, rfl⟩ := Option.map_eq_some_iff.mp admitted
    exact mine e (List.mem_of_mem_take (List.mem_of_find?_eq_some found))
      (by simpa using List.find?_some found)
  constructor
  · rw [taskWorks, pool, Pool.jobs_push, pick_of_own task, Multiset.singleton_add, taskWorks,
      Pool.jobs_admitted (served.isOrderly orderly) mine admitted]
  · rw [waitingTasks, pool, waitingTasks, List.filter_filter]
    show (r.pool.waiting.filter fun e => e.1 ≠ timerProducer n).filter _ = _
    rw [List.filter_filter]
    exact List.filter_congr fun e _ => Bool.and_comm ..

/-- A timer that fires joins those who wait. -/
theorem IsServed.keepWaiting (served : r.IsServed) (task : w.ofTask = true)
    (absent : ∀ e ∈ r.waitingTasks, e.1 ≠ timerProducer n)
    (pool : r'.pool = r.pool.keepWaiting (timerProducer n) w)
    (firing : ∀ k, r.timers.isFiring k = true → r'.timers.isFiring k = true)
    (fires : r'.timers.isFiring n = true) : r'.IsServed := by
  have waiting : r'.waitingTasks = r.waitingTasks ++ [(timerProducer n, w)] := by
    rw [waitingTasks, pool, Pool.keepWaiting, List.filter_append,
      List.filter_cons_of_pos (by simp [task]), List.filter_nil, waitingTasks]
  constructor
  · rw [waiting, List.map_append, List.nodup_append]
    refine ⟨served.producers, List.nodup_singleton _, ?_⟩
    intro a ha b hb
    obtain ⟨e, he, rfl⟩ := List.mem_map.mp ha
    rw [List.mem_singleton.mp hb]
    exact absent e he
  · intro e he
    rcases List.mem_append.mp (waiting ▸ he) with old | new
    · obtain ⟨k, producer, was⟩ := served.firing e old
      exact ⟨k, producer, firing k was⟩
    · rw [List.mem_singleton.mp new]
      exact ⟨n, rfl, fires⟩

/-- A timer that fires puts the job of its task on its way, if there is a bot for it. -/
theorem timerMove_fire (served : r.IsServed) (isOpen : r.pool.closed = false) {t : Timer}
    (found : r.timers.timer? n = some t) (idle : t.isFiring = false) :
    (r.fire n t).IsServed ∧ r.TimerMove (r.fire n t) := by
  have absent := served.absent ((Timers.isFiring_of_timer? found).trans idle)
  -- After the firing has been dealt with, the timer waits no more than before.
  have rearmed : ∀ r' : Runner κ, r'.waitingTasks = r.waitingTasks →
      r'.timers = (r.timers.update n fun x => x.fire r.now).update n
        (fun x => x.rearm r.now r.clock) → r'.IsServed := by
    intro r' waiting timers
    have fired :
        ({ r with timers := r.timers.update n fun x => x.fire r.now } : Runner κ).IsServed :=
      served.keep rfl fun _ => Timers.isFiring_fire r.now
    refine fired.rearm r.now r.clock (waiting.trans ?_) timers
    refine (List.filter_eq_self.mpr fun e he => ?_).symm
    simpa using absent e he
  unfold fire
  dsimp only
  split
  · exact ⟨rearmed _ rfl rfl, .keeps rfl rfl⟩
  · next k _ =>
    have task : Work.ofTask ({ job := .perform k t.task } : Work κ) = true := rfl
    split
    · next closed => exact absurd (isOpen.symm.trans closed) Bool.false_ne_true
    · split
      · refine ⟨rearmed _ rfl rfl, .fires k t.task ?_ rfl⟩
        refine (Pool.jobs_push _ _).trans ?_
        rw [pick_of_own task, Multiset.singleton_add]
        rfl
      · refine ⟨?_, .fires k t.task ?_ rfl⟩
        · exact served.keepWaiting task absent rfl (fun _ => Timers.isFiring_fire r.now)
            (Timers.isFiring_fire_self r.now found)
        · refine (Pool.jobs_keepWaiting _ _ _).trans ?_
          rw [pick_of_own task, Multiset.singleton_add]
          rfl

/-- What a timer's step does. -/
theorem timerMove_timerStep (orderly : r.IsOrderly) (served : r.IsServed)
    (isOpen : r.pool.closed = false) (n : Nat) :
    (r.timerStep n).IsServed ∧ r.TimerMove (r.timerStep n) := by
  unfold timerStep
  split
  · exact ⟨served, .keeps rfl rfl⟩
  · next t found =>
    split
    · dsimp only
      split
      · next closed => exact absurd (isOpen.symm.trans closed) Bool.false_ne_true
      · split
        · exact ⟨served, .keeps rfl rfl⟩
        · next work admitted =>
          exact ⟨served.rearm r.now r.clock (timerMove_admitted orderly served admitted rfl).2 rfl,
            .keeps (timerMove_admitted orderly served admitted rfl).1 rfl⟩
    · next idle => exact timerMove_fire served isOpen found (Bool.eq_false_iff.mpr idle)

/-! ## Moves -/

/-- In an open pool every move leaves it to timers that fire to wait, each with one job. -/
theorem IsServed.move (served : r.IsServed) (orderly : r.IsOrderly) (fit : r.IsFit)
    (isOpen : r.pool.closed = false) (m : Move) : (r.move m).IsServed := by
  by_cases timer : ∃ n, m = .act (.timer n)
  · obtain ⟨n, rfl⟩ := timer
    simp only [Runner.move]
    split
    · exact (timerMove_timerStep orderly served isOpen n).1
    · exact served
  · have firing : ∀ n, r.timers.isFiring n = true → (r.move m).timers.isFiring n = true :=
      fun _ => isFiring_move r (not_exists.mp timer)
    refine served.keep ?_ firing
    by_cases worker : ∃ n, m = .act (.worker n)
    · obtain ⟨n, rfl⟩ := worker
      simp only [Runner.move]
      split
      · show (r.workerStep n).waitingTasks = r.waitingTasks
        rw [waitingTasks, waiting_workerStep orderly fit n, waitingTasks]
      · rfl
    · exact (keepsTasks_move orderly (not_exists.mp worker) (not_exists.mp timer)).waiting

end Runner

end Switchboard
