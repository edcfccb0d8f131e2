import Switchboard.Proofs.Accounts
import Switchboard.Proofs.TaskLabours

/-!
# Moves and the jobs of tasks

All that a move has to do with the jobs of tasks is said by `Runner.TaskMove`: by a firing the job
of a task comes, unless there is no bot for it; a worker goes on with one; or there is nothing of
that kind, and no task is called. `taskMove_move` says so of every move, for runners whose pool is
open and in which each job of a task is at a stage of such a job and has the lane of its task's bot
type (`Runner.TasksAreFit`); every move keeps that.
-/

namespace Switchboard

/-- Whether a happening is the call of a task's executor, or of a bot that is to send an output of a
task. -/
def Happening.isTaskCall {κ : Type} : Happening κ → Bool
  | performed _ => true
  | sent _ none _ _ => true
  | _ => false

theorem Happening.isCall_of_isTaskCall {κ : Type} {e : Happening κ} (call : e.isTaskCall = true) :
    e.isCall = true := by
  cases e <;> first | rfl | cases call

namespace Runner

variable {κ : Type} {r r' : Runner κ} {m : Move} {n k : Nat} {t : ScheduledTask}
  {es : List (Happening κ)}

/-! ## Lanes -/

theorem laneOf?_of_bots (bots : r'.lanes.map Lane.bot = r.lanes.map Lane.bot) (b : BotType) :
    r'.laneOf? b = r.laneOf? b := by
  have of_bots : ∀ s : Runner κ, s.laneOf? b =
      (s.lanes.map Lane.bot).findIdx? fun bot => bot.botType = b := by
    intro s
    rw [laneOf?, List.findIdx?_map]
    rfl
  rw [of_bots, of_bots, bots]

theorem exists_lane_of_laneOf? {b : BotType} (h : r.laneOf? b = some k) :
    ∃ l, r.lanes[k]? = some l ∧ l.botType = b := by
  obtain ⟨bound, same, -⟩ := List.findIdx?_eq_some_iff_getElem.mp h
  exact ⟨r.lanes[k], List.getElem?_eq_getElem bound, by simpa using same⟩

theorem laneOf?_eq_none_iff {b : BotType} :
    r.laneOf? b = none ↔ ∀ l ∈ r.lanes, l.botType ≠ b := by
  simp [laneOf?, List.findIdx?_eq_none_iff]

/-! ## Jobs of tasks -/

/-- Each job of a task is at a stage of such a job, and in the lane of the task's bot type. -/
def TasksAreFit (r : Runner κ) : Prop :=
  ∀ v ∈ r.taskWorks, ∃ k t s, v = ⟨.perform k t, s⟩ ∧ r.laneOf? t.botType = some k ∧
    s.ofTask = true

/-- The task of the timer that fires by a move. -/
def firing? (r : Runner κ) : Move → Option ScheduledTask
  | .act (.timer n) => ((r.timers.timer? n).filter fun t => t.canFire r.now).map Timer.task
  | _ => none

/-- What a move has to do with the jobs of tasks, and what happens by it. -/
inductive TaskMove (r : Runner κ) (m : Move) (r' : Runner κ) (es : List (Happening κ)) : Prop
  /-- No job comes, no worker goes on with one, and no task is called. -/
  | aside (works : r'.taskWorks = r.taskWorks) (silent : ∀ e ∈ es, e.isTaskCall = false)
    (hands : ∀ w k t s, m = .act (.worker w) → r.workerIsAble w = true →
      r.pool.job? w ≠ some ⟨.perform k t, s⟩)
    (unserved : ∀ t, r.firing? m = some t →
      r.laneOf? t.botType = none ∧ es = [.fired t.key, .noted .taskWithoutBot])
  /-- A timer fires, and the job of its task comes. -/
  | comes (k : Nat) (t : ScheduledTask) (firing : r.firing? m = some t)
    (lane : r.laneOf? t.botType = some k) (fired : es = [.fired t.key])
    (works : r'.taskWorks = ⟨.perform k t, .ready⟩ ::ₘ r.taskWorks)
  /-- A worker goes on with the job of a task. -/
  | labours (w k : Nat) (t : ScheduledTask) (s : Stage κ) (next : Option (Stage κ))
    (rest : Multiset (Work κ)) (acts : m = .act (.worker w))
    (hands : r.pool.job? w = some ⟨.perform k t, s⟩) (done : TaskLabour r k t s next es)
    (before : r.taskWorks = ⟨.perform k t, s⟩ ::ₘ rest)
    (after : r'.taskWorks = next.elim 0 (fun s => {⟨.perform k t, s⟩}) + rest)
    (pool : r'.pool = putDown r.pool w (next.map fun s => ⟨.perform k t, s⟩))

/-- What a move does to the jobs of tasks, and that it appends to the trace. -/
def MovesTasks (r : Runner κ) (m : Move) (r' : Runner κ) : Prop :=
  ∃ es, r'.trace = r.trace ++ es ∧ r.TaskMove m r' es

/-! ## Workers -/

theorem exists_sender? {job : Job κ} (own : job.isOfLane = true) : ∃ x, job.sender? = some x := by
  cases job with
  | perform => cases own
  | deliver k sender => exact ⟨sender, rfl⟩
  | converse k i => exact ⟨i.sender, rfl⟩

theorem Labour.isTaskCall_eq_false {w : Work κ} {next : Option (Work κ)}
    {conversations : Conversations κ} (h : Labour r w next conversations es)
    (own : w.ofLane = true) : ∀ e ∈ es, e.isTaskCall = false := by
  cases h with
  | respond k i l => cases outcome : l.bot.respond i <;> simp [panicOf, Happening.isTaskCall]
  | send job =>
    obtain ⟨x, sender⟩ := exists_sender? (show job.isOfLane = true from own)
    simp [sender, Happening.isTaskCall]
  | sendPanics job =>
    obtain ⟨x, sender⟩ := exists_sender? (show job.isOfLane = true from own)
    simp [sender, Happening.isTaskCall]
  | _ => simp [Happening.isTaskCall]

/-- The job of a task in a worker's hands. -/
theorem TasksAreFit.of_hands (fit : r.TasksAreFit) (orderly : r.IsOrderly) (served : r.IsServed)
    {v : Work κ} (hands : r.pool.job? n = some v) (task : v.ofTask = true) :
    ∃ k t s, v = ⟨.perform k t, s⟩ ∧ r.laneOf? t.botType = some k ∧ s.ofTask = true := by
  obtain ⟨rest, before, -⟩ := exists_jobs_putDown (served.isOrderly orderly) hands
  refine fit v ?_
  rw [taskWorks, before, pick_of_own task]
  simp

/-- A worker goes on with the job of a task. -/
theorem movesTasks_labour (orderly : r.IsOrderly) (served : r.IsServed) (fit : r.TasksAreFit)
    {v : Work κ} (hands : r.pool.job? n = some v) (task : v.ofTask = true) :
    r.MovesTasks (.act (.worker n)) (r.workerStep n) := by
  obtain ⟨k, t, s, rfl, lane, stage⟩ := fit.of_hands orderly served hands task
  obtain ⟨l, hl, -⟩ := exists_lane_of_laneOf? lane
  obtain ⟨next, es, done, trace, pool, -⟩ := carryOn_perform (n := n) (t := t) stage hl
  obtain ⟨rest, before, after⟩ := exists_jobs_putDown (served.isOrderly orderly) hands
  have step : r.workerStep n = r.carryOn n ⟨.perform k t, s⟩ := by simp only [workerStep, hands]
  rw [step]
  rw [pick_of_own task] at before
  refine ⟨es, trace, .labours n k t s next rest rfl hands done before ?_ pool⟩
  rw [taskWorks, pool, after]
  cases next with
  | none => rfl
  | some s' =>
    have task' : Work.ofTask (⟨.perform k t, s'⟩ : Work κ) = true := rfl
    exact congrArg (· + rest) (pick_of_own task')

/-- A worker goes on with the job of an input. -/
theorem movesTasks_other (orderly : r.IsOrderly) (fit : r.IsFit) (served : r.IsServed)
    {v : Work κ} (hands : r.pool.job? n = some v) (own : v.ofLane = true) :
    r.MovesTasks (.act (.worker n)) (r.workerStep n) := by
  obtain ⟨-, next, conversations, es, rest, trace, labour, -, -, -⟩ :=
    effect_labour orderly fit hands own
  refine ⟨es, trace, .aside ?_ (labour.isTaskCall_eq_false own) ?_ (by simp [firing?])⟩
  · have step : r.workerStep n = r.carryOn n v := by simp only [workerStep, hands]
    obtain ⟨next, pool, same⟩ := handles_carryOn r n v
    have other : ∀ u : Work κ, u.job = v.job → u.ofTask = false := fun u hu => by
      rw [Work.ofTask, Work.ofLane, hu, ← Work.ofLane, own]
      rfl
    rw [taskWorks, step, pool, jobs_putDown_other (served.isOrderly orderly) hands
      (other v rfl) fun u hu => other u (same u hu)]
    rfl
  · rintro w k t s ⟨⟩ - held
    rw [hands] at held
    cases held
    cases own

theorem movesTasks_workerStep (orderly : r.IsOrderly) (fit : r.IsFit) (served : r.IsServed)
    (tasks : r.TasksAreFit) (isOpen : r.pool.closed = false) (n : Nat) :
    r.MovesTasks (.act (.worker n)) (r.workerStep n) := by
  cases hands : r.pool.job? n with
  | some v =>
    cases own : v.ofLane with
    | true => exact movesTasks_other orderly fit served hands own
    | false => exact movesTasks_labour orderly served tasks hands (by simp [Work.ofTask, own])
  | none =>
    have stays : r.pool.canLeave n = false := by rw [Pool.canLeave, isOpen, Bool.false_and]
    have takes : r.workerStep n = { r with pool := r.pool.take n } := by
      simp only [workerStep, hands, stays]
      rfl
    rw [takes]
    refine ⟨[], (List.append_nil _).symm, .aside (r.pool.jobs_take n) (by simp) ?_
      (by simp [firing?])⟩
    rintro w k t s ⟨⟩ - held
    rw [hands] at held
    cases held

/-! ## Timers -/

theorem movesTasks_timerStep (orderly : r.IsOrderly) (served : r.IsServed)
    (isOpen : r.pool.closed = false) (able : r.timerIsAble n = true) :
    r.MovesTasks (.act (.timer n)) (r.timerStep n) := by
  have noWorker : ∀ w k t s, Move.act (.timer n) = .act (.worker w) → r.workerIsAble w = true →
      r.pool.job? w ≠ some (⟨.perform k t, s⟩ : Work κ) := by rintro w k t s ⟨⟩
  obtain ⟨timer, found, goesOn⟩ := (Option.any_eq_true ..).mp able
  unfold timerStep
  rw [found]
  dsimp only
  split
  · next firing =>
    -- A firing that is being dealt with is not another one.
    have none : ∀ t, r.firing? (.act (.timer n)) ≠ some t := by
      simp [firing?, found, Option.filter, Timer.canFire, firing]
    rw [if_neg (by simp [isOpen])]
    split
    · exact ⟨[], (List.append_nil _).symm,
        .aside rfl (by simp) noWorker fun t fires => absurd fires (none t)⟩
    · next work admitted =>
      exact ⟨[], (List.append_nil _).symm,
        .aside (timerMove_admitted orderly served admitted rfl).1 (by simp) noWorker
          fun t fires => absurd fires (none t)⟩
  · next idle =>
    rw [if_neg idle] at goesOn
    have firing : r.firing? (.act (.timer n)) = some timer.task := by
      simp [firing?, found, goesOn]
    unfold fire
    dsimp only
    split
    · next unserved =>
      refine ⟨[.fired timer.task.key, .noted .taskWithoutBot], ?_, .aside rfl ?_ noWorker ?_⟩
      · simp [rearm, note, emit]
      · simp [Happening.isTaskCall]
      · intro t fires
        rw [firing] at fires
        cases fires
        exact ⟨unserved, rfl⟩
    · next k lane =>
      have task : Work.ofTask ({ job := .perform k timer.task } : Work κ) = true := rfl
      rw [if_neg (by simp [isOpen, emit])]
      split
      · refine ⟨[.fired timer.task.key], rfl, .comes k timer.task firing lane rfl ?_⟩
        refine (Pool.jobs_push _ _).trans ?_
        rw [pick_of_own task, Multiset.singleton_add]
        rfl
      · refine ⟨[.fired timer.task.key], rfl, .comes k timer.task firing lane rfl ?_⟩
        refine (Pool.jobs_keepWaiting _ _ _).trans ?_
        rw [pick_of_own task, Multiset.singleton_add]
        rfl

/-! ## Moves -/

/-- All that a move has to do with the jobs of tasks. -/
theorem taskMove_move (orderly : r.IsOrderly) (fit : r.IsFit) (served : r.IsServed)
    (tasks : r.TasksAreFit) (isOpen : r.pool.closed = false) (m : Move) :
    r.MovesTasks m (r.move m) := by
  have still : ∀ m', (∀ t, r.firing? m' ≠ some t) →
      (∀ w, m' = .act (.worker w) → r.workerIsAble w = false) → r.MovesTasks m' r := by
    intro m' none unable
    refine ⟨[], (List.append_nil _).symm, .aside rfl (by simp) ?_
      fun t fires => absurd fires (none t)⟩
    intro w k t s acts able
    rw [unable w acts] at able
    cases able
  by_cases worker : ∃ n, m = .act (.worker n)
  · obtain ⟨n, rfl⟩ := worker
    simp only [move]
    split
    · exact movesTasks_workerStep orderly fit served tasks isOpen n
    · next unable =>
      refine still _ (by simp [firing?]) ?_
      rintro w ⟨⟩
      exact Bool.eq_false_iff.mpr unable
  · by_cases timer : ∃ n, m = .act (.timer n)
    · obtain ⟨n, rfl⟩ := timer
      simp only [move]
      split
      · next able => exact movesTasks_timerStep orderly served isOpen able
      · next unable =>
        refine still _ ?_ (by rintro w ⟨⟩)
        intro t fires
        refine unable ?_
        obtain ⟨timer, found, -⟩ := Option.map_eq_some_iff.mp fires
        obtain ⟨found, fits⟩ := Option.filter_eq_some_iff.mp found
        have idle : timer.isFiring = false := by
          simpa using (Bool.and_eq_true_iff.mp fits).1
        show r.timerIsAble n = true
        rw [timerIsAble, found, Option.any_some, idle]
        exact fits
    · have noTimer : ∀ n, m ≠ .act (.timer n) := not_exists.mp timer
      have none : ∀ t, r.firing? m ≠ some t := by
        intro t
        unfold firing?
        split
        · next n => exact absurd rfl (noTimer n)
        · simp
      obtain ⟨-, es, trace, -⟩ := move_spec orderly fit m
      refine ⟨es, trace, .aside (keepsTasks_move orderly (not_exists.mp worker) noTimer).works ?_
        (fun w _ _ _ acts => absurd ⟨w, acts⟩ worker) fun t fires => absurd fires (none t)⟩
      have calls := (isQuiet_move r (not_exists.mp worker)).calls
      rw [Runner.calls, trace, List.filter_append] at calls
      have quiet := List.filter_eq_nil_iff.mp (List.self_eq_append_right.mp calls.symm)
      intro e he
      exact Bool.eq_false_iff.mpr fun call => quiet e he (Happening.isCall_of_isTaskCall call)

/-- The jobs of tasks stay at their stages and in their lanes. -/
theorem TaskMove.tasksAreFit (h : r.TaskMove m r' es) (later : r.IsLater r')
    (fit : r.TasksAreFit) : r'.TasksAreFit := by
  have lanes : ∀ b, r'.laneOf? b = r.laneOf? b := laneOf?_of_bots later.bots
  intro v hv
  simp only [lanes]
  cases h with
  | aside works => exact fit v (works ▸ hv)
  | comes k t _ lane _ works =>
    rcases Multiset.mem_cons.mp (works ▸ hv) with rfl | old
    · exact ⟨k, t, .ready, rfl, lane, rfl⟩
    · exact fit v old
  | labours w k t s next rest _ _ done before after =>
    rw [after, Multiset.mem_add] at hv
    rcases hv with own | old
    · obtain ⟨k', t', s', same, lane, -⟩ := fit _ (before ▸ Multiset.mem_cons_self _ _)
      cases same
      cases next with
      | none => cases own
      | some s' => exact ⟨k, t, s', Multiset.mem_singleton.mp own, lane, done.ofTask⟩
    · exact fit v (before ▸ Multiset.mem_cons_of_mem old)

end Runner

/-! ## Runs -/

namespace RunnerPlan

variable {κ : Type} {p : RunnerPlan κ} {schedule : Nat → Runner.Move} {n : Nat}

theorem tasksAreFit_after (going : ∀ m < n, schedule m ≠ .cancel) :
    (p.start.after schedule n).TasksAreFit := by
  induction n with
  | zero =>
    intro v hv
    rw [Runner.after, p.nothing_counted_at_start.2.2.1] at hv
    cases hv
  | succ n ih =>
    have going' : ∀ m < n, schedule m ≠ .cancel := fun m hm => going m (hm.trans n.lt_succ_self)
    obtain ⟨orderly, fit⟩ := p.isOrderly_after schedule n
    obtain ⟨es, -, move⟩ := Runner.taskMove_move orderly fit (p.isServed_after going') (ih going')
      (p.isOpen_after going') (schedule n)
    exact move.tasksAreFit (Runner.isLater_move _ _) (ih going')

/-- What the moves of a run have to do with the jobs of tasks. -/
theorem taskMove_after (going : ∀ m < n, schedule m ≠ .cancel) :
    (p.start.after schedule n).TaskMove (schedule n) (p.start.after schedule (n + 1))
      (p.start.happens schedule n) := by
  obtain ⟨orderly, fit⟩ := p.isOrderly_after schedule n
  obtain ⟨es, trace, move⟩ := Runner.taskMove_move orderly fit (p.isServed_after going)
    (tasksAreFit_after going) (p.isOpen_after going) (schedule n)
  have happens : p.start.happens schedule n = es := by
    show ((p.start.after schedule n).move (schedule n)).trace.drop _ = es
    rw [trace, List.drop_left]
  exact happens ▸ move

end RunnerPlan

end Switchboard
