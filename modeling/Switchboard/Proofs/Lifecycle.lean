import Switchboard.Proofs.Backgrounds
import Switchboard.Proofs.Calls
import Switchboard.Proofs.LaneMoves

/-!
# From the start of a run to its end

How far a run has come decides its phase, and each part of the runner ends in its turn: the course
leaves the lanes behind when all supervisors have left, and the pool when all workers have. The
status says of a bot that it runs only as long as a supervisor watches it (`Runner.IsAttended`), and
the pool and the timers are closed with the run as a whole. All this is true of a runner throughout
(`Runner.IsOnCourse`).

What the moves do to the phase, to the orders to stop and to the timers is read off their cases
(`BackgroundMove`); to the supervisors, off `Runner.Attends`.
-/

namespace Switchboard

/-! ## Phases -/

/-- The phase that follows a phase. -/
def Phase.next? : Phase → Option Phase
  | idle => some running
  | running => some shuttingDown
  | shuttingDown => some stopped
  | stopped => none

namespace Course

/-- The phase of a run that has come so far. A run that could not begin stays idle. -/
def phase : Course → Phase
  | running => .running
  | closingLanes | closingPool | closingTimers _ | closingRest => .shuttingDown
  | ended => .stopped
  | failed _ => .idle

/-- Whether the lanes have been waited for. -/
def hasClosedLanes : Course → Bool
  | closingPool | closingTimers _ | closingRest | ended => true
  | _ => false

/-- Whether the workers have been waited for. -/
def hasClosedPool : Course → Bool
  | closingTimers _ | closingRest | ended => true
  | _ => false

end Course

/-- Before a run no bot is running. -/
theorem Status.isRunning_ofBots (bots : List BotType) (b : BotType) :
    (Status.ofBots bots).isRunning b = false := by
  suffices folded : ∀ (entries : List (String × Bool)) (t : Table Bool),
      (∀ e ∈ entries, e.2 = false) → (Table.find? b.name t).getD false = false →
      (Table.find? b.name (entries.foldl (fun t e => Table.insert e.1 e.2 t) t)).getD false =
        false by
    refine folded _ [] (fun e he => ?_) rfl
    obtain ⟨bot, -, rfl⟩ := List.mem_map.mp he
    rfl
  intro entries
  induction entries with
  | nil => exact fun t _ before => before
  | cons e rest ih =>
    intro t all before
    refine ih _ (fun d hd => all d (List.mem_cons_of_mem e hd)) ?_
    rw [Table.find?_insert]
    split
    · rw [Option.getD_some]
      exact all e List.mem_cons_self
    · exact before

/-- Whether a watcher has been told to stop, or has stopped. -/
def Watcher.isEnding {α : Type} (w : Watcher α) : Bool := w.isCancelled || w.isOver

/-- A watcher ends only when it has been told to. -/
theorem Watcher.isEnding_act {α : Type} (w : Watcher α) (os : DirectoryWatch) (files : FileTree)
    (now : Nat) : (w.act os files now).1.isEnding = w.isEnding := by
  unfold act
  split
  · next cancelled => simp [isEnding, cancelled]
  · split
    · rfl
    · rfl
    · rfl

theorem Watcher.isEnding_deliver {α : Type} (w : Watcher α) (x : WatchReport) :
    (w.deliver x).isEnding = w.isEnding := by
  unfold deliver
  split
  · rfl
  · rfl

theorem Timers.Ticks.closed {s t : Timers} (h : s.Ticks t) : t.closed = s.closed := by
  induction h with
  | refl => rfl
  | fire n now h ih => exact ih
  | rearm n now clock h ih => exact ih

/-- A tick tells no timer to stop. -/
theorem Timers.Ticks.exists_old {s t : Timers} (h : s.Ticks t) {timer : Timer}
    (present : timer ∈ t.timers) :
    ∃ old ∈ s.timers, old.number = timer.number ∧ old.isStopped = timer.isStopped := by
  induction h generalizing timer with
  | refl => exact ⟨timer, present, rfl, rfl⟩
  | fire n now h ih =>
    obtain ⟨last, before, number, -, told⟩ := (keeps_fire now).exists_old present
    obtain ⟨old, first, number', told'⟩ := ih before
    exact ⟨old, first, number'.trans number, told'.trans told⟩
  | rearm n now clock h ih =>
    obtain ⟨last, before, number, -, told⟩ := (keeps_rearm now clock).exists_old present
    obtain ⟨old, first, number', told'⟩ := ih before
    exact ⟨old, first, number'.trans number, told'.trans told⟩

namespace Runner

variable {κ : Type} {r r' : Runner κ} {m : Move} {b : Background} {k : Nat}

/-! ## The course -/

theorem next_courseStep (r : Runner κ) :
    r.courseStep.course.phase = r.course.phase ∨
      r.course.phase.next? = some r.courseStep.course.phase := by
  unfold courseStep
  split
  · next course => exact .inr (by rw [course]; rfl)
  · next course => exact .inl (by rw [course]; rfl)
  · next course => exact .inl (by rw [course]; rfl)
  · next course => exact .inl (by rw [course]; rfl)
  · next course => exact .inr (by rw [course]; rfl)
  · exact .inl rfl
  · exact .inl rfl

theorem phase_courseStep (h : r.status.phase = r.course.phase) :
    r.courseStep.status.phase = r.courseStep.course.phase := by
  unfold courseStep
  split
  · rfl
  · next course => exact h.trans (by rw [course]; rfl)
  · next course => exact h.trans (by rw [course]; rfl)
  · next course => exact h.trans (by rw [course]; rfl)
  · rfl
  · exact h
  · exact h

/-- The run as a whole leaves the status of the bots to their supervisors. -/
theorem bots_courseStep (r : Runner κ) : r.courseStep.status.bots = r.status.bots := by
  unfold courseStep
  split
  all_goals rfl

theorem orders_courseStep (r : Runner κ) :
    r.courseStep.isCancelled = r.isCancelled ∧ r.courseStep.timers.closed = r.timers.closed ∧
      r.courseStep.plannerIsOver = r.plannerIsOver ∧
      r.courseStep.workshop.watcher = r.workshop.watcher := by
  unfold courseStep
  split
  all_goals exact ⟨rfl, rfl, rfl, rfl⟩

/-! ## The background -/

/-- The course is the run's own. -/
theorem BackgroundMove.course (h : r.BackgroundMove m b) :
    b.course = r.course ∨
      m = .act .course ∧ r.courseIsAble = true ∧ b = r.courseStep.background := by
  cases h with
  | goesOn able => exact .inr ⟨rfl, able, rfl⟩
  | _ => exact .inl rfl

theorem BackgroundMove.phase (h : r.BackgroundMove m b)
    (phase : r.status.phase = r.course.phase) : b.status.phase = b.course.phase := by
  cases h with
  | goesOn able => exact phase_courseStep phase
  | attends k status same => exact same.trans phase
  | _ => exact phase

theorem BackgroundMove.next (h : r.BackgroundMove m b) :
    b.course.phase = r.course.phase ∨ r.course.phase.next? = some b.course.phase := by
  rcases h.course with same | ⟨-, -, rfl⟩
  · exact .inl (by rw [same])
  · exact r.next_courseStep

theorem BackgroundMove.bots (h : r.BackgroundMove m b) (other : ∀ k, m ≠ .act (.supervisor k)) :
    b.status.bots = r.status.bots := by
  cases h with
  | goesOn able => exact r.bots_courseStep
  | attends k => exact absurd rfl (other k)
  | _ => rfl

/-- Nobody but the run as a whole is told to stop everything. -/
theorem BackgroundMove.orders (h : r.BackgroundMove m b) (going : m ≠ .cancel) :
    b.isCancelled = r.isCancelled ∧ b.timers.closed = r.timers.closed := by
  cases h with
  | goesOn able => exact ⟨r.orders_courseStep.1, r.orders_courseStep.2.1⟩
  | ticks timers ticks => exact ⟨rfl, ticks.closed⟩
  | cancels => exact absurd rfl going
  | _ => exact ⟨rfl, rfl⟩

theorem BackgroundMove.planner (h : r.BackgroundMove m b) (isOver : b.plannerIsOver = true) :
    r.plannerIsOver = true ∨ r.isCancelled = true := by
  cases h with
  | goesOn able => exact .inl (r.orders_courseStep.2.2.1.symm.trans isOver)
  | stopsPlanning cancelled => exact .inr cancelled
  | _ => exact .inl isOver

theorem isEnding_watch (w : Workshop κ) :
    w.watch.watcher.map Watcher.isEnding = w.watcher.map Watcher.isEnding := by
  cases watcher : w.watcher with
  | none =>
    have idle : w.watch = w := by simp only [Workshop.watch, watcher]
    rw [idle, watcher]
  | some x =>
    rw [Reload.watcher_watch watcher, Option.map_some, Option.map_some, Watcher.isEnding_act]

theorem BackgroundMove.watcher (h : r.BackgroundMove m b) (going : m ≠ .cancel) :
    b.watcher.map Watcher.isEnding = r.workshop.watcher.map Watcher.isEnding := by
  cases h with
  | goesOn able => exact congrArg _ r.orders_courseStep.2.2.2
  | watches => exact isEnding_watch r.workshop
  | reports x =>
    rw [Option.map_map]
    refine congrArg (fun f => Option.map f _) (funext fun w => ?_)
    exact w.isEnding_deliver x
  | cancels => exact absurd rfl going
  | _ => rfl

/-- A timer is told to stop by the planner only, which starts one that takes its place. -/
theorem BackgroundMove.timers (h : r.BackgroundMove m b) (going : m ≠ .cancel)
    (isOpen : r.timers.closed = false) (idle : r.courseIsAble = false) {timer : Timer}
    (present : timer ∈ b.timers.timers) (told : timer.isStopped = true) :
    (∃ old ∈ r.timers.timers, old.number = timer.number ∧ old.isStopped = true) ∨
      m = .act .planner ∧ ∃ t rest, r.workshop.feed.tasks = t :: rest ∧
        (t.key, timer.number) ∈ r.timers.current := by
  cases h with
  | goesOn able =>
    rw [idle] at able
    cases able
  | cancels => exact absurd rfl going
  | ticks timers ticks =>
    obtain ⟨old, before, number, same⟩ := ticks.exists_old present
    exact .inl ⟨old, before, number, same.trans told⟩
  | leaves n => exact .inl ⟨timer, (Timers.mem_leave.mp present).1, rfl, told⟩
  | plans t rest next =>
    rcases List.mem_append.mp present with earlier | new
    · obtain ⟨old, before, ⟨stood, rfl⟩ | ⟨-, rfl⟩⟩ := Timers.mem_cancel earlier
      · exact .inr ⟨rfl, t, rest, next, stood⟩
      · exact .inl ⟨timer, before, rfl, told⟩
    · rw [List.mem_singleton.mp new] at told
      exact absurd told (by simp [isOpen])
  | _ => exact .inl ⟨timer, present, rfl, told⟩

/-! ## Supervisors -/

/-- The bots with what their supervisors are doing. -/
def posts (r : Runner κ) : List (BotType × Supervisor) :=
  r.lanes.map fun l => (l.botType, l.supervisor)

/-- What a supervisor does next, and what it makes of the status. -/
inductive Attends (r : Runner κ) (bot : BotType) : Supervisor → Supervisor → Status → Prop
  | starts : Attends r bot .starting .watching (r.status.setRunning bot true)
  | closes : Attends r bot .watching .closing (r.status.setRunning bot false)
  | leaves : Attends r bot .closing .over r.status

theorem LaneMove.supervisor_eq {l l' : Lane κ} {es : List (Happening κ)}
    (h : r.LaneMove k l m l' es) (other : m ≠ .act (.supervisor k)) :
    l'.supervisor = l.supervisor := by
  cases h with
  | starts => exact absurd rfl other
  | closes => exact absurd rfl other
  | leaves => exact absurd rfl other
  | _ => rfl

theorem posts_setLane (r : Runner κ) (k j : Nat) {f : Lane κ → Lane κ} {l : Lane κ}
    (hl : r.lanes[k]? = some l) :
    (r.setLane k f).posts[j]? =
      if k = j then some ((f l).botType, (f l).supervisor) else r.posts[j]? := by
  rw [posts, List.getElem?_map, getElem?_lanes_setLane, posts, List.getElem?_map]
  split
  · next same =>
    subst same
    simp [hl]
  · simp

/-- But for the supervisors nobody moves a supervisor. -/
theorem posts_move (r : Runner κ) (other : ∀ k, m ≠ .act (.supervisor k)) :
    (r.move m).posts = r.posts := by
  by_cases going : m = .cancel
  · subst going
    rfl
  · rcases isAside_or_stepsLane r going with aside | ⟨k, l, l', es, hl, steps⟩
    · rw [posts, aside.lanes, posts]
    · refine List.ext_getElem? fun j => ?_
      rw [posts, posts, List.getElem?_map, List.getElem?_map, steps.lanes]
      split
      · next same =>
        subst same
        have bot : l'.botType = l.botType := congrArg Bot.botType steps.done.bot_eq
        rw [hl, Option.map_some, Option.map_some, bot, steps.done.supervisor_eq (other k)]
      · rfl

theorem attends_supervisorStep (able : Runner.able (.supervisor k) r = true) :
    ∃ bot s s', r.posts[k]? = some (bot, s) ∧
      (∀ j, (r.supervisorStep k).posts[j]? = if k = j then some (bot, s') else r.posts[j]?) ∧
      r.Attends bot s s' (r.supervisorStep k).status := by
  obtain ⟨l, hl, able⟩ := (Option.any_eq_true ..).mp able
  have post : r.posts[k]? = some (l.botType, l.supervisor) := by
    rw [posts, List.getElem?_map, hl]
    rfl
  unfold supervisorStep
  rw [hl]
  dsimp only
  cases supervisor : l.supervisor with
  | starting =>
    rw [supervisor] at post
    exact ⟨_, _, _, post, fun j => posts_setLane _ k j hl, .starts⟩
  | watching =>
    rw [supervisor] at post
    dsimp only
    have closes : ∀ s : Runner κ, s.lanes = r.lanes →
        ∀ j, ((s.stopLane k).setLane k fun l => { l with supervisor := .closing }).posts[j]? =
          if k = j then some (l.botType, .closing) else r.posts[j]? := by
      intro s lanes j
      have both : ((s.stopLane k).setLane k fun l => { l with supervisor := .closing }).lanes =
          (r.setLane k fun l => { l with supervisor := .closing, isStopped := true }).lanes := by
        simp only [stopLane, setLane, lanes, List.modify_modify_eq]
        rfl
      rw [posts, both]
      exact posts_setLane r k j hl
    split
    · exact ⟨_, _, _, post, closes _ rfl, .closes⟩
    · exact ⟨_, _, _, post, closes _ rfl, .closes⟩
  | closing =>
    rw [supervisor] at post
    exact ⟨_, _, _, post, fun j => posts_setLane _ k j hl, .leaves⟩
  | «over» =>
    rw [Lane.supervisorIsAble, supervisor] at able
    cases able

/-- A post that is not the one that moves stays. -/
theorem mem_posts_of_ne {posts posts' : List (BotType × Supervisor)} {x y z : BotType × Supervisor}
    (post : posts[k]? = some x) (moved : ∀ j, posts'[j]? = if k = j then some y else posts[j]?)
    (mem : z ∈ posts) (other : z ≠ x) : z ∈ posts' := by
  obtain ⟨j, here⟩ := List.mem_iff_getElem?.mp mem
  refine List.mem_iff_getElem?.mpr ⟨j, ?_⟩
  rw [moved j, if_neg, here]
  rintro rfl
  exact other (Option.some_inj.mp (here.symm.trans post))

/-- A bot is reported as running only as long as a supervisor watches it. -/
def IsAttended (r : Runner κ) : Prop :=
  ∀ bot, r.status.isRunning bot = true → (bot, .watching) ∈ r.posts

theorem IsAttended.supervisorStep (attended : r.IsAttended)
    (able : Runner.able (.supervisor k) r = true) : (r.supervisorStep k).IsAttended := by
  obtain ⟨bot, s, s', post, moved, attends⟩ := attends_supervisorStep able
  generalize r.supervisorStep k = next at moved attends ⊢
  intro c runs
  -- A post is lost by the supervisor that moves, and that one reports for its own bot only.
  have stays : r.status.isRunning c = true → (c, .watching) ≠ (bot, s) →
      (c, .watching) ∈ next.posts :=
    fun before other => mem_posts_of_ne post moved (attended c before) other
  have here : next.posts[k]? = some (bot, s') := by simp [moved k]
  generalize next.status = status at attends runs
  cases attends with
  | starts =>
    rw [Status.isRunning_setRunning] at runs
    split at runs
    · next same =>
      obtain rfl : c = bot := by
        cases c
        cases bot
        exact congrArg BotType.mk same
      exact List.mem_of_getElem? here
    · exact stays runs (by simp)
  | closes =>
    rw [Status.isRunning_setRunning] at runs
    split at runs
    · cases runs
    · next other => exact stays runs fun same => other (congrArg (fun x => x.1.name) same)
  | leaves => exact stays runs (by simp)

theorem IsAttended.move (attended : r.IsAttended) (m : Move) : (r.move m).IsAttended := by
  by_cases acts : ∃ k, m = .act (.supervisor k)
  · obtain ⟨k, rfl⟩ := acts
    simp only [Runner.move]
    split
    · next able => exact attended.supervisorStep able
    · exact attended
  · have other := not_exists.mp acts
    intro bot runs
    rw [posts_move r other]
    have bots : (r.move m).status.bots = r.status.bots := (r.backgroundMove_move m).bots other
    rw [Status.isRunning, bots] at runs
    exact attended bot runs

theorem lanesAreOver_iff : r.lanesAreOver = true ↔ ∀ x ∈ r.posts, x.2 = .over := by
  simp [lanesAreOver, posts]

/-- A supervisor that has left does not come back. -/
theorem lanesAreOver_move (h : r.lanesAreOver = true) (m : Move) :
    (r.move m).lanesAreOver = true := by
  by_cases acts : ∃ k, m = .act (.supervisor k)
  · obtain ⟨k, rfl⟩ := acts
    simp only [Runner.move]
    split
    · next able =>
      obtain ⟨bot, s, s', post, -, attends⟩ := attends_supervisorStep able
      have left : s = .over := lanesAreOver_iff.mp h _ (List.mem_of_getElem? post)
      subst left
      cases attends
    · exact h
  · rw [lanesAreOver_iff, posts_move r (not_exists.mp acts)]
    exact lanesAreOver_iff.mp h

/-- Where all supervisors have left, no bot is reported as running. -/
theorem IsAttended.isRunning_eq_false (attended : r.IsAttended) (h : r.lanesAreOver = true)
    (bot : BotType) : r.status.isRunning bot = false := by
  by_contra runs
  have watched := attended bot (by simpa using runs)
  have left := lanesAreOver_iff.mp h _ watched
  cases left

/-! ## Throughout a run -/

/-- What is true of a runner throughout. -/
structure IsOnCourse (r : Runner κ) : Prop where
  phase : r.status.phase = r.course.phase
  pool : r.pool.closed = r.isCancelled
  timers : r.timers.closed = r.isCancelled
  planner : r.plannerIsOver = true → r.isCancelled = true
  /-- The parts are waited for after the run as a whole has been told to stop. -/
  going : r.isCancelled = false → r.course = .running ∨ ∃ cause, r.course = .failed cause
  attended : r.IsAttended
  lanes : r.course.hasClosedLanes = true → r.lanesAreOver = true
  deserted : r.course.hasClosedPool = true → r.pool.isDeserted = true

/-- Before the run is told to stop, it goes on as a whole. -/
theorem IsOnCourse.courseIsAble (h : r.IsOnCourse) (going : r.isCancelled = false) :
    r.courseIsAble = false := by
  unfold Runner.courseIsAble
  rcases h.going going with course | ⟨cause, course⟩
  · rw [course]
    exact going
  · rw [course]

theorem IsOnCourse.isCancelled_of_hasClosedPool (h : r.IsOnCourse)
    (closed : r.course.hasClosedPool = true) : r.isCancelled = true := by
  by_contra going
  rcases h.going (by simpa using going) with course | ⟨cause, course⟩
  · rw [course] at closed
    cases closed
  · rw [course] at closed
    cases closed

/-- Whom the course leaves behind has ended. -/
theorem IsOnCourse.courseStep (h : r.IsOnCourse) (able : r.courseIsAble = true) :
    (r.courseStep.course.hasClosedLanes = true → r.lanesAreOver = true) ∧
      (r.courseStep.course.hasClosedPool = true → r.pool.isDeserted = true) := by
  have lanes := h.lanes
  have deserted := h.deserted
  unfold Runner.courseIsAble at able
  unfold Runner.courseStep
  split
  · exact ⟨fun closed => (by cases closed), fun closed => (by cases closed)⟩
  · next course =>
    rw [course] at able
    exact ⟨fun _ => able, fun closed => (by cases closed)⟩
  · next course =>
    rw [course] at able lanes
    exact ⟨fun _ => lanes rfl, fun _ => (Bool.and_eq_true_iff.mp able).1⟩
  · next course =>
    rw [course] at lanes deserted
    exact ⟨fun _ => lanes rfl, fun _ => deserted rfl⟩
  · next course =>
    rw [course] at lanes deserted
    exact ⟨fun _ => lanes rfl, fun _ => deserted rfl⟩
  · exact ⟨lanes, deserted⟩
  · exact ⟨lanes, deserted⟩

/-- What the course has left behind after a move had ended before it. -/
theorem IsOnCourse.left (h : r.IsOnCourse) (m : Move) :
    ((r.move m).course.hasClosedLanes = true → r.lanesAreOver = true) ∧
      ((r.move m).course.hasClosedPool = true →
        r.pool.closed = true ∧ r.pool.isDeserted = true) := by
  rcases (r.backgroundMove_move m).course with same | ⟨-, able, same⟩
  · have course : (r.move m).course = r.course := same
    rw [course]
    refine ⟨h.lanes, fun closed => ⟨?_, h.deserted closed⟩⟩
    exact h.pool.trans (h.isCancelled_of_hasClosedPool closed)
  · have course : (r.move m).course = r.courseStep.course := congrArg Background.course same
    obtain ⟨lanes, deserted⟩ := h.courseStep able
    rw [course]
    refine ⟨lanes, fun closed => ⟨?_, deserted closed⟩⟩
    -- The course goes on only after the run has been told to stop, and the pool with it.
    rw [h.pool]
    by_contra going
    rw [h.courseIsAble (by simpa using going)] at able
    cases able

/-- The parts are told to stop with the run as a whole. -/
theorem IsOnCourse.orders (h : r.IsOnCourse) (m : Move) :
    (r.move m).pool.closed = (r.move m).isCancelled ∧
      (r.move m).timers.closed = (r.move m).isCancelled ∧
      ((r.move m).plannerIsOver = true → (r.move m).isCancelled = true) ∧
      ((r.move m).isCancelled = false →
        (r.move m).course = .running ∨ ∃ cause, (r.move m).course = .failed cause) := by
  by_cases going : m = .cancel
  · subst going
    exact ⟨rfl, rfl, fun _ => rfl, fun never => by cases never⟩
  · have background := r.backgroundMove_move m
    obtain ⟨cancelled, timers⟩ := background.orders going
    rw [show (r.move m).isCancelled = r.isCancelled from cancelled]
    refine ⟨(closed_move r going).trans h.pool, timers.trans h.timers, fun isOver => ?_,
      fun notYet => ?_⟩
    · exact (background.planner isOver).elim h.planner id
    · rcases background.course with same | ⟨-, able, -⟩
      · rw [show (r.move m).course = r.course from same]
        exact h.going notYet
      · rw [h.courseIsAble notYet] at able
        cases able

theorem IsOnCourse.move (h : r.IsOnCourse) (m : Move) : (r.move m).IsOnCourse where
  phase := (r.backgroundMove_move m).phase h.phase
  pool := (h.orders m).1
  timers := (h.orders m).2.1
  planner := (h.orders m).2.2.1
  going := (h.orders m).2.2.2
  attended := h.attended.move m
  lanes closed := lanesAreOver_move ((h.left m).1 closed) m
  deserted := by
    intro closed
    obtain ⟨poolIsClosed, deserted⟩ := (h.left m).2 closed
    exact isDeserted_move poolIsClosed deserted m

end Runner

end Switchboard
