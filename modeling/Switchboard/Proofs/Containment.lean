import Switchboard.Proofs.Lifecycle
import Switchboard.Proofs.RunEndings

/-!
# Containment

What breaks down in a run stays where it is. Before the run as a whole is told to stop, a lane is
told to stop by its own error loop or its own supervisor only (`RunnerPlan.StopsItself`), and
everything that the bots share goes on (`RunnerPlan.IsUnstopped`). Once the run has been told to
stop, no worker takes a job from the queue, so that the calls are about the jobs that were in the
workers' hands; and when the run has ended there are none left.
-/

namespace Switchboard

namespace RunnerPlan

variable {κ : Type} (p : RunnerPlan κ) (schedule : Nat → Runner.Move)

/-- What stops a lane from inside. -/
inductive StopsItself (k n : Nat) (l : Lane κ) : Prop
  /-- Its error loop has called all alerters for a critical error of its own run loop. -/
  | breaksDown (acts : schedule n = .act (.errorLoop k)) (e : BotError)
    (own : e ∈ p.raised schedule k n) (critical : e.critical = true)
    (called : l.errorLoop = .alerting e [])
  /-- Its supervisor has seen that its run loop has ended, by itself. -/
  | closes (acts : schedule n = .act (.supervisor k)) (how : RunEnd) (ended : l.runEnd = some how)
    (own : l.loop.ending.runEnd? = some how)

/-- The run goes on as a whole, and so does what all bots share: all workers are there, and neither
the pool nor the timers nor the watcher have been told to stop. -/
structure IsUnstopped (r : Runner κ) : Prop where
  course : r.course = .running
  phase : r.status.phase = .running
  pool : r.pool.closed = false
  workers : r.pool.workers = max p.settings.worker.workers 1
  timers : r.timers.closed = false
  planner : r.plannerIsOver = false
  watcher : r.workshop.watcher.map Watcher.isEnding =
    p.start.workshop.watcher.map Watcher.isEnding

/-! ## Starts -/

/-- A run that cannot begin leaves the status as it was. -/
theorem start_status :
    (∃ cause, p.start.course = .failed cause) ∧
        p.start.status = .ofBots (p.bots.map Bot.botType) ∨
      p.start.course = .running ∧
        p.start.status = (Status.ofBots (p.bots.map Bot.botType)).setPhase .running := by
  unfold start
  split
  · exact .inl ⟨⟨_, rfl⟩, rfl⟩
  · dsimp only
    split
    · exact .inr ⟨rfl, rfl⟩
    · exact .inl ⟨⟨_, rfl⟩, rfl⟩

theorem start_timers : p.start.timers = {} ∧ p.start.plannerIsOver = false := by
  unfold start
  split
  · exact ⟨rfl, rfl⟩
  · dsimp only
    split
    · exact ⟨rfl, rfl⟩
    · exact ⟨rfl, rfl⟩

theorem isOnCourse_start : p.start.IsOnCourse := by
  have bots : p.start.status.bots = (Status.ofBots (p.bots.map Bot.botType)).bots := by
    rcases p.start_status with ⟨-, status⟩ | ⟨-, status⟩
    · rw [status]
    · rw [status]
      rfl
  have attended : p.start.IsAttended := by
    intro bot runs
    rw [Status.isRunning, bots] at runs
    rw [← Status.isRunning, Status.isRunning_ofBots] at runs
    cases runs
  have cancelled := p.start_orders.1
  obtain ⟨timers, planner⟩ := p.start_timers
  have closed : p.start.pool.closed = false := by
    rw [p.start_spec.2.1]
    rfl
  constructor
  case pool => rw [closed, cancelled]
  case timers => rw [timers, cancelled]
  case planner => simp [planner]
  case attended => exact attended
  all_goals rcases p.start_status with ⟨⟨cause, course⟩, status⟩ | ⟨course, status⟩
  all_goals simp [course, status, Status.setPhase, Status.ofBots, Course.phase,
    Course.hasClosedLanes, Course.hasClosedPool]

variable {p schedule} {k m n : Nat} {notes : List Note}

theorem isOnCourse_after (p : RunnerPlan κ) (schedule : Nat → Runner.Move) (n : Nat) :
    (p.start.after schedule n).IsOnCourse := by
  induction n with
  | zero => exact p.isOnCourse_start
  | succ n ih => exact ih.move (schedule n)

/-! ## Courses that last -/

/-- A run that has ended or could not begin stays so. -/
theorem course_after_of_isOver (isOver : (p.start.after schedule m).isOver = true)
    (later : m ≤ n) :
    (p.start.after schedule n).course = (p.start.after schedule m).course := by
  induction n, later using Nat.le_induction with
  | base => rfl
  | succ n _ ih =>
    rcases ((p.start.after schedule n).backgroundMove_move (schedule n)).course with
      same | ⟨-, able, -⟩
    · exact Eq.trans same ih
    · unfold Runner.isOver at isOver
      rw [Runner.courseIsAble, ih] at able
      split at isOver
      · next course => simp [course] at able
      · next course => simp [course] at able
      · cases isOver

theorem isCancelled_after (cancelled : (p.start.after schedule m).isCancelled = true)
    (later : m ≤ n) : (p.start.after schedule n).isCancelled = true := by
  induction n, later using Nat.le_induction with
  | base => exact cancelled
  | succ n _ ih =>
    by_cases going : schedule n = .cancel
    · show ((p.start.after schedule n).move (schedule n)).isCancelled = true
      rw [going]
      rfl
    · have background := (p.start.after schedule n).backgroundMove_move (schedule n)
      exact (background.orders going).1.trans ih

theorem phase_after_succ (p : RunnerPlan κ) (schedule : Nat → Runner.Move) (n : Nat) :
    (p.start.after schedule (n + 1)).status.phase = (p.start.after schedule n).status.phase ∨
      (p.start.after schedule n).status.phase.next? =
        some (p.start.after schedule (n + 1)).status.phase := by
  rw [(p.isOnCourse_after schedule n).phase, (p.isOnCourse_after schedule (n + 1)).phase]
  exact ((p.start.after schedule n).backgroundMove_move (schedule n)).next

/-- A run that has begun does not fail. -/
theorem not_failed_after (started : p.start.course = .running) (schedule : Nat → Runner.Move)
    (n : Nat) (cause : RunnerError) : (p.start.after schedule n).course ≠ .failed cause := by
  have idle : (p.start.after schedule n).course.phase ≠ .idle := by
    induction n with
    | zero => simp [Runner.after, started, Course.phase]
    | succ n ih =>
      rcases ((p.start.after schedule n).backgroundMove_move (schedule n)).next with same | next
      · exact fun never => ih (same.symm.trans never)
      · intro never
        have reached : (p.start.after schedule n).course.phase.next? = some .idle :=
          next.trans (congrArg some never)
        cases before : (p.start.after schedule n).course.phase
        all_goals simp [before, Phase.next?] at reached
  intro failed
  exact idle (by rw [failed]; rfl)

/-! ## Before the run is told to stop -/

section Going

variable (going : ∀ m < n, schedule m ≠ .cancel)
include going

theorem workers_after :
    (p.start.after schedule n).pool.workers = max p.settings.worker.workers 1 := by
  induction n with
  | zero =>
    show p.start.pool.workers = _
    rw [p.start_spec.2.1]
    simp [Pool.ofSize, Pool.workers]
  | succ n ih =>
    have before := fun m (hm : m < n) => going m (hm.trans n.lt_succ_self)
    have isOpen : (p.start.after schedule n).pool.closed = false := by
      rw [(p.isOnCourse_after schedule n).pool, (p.orders_after before).1]
    have orderly := (p.isOrderly_after schedule n).1
    exact (Runner.workers_move isOpen orderly (schedule n)).trans (ih before)

theorem watcher_after :
    (p.start.after schedule n).workshop.watcher.map Watcher.isEnding =
      p.start.workshop.watcher.map Watcher.isEnding := by
  induction n with
  | zero => rfl
  | succ n ih =>
    have background := (p.start.after schedule n).backgroundMove_move (schedule n)
    refine Eq.trans (background.watcher (going n n.lt_succ_self)) ?_
    exact ih fun m hm => going m (hm.trans n.lt_succ_self)

theorem course_after (started : p.start.course = .running) :
    (p.start.after schedule n).course = .running := by
  induction n with
  | zero => exact started
  | succ n ih =>
    have before := fun m (hm : m < n) => going m (hm.trans n.lt_succ_self)
    rcases ((p.start.after schedule n).backgroundMove_move (schedule n)).course with
      same | ⟨-, able, -⟩
    · exact Eq.trans same (ih before)
    · rw [(p.isOnCourse_after schedule n).courseIsAble (p.orders_after before).1] at able
      cases able

theorem isUnstopped_after (started : p.start.course = .running) :
    p.IsUnstopped (p.start.after schedule n) := by
  have onCourse := p.isOnCourse_after schedule n
  have cancelled := (p.orders_after going).1
  have course := course_after going started
  exact {
    course
    phase := by rw [onCourse.phase, course]; rfl
    pool := onCourse.pool.trans cancelled
    workers := workers_after going
    timers := onCourse.timers.trans cancelled
    planner := by
      by_contra isOver
      rw [onCourse.planner (by simpa using isOver)] at cancelled
      cases cancelled
    watcher := watcher_after going }

end Going

/-- What an error loop calls the alerters for is the first critical error of its run loop. -/
theorem Alarm.first_of_alerting {bot : BotType} {l : Lane κ} {alerts : List (Happening κ)}
    (h : p.Alarm schedule bot k n l alerts) {e : BotError} {left : List Alerter}
    (alerting : l.errorLoop = .alerting e left) : p.firstCritical? schedule k n = some e := by
  cases h with
  | calling c first called rest all calling =>
    rw [alerting] at calling
    obtain rfl : e = c := (ErrorLoop.alerting.inj calling).1
    exact first
  | calm heard all mild listening =>
    rw [alerting] at listening
    cases listening
  | broken c first told idle =>
    rw [alerting] at idle
    rcases idle with never | never
    all_goals cases never
  | overtaken told ended idle =>
    rw [alerting] at idle
    rcases idle with never | never
    all_goals cases never
  | quiet mild ended ceased =>
    rw [alerting] at ceased
    cases ceased

/-- A lane is told to stop from inside. -/
theorem exists_stopsItself (checked : p.check = .ok notes) (going : ∀ m ≤ n, schedule m ≠ .cancel)
    (before : (p.start.after schedule n).isStopped k = false)
    (after : (p.start.after schedule (n + 1)).isStopped k = true) :
    ∃ l, (p.start.after schedule n).lanes[k]? = some l ∧ p.StopsItself schedule k n l := by
  have earlier : ∀ m < n, schedule m ≠ .cancel := fun m hm => going m hm.le
  have throughout : ∀ m < n + 1, schedule m ≠ .cancel := fun m hm => going m (Nat.le_of_lt_succ hm)
  cases hl : (p.start.after schedule n).lanes[k]? with
  | none =>
    have same : (p.start.after schedule (n + 1)).lanes.length =
      (p.start.after schedule n).lanes.length := (Runner.isLater_move _ (schedule n)).length
    have none : (p.start.after schedule (n + 1)).lanes[k]? = none := by
      rw [List.getElem?_eq_none_iff] at hl ⊢
      rwa [same]
    rw [Runner.isStopped, (p.orders_after throughout).1, none] at after
    cases after
  | some l =>
    obtain ⟨l', hl', done⟩ := laneMove_after checked (going n le_rfl) hl
    rw [isStopped_after earlier hl] at before
    rw [isStopped_after throughout hl'] at after
    refine ⟨l, rfl, ?_⟩
    generalize acts : schedule n = move, List.filter _ _ = es at done
    cases done with
    | breaksDown e alerting =>
      have first := (alarm_after checked earlier hl).first_of_alerting alerting
      have critical : e.critical = true := by simpa using List.find?_some first
      exact .breaksDown acts e (List.mem_of_find?_eq_some first) critical alerting
    | closes watching ended =>
      obtain ⟨how, ended⟩ := Option.isSome_iff_exists.mp ended
      exact .closes acts how ended (ends_by_itself checked earlier hl before ended)
    | _ =>
      -- All other moves leave the order to stop as it was.
      have told : l.isStopped = true := after
      rw [before] at told
      cases told

/-- A timer is told to stop when another takes its place. -/
theorem timer_after (going : ∀ m ≤ n, schedule m ≠ .cancel) {timer : Timer}
    (present : timer ∈ (p.start.after schedule (n + 1)).timers.timers)
    (told : timer.isStopped = true) :
    (∃ old ∈ (p.start.after schedule n).timers.timers,
      old.number = timer.number ∧ old.isStopped = true) ∨
      schedule n = .act .planner ∧
        ∃ t rest, (p.start.after schedule n).workshop.feed.tasks = t :: rest ∧
          (t.key, timer.number) ∈ (p.start.after schedule n).timers.current := by
  have onCourse := p.isOnCourse_after schedule n
  have notYet := (p.orders_after fun m (hm : m < n) => going m hm.le).1
  have background := (p.start.after schedule n).backgroundMove_move (schedule n)
  exact background.timers (going n le_rfl) (onCourse.timers.trans notYet)
    (onCourse.courseIsAble notYet) present told

/-! ## After the run has been told to stop -/

/-- What a worker has in hand it had in hand when the run was told to stop. -/
theorem job?_after (cancelled : (p.start.after schedule m).isCancelled = true) (later : m ≤ n)
    {w : Nat} {v : Work κ} (held : (p.start.after schedule n).pool.job? w = some v) :
    ∃ u, (p.start.after schedule m).pool.job? w = some u ∧ v.job = u.job := by
  induction n, later using Nat.le_induction generalizing v with
  | base => exact ⟨v, held, rfl⟩
  | succ n later ih =>
    have closed : (p.start.after schedule n).pool.closed = true :=
      (p.isOnCourse_after schedule n).pool.trans (isCancelled_after cancelled later)
    obtain ⟨u, before, same⟩ := Runner.job?_move_of_closed closed held
    obtain ⟨first, hands, same'⟩ := ih before
    exact ⟨first, hands, same.trans same'⟩

/-- Who calls is a worker with a job in its hands. -/
theorem exists_worker_of_isCall (p : RunnerPlan κ) (schedule : Nat → Runner.Move)
    {e : Happening κ} (happens : e ∈ p.start.happens schedule n) (call : e.isCall = true) :
    ∃ w v, schedule n = .act (.worker w) ∧ (p.start.after schedule n).pool.job? w = some v := by
  rcases (p.start.after schedule n).calls_move (schedule n) with same | worker
  · have grown : (p.start.after schedule (n + 1)).calls =
        (p.start.after schedule n).calls ++
          (p.start.happens schedule n).filter Happening.isCall := by
      rw [Runner.calls, (p.effect_after schedule n).1, List.filter_append, Runner.calls]
    have none : (p.start.happens schedule n).filter Happening.isCall = [] := by
      have kept : (p.start.after schedule (n + 1)).calls = (p.start.after schedule n).calls := same
      rw [kept] at grown
      exact List.self_eq_append_right.mp grown
    exact absurd call (List.filter_eq_nil_iff.mp none e happens)
  · exact worker

/-! ## After the run has ended -/

/-- Nobody is called any more, and nothing is in anybody's hands. -/
theorem calls_after (ended : (p.start.after schedule m).course = .ended) (later : m ≤ n) :
    (p.start.after schedule n).calls = (p.start.after schedule m).calls ∧
      ∀ w, (p.start.after schedule n).pool.job? w = none := by
  have deserted : ∀ j, m ≤ j → (p.start.after schedule j).pool.isDeserted = true := by
    intro j hj
    refine (p.isOnCourse_after schedule j).deserted ?_
    rw [course_after_of_isOver (by simp [Runner.isOver, ended]) hj, ended]
    rfl
  refine ⟨?_, Runner.job?_of_isDeserted (deserted n later)⟩
  induction n, later using Nat.le_induction with
  | base => rfl
  | succ n later ih =>
    exact (Runner.calls_move_of_isDeserted (deserted n later) (schedule n)).trans ih

/-- A run that cannot begin stays idle; else its phase only moves on. Before the run is told to stop
a lane is stopped from inside only, a timer when another takes its place, and everything that the
bots share goes on. After it has been told to stop no worker takes a job from the queue, so that all
calls are about jobs that were in hand at that time. When it has ended, it is in its last phase, no
bot is reported as running, nothing is in hand, and nobody is called any more. -/
theorem failures_are_contained (checked : p.check = .ok notes) (schedule : Nat → Runner.Move) :
    let r := p.start.after schedule
    ((∃ cause, p.start.course = .failed cause ∧
        ∀ n, (r n).course = .failed cause ∧ (r n).status.phase = .idle) ∨
      p.start.course = .running ∧
        (p.runner p.watcher).status.phase = .idle ∧ p.start.status.phase = .running ∧
        ∀ n, (∀ cause, (r n).course ≠ .failed cause) ∧
          ((r (n + 1)).status.phase = (r n).status.phase ∨
            (r n).status.phase.next? = some (r (n + 1)).status.phase)) ∧
    (∀ n, p.start.course = .running → (∀ m < n, schedule m ≠ .cancel) → p.IsUnstopped (r n)) ∧
    (∀ k, p.start.isStopped k = false) ∧
    (∀ n k, (∀ m ≤ n, schedule m ≠ .cancel) → (r n).isStopped k = false →
      (r (n + 1)).isStopped k = true →
      ∃ l, (r n).lanes[k]? = some l ∧ p.StopsItself schedule k n l) ∧
    (∀ n, (∀ m ≤ n, schedule m ≠ .cancel) → ∀ timer ∈ (r (n + 1)).timers.timers,
      timer.isStopped = true →
      (∃ old ∈ (r n).timers.timers, old.number = timer.number ∧ old.isStopped = true) ∨
        schedule n = .act .planner ∧ ∃ t rest, (r n).workshop.feed.tasks = t :: rest ∧
          (t.key, timer.number) ∈ (r n).timers.current) ∧
    (∀ m n, m ≤ n → (r m).isCancelled = true →
      (∀ w v, (r n).pool.job? w = some v →
        ∃ u, (r m).pool.job? w = some u ∧ v.job = u.job) ∧
      ∀ e ∈ p.start.happens schedule n, e.isCall = true →
        ∃ w v u, schedule n = .act (.worker w) ∧ (r n).pool.job? w = some v ∧
          (r m).pool.job? w = some u ∧ v.job = u.job) ∧
    ∀ m n, m ≤ n → (r m).course = .ended →
      (r n).course = .ended ∧ (r n).status.phase = .stopped ∧
        (∀ bot, (r n).status.isRunning bot = false) ∧ (∀ w, (r n).pool.job? w = none) ∧
        (r n).calls = (r m).calls := by
  intro r
  have onCourse := p.isOnCourse_after schedule
  refine ⟨?_, fun n started going => isUnstopped_after going started, ?_,
    fun n k going before after => exists_stopsItself checked going before after,
    fun n going timer present told => timer_after going present told, ?_, ?_⟩
  · rcases p.start_status with ⟨⟨cause, failed⟩, -⟩ | ⟨started, status⟩
    · refine .inl ⟨cause, failed, fun n => ?_⟩
      have isOver : (p.start.after schedule 0).isOver = true := by
        simp [Runner.after, Runner.isOver, failed]
      have stays : (r n).course = .failed cause :=
        (course_after_of_isOver isOver n.zero_le).trans failed
      exact ⟨stays, by rw [(onCourse n).phase, stays]; rfl⟩
    · refine .inr ⟨started, rfl, by rw [status]; rfl, fun n => ?_⟩
      exact ⟨not_failed_after started schedule n, p.phase_after_succ schedule n⟩
  · intro k
    rw [Runner.isStopped, p.start_orders.1, Bool.false_or, Option.any_eq_false]
    intro l hl
    obtain ⟨bot, rfl⟩ := p.start_lane hl
    simp [Lane.ofBot]
  · intro m n later cancelled
    refine ⟨fun w v held => job?_after cancelled later held, fun e happens call => ?_⟩
    obtain ⟨w, v, acts, held⟩ := p.exists_worker_of_isCall schedule happens call
    obtain ⟨u, before, same⟩ := job?_after cancelled later held
    exact ⟨w, v, u, acts, held, before, same⟩
  · intro m n later ended
    have isOver : (r m).isOver = true := by simp [Runner.isOver, ended]
    have stays : (r n).course = .ended := (course_after_of_isOver isOver later).trans ended
    obtain ⟨calls, hands⟩ := calls_after ended later
    have lanes : (r n).lanesAreOver = true := (onCourse n).lanes (by rw [stays]; rfl)
    refine ⟨stays, by rw [(onCourse n).phase, stays]; rfl, ?_, hands, calls⟩
    exact (onCourse n).attended.isRunning_eq_false lanes

end RunnerPlan

/-! ## A run in which one bot breaks down -/

namespace Outage

def chat : BotType := ⟨"chat"⟩

def mail : BotType := ⟨"mail"⟩

def line (words : String) : Input := ⟨"ann", words, ⟨"ann"⟩, .message, default⟩

/-- The first bot loses its connection, and the second hands over two inputs. -/
def plan : RunnerPlan Unit where
  language _ _ := .done {}
  origin := default
  settings := { worker := { workers := 1 } }
  bots := [{ botType := chat, loop := { errors := [⟨true, ["connection lost"]⟩] } },
    { botType := mail, loop := { inputs := [line "one", line "two"] } }]

/-- The first bot breaks down. The worker takes the job of the first input; that of the second is
queued when the run is told to stop. Then everything ends. -/
def moves : List Runner.Move :=
  [.act (.supervisor 0), .act (.supervisor 1), .act (.runLoop 0), .act (.errorLoop 0),
    .act (.errorLoop 0), .act (.runLoop 1), .act (.runLoop 1), .act (.intake 1), .act (.intake 1),
    .act (.worker 0), .act (.runLoop 1), .act (.runLoop 1), .act (.intake 1), .act (.intake 1),
    .cancel, .act (.worker 0), .act .course, .act (.runLoop 0), .act (.runLoop 1),
    .act (.intake 0), .act (.intake 1), .act (.errorLoop 0), .act (.errorLoop 1),
    .act (.supervisor 0), .act (.supervisor 1), .act (.supervisor 0), .act (.supervisor 1),
    .act .course, .act (.worker 0), .act .gaugeExit, .act .course, .act .course,
    .act .plannerExit, .act .sweeperExit, .act .course]

def schedule (n : Nat) : Runner.Move := moves[n]?.getD (.pass 0)

/-- The second bot goes on when the first has broken down. Its first input has a response, and its
second, which is queued when the run is told to stop, has none for ever. -/
theorem queued_input_has_no_response :
    (∀ m < 14, schedule m ≠ .cancel) ∧ plan.start.course = .running ∧
    (plan.start.after schedule 14).lanes.map Lane.isStopped = [true, false] ∧
    plan.IsUnstopped (plan.start.after schedule 14) ∧
    (plan.start.after schedule 15).pool.queueLength = 1 ∧
    (plan.start.after schedule 35).course = .ended ∧
    ∀ n, 35 ≤ n →
      (plan.start.after schedule n).calls = [.responded mail (line "one") (.done ())] ∧
      (plan.start.after schedule n).status.phase = .stopped ∧
      (plan.start.after schedule n).status.isRunning mail = false := by
  have checked : plan.check = .ok [] := rfl
  have started : plan.start.course = .running := rfl
  have going : ∀ m < 14, schedule m ≠ .cancel := by
    have before : ∀ m ∈ moves.take 14, m ≠ .cancel := by simp [moves]
    intro m hm
    have here : (moves.take 14)[m]? = moves[m]? := List.getElem?_take_of_lt hm
    have bound : m < (moves.take 14).length := hm
    rw [schedule, ← here, List.getElem?_eq_getElem bound]
    exact before _ (List.getElem_mem _)
  have ended : (plan.start.after schedule 35).course = .ended := by decide +kernel
  obtain ⟨-, shared, -, -, -, -, afterwards⟩ :=
    RunnerPlan.failures_are_contained checked schedule
  refine ⟨going, started, rfl, shared 14 started going, rfl, ended, fun n later => ?_⟩
  obtain ⟨-, phase, silent, -, calls⟩ := afterwards 35 n later ended
  exact ⟨calls, phase, silent mail⟩

end Outage

end Switchboard
