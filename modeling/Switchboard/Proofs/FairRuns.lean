import Mathlib.Data.Nat.Pairing
import Switchboard.Proofs.Containment
import Switchboard.Proofs.Executions
import Switchboard.Proofs.PoolLines

/-!
# Fair runs

A run is fair if whoever is able to act for ever acts at some time, and if time goes on
(`RunnerPlan.IsFair`); every run can go on fairly (`RunnerPlan.isFair_continued`). In a fair run
that is never told to stop, a worker that has a job in hand puts it down at some time
(`exists_finish`), a job that is in the queue comes into a worker's hands
(`exists_hands_of_queue`), and one that waits for room joins the queue (`exists_enters`), however
the jobs in front of it end.

Each of these is a matter of what can happen as long as it has not come about: a job in hand stays
there, the first jobs of the queue and the first idle worker stay the first, and so does the first
producer that waits. So somebody is able to act for ever.
-/

namespace Switchboard

/-! ## Who is able to act -/

/-- A job goes on at the latest when it has waited long enough. -/
theorem Work.canGoOn_of_due {κ : Type} {v : Work κ} {now : Nat}
    (due : ∀ time, v.due? = some time → time ≤ now) (cancelled : Bool) :
    v.canGoOn now cancelled = true := by
  have execution : ∀ {α : Type} (e : Execution α), (∀ time, e.due? = some time → time ≤ now) →
      e.canGoOn now cancelled = true := by
    intro α e due
    unfold Execution.due? at due
    unfold Execution.canGoOn
    split
    · next rest => simpa [rest] using due e.wake
    · next rest => simp [show e.wake ≤ now by simpa [rest] using due e.wake]
    · rfl
  obtain ⟨job, stage⟩ := v
  cases stage with
  | talking label since e => exact execution e due
  | working e => exact execution e due
  | _ => rfl

namespace RunnerPlan

variable {κ : Type}

/-- Whoever is able to act for ever from a move on acts by a later one, and time goes on. -/
structure IsFair (p : RunnerPlan κ) (schedule : Nat → Runner.Move) : Prop where
  acts : ∀ a n, (∀ m, n ≤ m → Runner.able a (p.start.after schedule m) = true) →
    ∃ m, n ≤ m ∧ schedule m = .act a
  time : ∀ ms, ∃ n, ms ≤ (p.start.after schedule n).now

variable {p : RunnerPlan κ} {schedule : Nat → Runner.Move} {n w k : Nat} {e : Nat × Work κ}
  {v : Work κ} {t : ScheduledTask} {a : Runner.Actor}

/-! ## Runs that go on fairly -/

/-- All actors, one after the other. -/
def nthActor (i : Nat) : Runner.Actor :=
  match i % 15 with
  | 0 => .course
  | 1 => .supervisor (i / 15)
  | 2 => .runLoop (i / 15)
  | 3 => .intake (i / 15)
  | 4 => .errorLoop (i / 15)
  | 5 => .worker (i / 15)
  | 6 => .timerExit (i / 15)
  | 7 => .timer (i / 15)
  | 8 => .plannerExit
  | 9 => .planner
  | 10 => .watcher
  | 11 => .sweeperExit
  | 12 => .sweeper
  | 13 => .gaugeExit
  | _ => .gauge

theorem exists_nthActor (a : Runner.Actor) : ∃ i, nthActor i = a := by
  have number : ∀ k c, c < 15 → (15 * k + c) % 15 = c ∧ (15 * k + c) / 15 = k := by omega
  cases a with
  | course => exact ⟨0, rfl⟩
  | supervisor k => exact ⟨15 * k + 1, by simp [nthActor, number k 1]⟩
  | runLoop k => exact ⟨15 * k + 2, by simp [nthActor, number k 2]⟩
  | intake k => exact ⟨15 * k + 3, by simp [nthActor, number k 3]⟩
  | errorLoop k => exact ⟨15 * k + 4, by simp [nthActor, number k 4]⟩
  | worker k => exact ⟨15 * k + 5, by simp [nthActor, number k 5]⟩
  | timerExit k => exact ⟨15 * k + 6, by simp [nthActor, number k 6]⟩
  | timer k => exact ⟨15 * k + 7, by simp [nthActor, number k 7]⟩
  | plannerExit => exact ⟨8, rfl⟩
  | planner => exact ⟨9, rfl⟩
  | watcher => exact ⟨10, rfl⟩
  | sweeperExit => exact ⟨11, rfl⟩
  | sweeper => exact ⟨12, rfl⟩
  | gaugeExit => exact ⟨13, rfl⟩
  | gauge => exact ⟨14, rfl⟩

/-- Again and again all actors have their turn, and time passes. -/
def rounds (n : Nat) : Runner.Move :=
  match n.unpair.1 with
  | 0 => .pass 1
  | i + 1 => .act (nthActor i)

theorem rounds_ne_cancel (n : Nat) : rounds n ≠ .cancel := by
  unfold rounds
  split <;> simp

/-- Any run can go on fairly. -/
theorem isFair_continued (p : RunnerPlan κ) {schedule : Nat → Runner.Move} {n : Nat}
    (goesOn : ∀ m, n ≤ m → schedule m = rounds m) : p.IsFair schedule := by
  have turn : ∀ i m, ∃ j, m ≤ j ∧ n ≤ j ∧ schedule j = rounds j ∧ j.unpair.1 = i := by
    intro i m
    have late := Nat.right_le_pair i (max n m)
    exact ⟨Nat.pair i (max n m), by omega, by omega, goesOn _ (by omega), by rw [Nat.unpair_pair]⟩
  constructor
  · intro a m _
    obtain ⟨i, rfl⟩ := exists_nthActor a
    obtain ⟨j, later, -, round, first⟩ := turn (i + 1) m
    exact ⟨j, later, by rw [round, rounds, first]⟩
  · intro ms
    induction ms with
    | zero => exact ⟨0, Nat.zero_le _⟩
    | succ ms ih =>
      obtain ⟨m, past⟩ := ih
      obtain ⟨j, later, -, round, first⟩ := turn 0 m
      have passes : (p.start.after schedule (j + 1)).now = (p.start.after schedule j).now + 1 := by
        rw [Runner.after, round, rounds, first]
        rfl
      have reached := (Runner.isLater_after p.start schedule later).now
      exact ⟨j + 1, by omega⟩

/-! ## Invariants -/

section Going

variable (going : ∀ m < n, schedule m ≠ .cancel)
include going

theorem waitsStarted_after : (p.start.after schedule n).WaitsStarted := by
  induction n with
  | zero =>
    intro l hl waiting
    obtain ⟨k, hk⟩ := List.getElem?_of_mem hl
    obtain ⟨bot, rfl⟩ := p.start_lane hk
    cases waiting
  | succ n ih =>
    exact (ih fun m hm => going m (hm.trans n.lt_succ_self)).move (going n n.lt_succ_self)

theorem poolMove_after (goesOn : schedule n ≠ .cancel) :
    (p.start.after schedule n).PoolMove (schedule n) (p.start.after schedule (n + 1)).pool := by
  obtain ⟨orderly, fit⟩ := p.isOrderly_after schedule n
  exact Runner.poolMove_move orderly fit (p.isServed_after going) (tasksAreFit_after going)
    (p.isOpen_after going) goesOn

theorem hasPlaces_after : (p.start.after schedule n).HasPlaces := by
  induction n with
  | zero =>
    have pool : (p.start.after schedule 0).pool =
      .ofSize p.settings.worker.workers p.settings.worker.queueSize := p.start_spec.2.1
    exact ⟨by rw [pool]; exact le_max_right _ _, by rw [pool]; exact Nat.zero_le _⟩
  | succ n ih =>
    have going' : ∀ m < n, schedule m ≠ .cancel := fun m hm => going m (hm.trans n.lt_succ_self)
    have move := poolMove_after (p := p) going' (going n n.lt_succ_self)
    exact ⟨move.capacity_eq ▸ (ih going').some, (ih going').of_poolMove move⟩

theorem nodup_producers_after : ((p.start.after schedule n).pool.waiting.map Prod.fst).Nodup :=
  Runner.nodup_producers (p.isOrderly_after schedule n).1 (p.isServed_after going)

theorem able_of_enters_after (waits : e ∈ (p.start.after schedule n).pool.waiting)
    (enters : (p.start.after schedule n).Enters (.act a) e) :
    Runner.able a (p.start.after schedule n) = true :=
  (Runner.able_of_enters (p.isOrderly_after schedule n).1 (p.isServed_after going)
    (waitsStarted_after going) (p.isOpen_after going) waits enters).1

/-- The job of a producer that enters has joined the queue. -/
theorem pool_after_enters (waits : e ∈ (p.start.after schedule n).pool.waiting)
    (enters : (p.start.after schedule n).Enters (schedule n) e) :
    (p.start.after schedule (n + 1)).pool =
      ((p.start.after schedule n).pool.withdraw e.1).push e.2 :=
  Runner.pool_of_enters (p.isOrderly_after schedule n).1 (p.isServed_after going)
    (waitsStarted_after going) (p.isOpen_after going) waits enters

end Going

/-! ## Progress -/

/-- As long as no job is taken, the first jobs stay in the queue and the first workers in line. -/
theorem isPrefix_after (going : ∀ m, schedule m ≠ .cancel) {m : Nat} (later : n ≤ m)
    (none : ∀ j, n ≤ j → j < m → ¬(p.start.after schedule j).Takes (schedule j)) :
    (p.start.after schedule n).pool.queue <+: (p.start.after schedule m).pool.queue ∧
      (p.start.after schedule n).pool.idle <+: (p.start.after schedule m).pool.idle := by
  induction m, later using Nat.le_induction with
  | base => exact ⟨List.prefix_rfl, List.prefix_rfl⟩
  | succ m later ih =>
    obtain ⟨queue, idle⟩ := ih fun j from_ before => none j from_ (before.trans m.lt_succ_self)
    have move := poolMove_after (p := p) (fun j (_ : j < m) => going j) (going m)
    obtain ⟨queue', idle'⟩ := move.isPrefix (none m later m.lt_succ_self)
    exact ⟨queue.trans queue', idle.trans idle'⟩

/-- What holds until an actor acts that is able to in the long run: the actor acts while it
holds. -/
theorem IsFair.exists_acts (fair : p.IsFair schedule) {holds : Nat → Prop} (now : holds n)
    (stays : ∀ m, n ≤ m → holds m →
      (schedule m = .act a → Runner.able a (p.start.after schedule m) = false) → holds (m + 1))
    {late : Nat} (able : ∀ m, late ≤ m → n ≤ m → holds m →
      Runner.able a (p.start.after schedule m) = true) :
    ∃ m, n ≤ m ∧ holds m ∧ schedule m = .act a ∧
      Runner.able a (p.start.after schedule m) = true := by
  by_contra never
  have always : ∀ m, n ≤ m → holds m := by
    intro m later
    induction m, later using Nat.le_induction with
    | base => exact now
    | succ m later ih =>
      refine stays m later ih fun acts => ?_
      by_contra isAble
      exact never ⟨m, later, ih, acts, by simpa using isAble⟩
  have forEver : ∀ m, max n late ≤ m → Runner.able a (p.start.after schedule m) = true :=
    fun m hm => able m (le_of_max_le_right hm) (le_of_max_le_left hm)
      (always m (le_of_max_le_left hm))
  obtain ⟨m, later, acts⟩ := fair.acts a (max n late) forEver
  exact never ⟨m, le_of_max_le_left later, always m (le_of_max_le_left later), acts,
    forEver m later⟩

section Progress

variable (fair : p.IsFair schedule)
include fair

/-! ### Workers -/

/-- A worker goes on with the job that it has in hand. -/
theorem exists_handles (hands : (p.start.after schedule n).pool.job? w = some v) :
    ∃ m, n ≤ m ∧ (p.start.after schedule m).pool.job? w = some v ∧
      schedule m = .act (.worker w) ∧ (p.start.after schedule m).workerIsAble w = true := by
  have late : ∃ late, ∀ time, v.due? = some time → time ≤ (p.start.after schedule late).now := by
    cases due : v.due? with
    | none => exact ⟨0, fun time h => by cases h⟩
    | some time =>
      obtain ⟨late, past⟩ := fair.time time
      exact ⟨late, fun time' h => by cases h; exact past⟩
  obtain ⟨late, due⟩ := late
  have able : ∀ m, late ≤ m → n ≤ m → (p.start.after schedule m).pool.job? w = some v →
      (p.start.after schedule m).workerIsAble w = true := by
    intro m past _ held
    rw [Runner.workerIsAble, held]
    refine Work.canGoOn_of_due (fun time h => ?_) _
    exact (due time h).trans (Runner.isLater_after p.start schedule past).now
  refine fair.exists_acts hands (fun m _ held unable => ?_) able
  obtain ⟨orderly, fit⟩ := p.isOrderly_after schedule m
  by_cases acts : schedule m = .act (.worker w)
  · rwa [after_of_unable acts (unable acts)]
  · exact (Runner.job?_move orderly fit acts).trans held

variable (going : ∀ m, schedule m ≠ .cancel)
include going

/-- A worker puts its job down. -/
theorem exists_finish (hands : (p.start.after schedule n).pool.job? w = some v) :
    ∃ m, n ≤ m ∧ (p.start.after schedule (m + 1)).pool =
      (p.start.after schedule m).pool.finish w := by
  induction rank : v.stage.rank using WellFoundedLT.induction generalizing n v with
  | ind x ih =>
    obtain ⟨m, later, held, acts, able⟩ := exists_handles fair hands
    have earlier : ∀ j < m, schedule j ≠ .cancel := fun j _ => going j
    obtain ⟨orderly, fit⟩ := p.isOrderly_after schedule m
    obtain ⟨next, pool, closer⟩ := Runner.exists_putDown_carryOn orderly fit
      (p.isServed_after earlier) (tasksAreFit_after earlier) held
    have after : (p.start.after schedule (m + 1)).pool =
        Runner.putDown (p.start.after schedule m).pool w next := by
      have isAble : Runner.able (.worker w) (p.start.after schedule m) = true := able
      rw [Runner.after, acts, Runner.move_of_able isAble, ← pool]
      show ((p.start.after schedule m).workerStep w).pool = _
      simp only [Runner.workerStep, held]
    cases next with
    | none => exact ⟨m, later, after⟩
    | some u =>
      have held' : (p.start.after schedule (m + 1)).pool.job? w = some u := by
        rw [after, Runner.job?_putDown_self held]
      obtain ⟨j, later', finished⟩ := ih _ (rank ▸ closer u rfl) held' rfl
      exact ⟨j, by omega, finished⟩

/-- There is an idle worker. -/
theorem exists_idle (n : Nat) : ∃ m, n ≤ m ∧ (p.start.after schedule m).pool.idle ≠ [] := by
  by_cases idle : (p.start.after schedule n).pool.idle = []
  · have workers := workers_after (p := p) (n := n) fun m _ => going m
    rw [Pool.workers, idle, List.length_nil, Nat.zero_add] at workers
    have busy : (p.start.after schedule n).pool.busy ≠ [] := by
      intro none
      rw [none, List.length_nil] at workers
      omega
    obtain ⟨⟨w, v⟩, hb⟩ := List.exists_mem_of_ne_nil _ busy
    have hands := (p.isOrderly_after schedule n).1.pool.job?_of_mem hb
    obtain ⟨m, later, finished⟩ := exists_finish fair going hands
    exact ⟨m + 1, by omega, by simp [finished, Pool.finish]⟩
  · exact ⟨n, le_rfl, idle⟩

/-! ### The queue -/

/-- From a queue that is not empty a job is taken. -/
theorem exists_takes (queued : (p.start.after schedule n).pool.queue ≠ []) :
    ∃ m, n ≤ m ∧ (p.start.after schedule m).Takes (schedule m) := by
  by_contra never
  have none : ∀ j, n ≤ j → ¬(p.start.after schedule j).Takes (schedule j) :=
    fun j later takes => never ⟨j, later, takes⟩
  obtain ⟨i, later, some⟩ := exists_idle fair going n
  obtain ⟨w, line, idle⟩ := List.exists_cons_of_ne_nil some
  obtain ⟨x, rest, queue⟩ := List.exists_cons_of_ne_nil queued
  have offered : ∀ m, i ≤ m → ((p.start.after schedule m).pool.offered? w).isSome = true := by
    intro m hm
    obtain ⟨line', first⟩ :=
      (isPrefix_after going hm fun j hj _ => none j (later.trans hj)).2
    obtain ⟨rest', front⟩ :=
      (isPrefix_after going (later.trans hm) fun j hj _ => none j hj).1
    rw [idle] at first
    rw [queue] at front
    have isOpen := p.isOpen_after (n := m) fun j _ => going j
    simp [Pool.offered?, Pool.isNext, isOpen, ← first, ← front]
  obtain ⟨m, hm, acts⟩ := fair.acts (.worker w) i fun m hm => by
    obtain ⟨x, offers⟩ := Option.isSome_iff_exists.mp (offered m hm)
    exact Runner.workerIsAble_of_offered (p.isOrderly_after schedule m).1 offers
  exact none m (later.trans hm) ⟨w, acts, offered m hm⟩

/-- The first job of the queue comes into a worker's hands before any other one. -/
theorem exists_takes_first {rest : List (Work κ)}
    (queue : (p.start.after schedule n).pool.queue = v :: rest) :
    ∃ m w, n ≤ m ∧ (p.start.after schedule m).pool.job? w = some v ∧
      rest <+: (p.start.after schedule m).pool.queue := by
  classical
  have queued : (p.start.after schedule n).pool.queue ≠ [] := by simp [queue]
  have takes := exists_takes fair going queued
  obtain ⟨later, w, acts, offers⟩ := Nat.find_spec takes
  generalize first : Nat.find takes = m at later acts offers
  have none : ∀ j, n ≤ j → j < m → ¬(p.start.after schedule j).Takes (schedule j) :=
    fun j hj before some => Nat.find_min takes (first ▸ before) ⟨hj, some⟩
  obtain ⟨x, offered⟩ := Option.isSome_iff_exists.mp offers
  obtain ⟨queue', here, after, hands, -⟩ := Runner.exists_taken
    (p.isOrderly_after schedule m).1 (p.isOpen_after fun j _ => going j) offered
  obtain ⟨more, front⟩ := (isPrefix_after going later none).1
  rw [queue, here] at front
  obtain ⟨rfl, rfl⟩ := List.cons.inj front
  refine ⟨m + 1, w, by omega, ?_, ?_⟩
  · rw [Runner.after, acts, hands]
  · rw [Runner.after, acts, after]
    exact List.prefix_append _ _

/-- A job of the queue comes into a worker's hands. -/
theorem exists_hands_of_queue (queued : v ∈ (p.start.after schedule n).pool.queue) :
    ∃ m w, n ≤ m ∧ (p.start.after schedule m).pool.job? w = some v := by
  obtain ⟨front, back, queue⟩ := List.append_of_mem queued
  have inFront : front ++ [v] <+: (p.start.after schedule n).pool.queue := by simp [queue]
  clear queue queued
  induction front generalizing n with
  | nil =>
    obtain ⟨rest, queue⟩ := inFront
    obtain ⟨m, w, later, hands, -⟩ := exists_takes_first fair going queue.symm
    exact ⟨m, w, later, hands⟩
  | cons x front ih =>
    obtain ⟨rest, queue⟩ := inFront
    obtain ⟨m, w, later, -, left⟩ := exists_takes_first fair going queue.symm
    obtain ⟨j, w', later', hands⟩ := ih ((List.prefix_append _ _).trans left)
    exact ⟨j, w', later.trans later', hands⟩

/-! ### Those who wait -/

/-- There is room for the first that waits, unless its job has joined the queue. -/
theorem exists_room (n : Nat) : ∃ m, n ≤ m ∧
    (p.start.after schedule m).pool.queue.length < (p.start.after schedule m).pool.capacity := by
  obtain ⟨some, -⟩ := hasPlaces_after (p := p) (n := n) fun m _ => going m
  by_cases room : (p.start.after schedule n).pool.queue.length <
      (p.start.after schedule n).pool.capacity
  · exact ⟨n, le_rfl, room⟩
  · have queued : (p.start.after schedule n).pool.queue ≠ [] := by
      intro none
      rw [none, List.length_nil] at room
      omega
    obtain ⟨m, later, w, acts, offers⟩ := exists_takes fair going queued
    obtain ⟨x, offered⟩ := Option.isSome_iff_exists.mp offers
    obtain ⟨queue', here, after, -, capacity⟩ := Runner.exists_taken
      (p.isOrderly_after schedule m).1 (p.isOpen_after fun j _ => going j) offered
    have enough := (hasPlaces_after (p := p) (n := m) fun j _ => going j).enough
    rw [here, List.length_cons] at enough
    refine ⟨m + 1, by omega, ?_⟩
    rw [Runner.after, acts, after, capacity]
    omega

/-- The first that waits puts its job into the queue. -/
theorem exists_enters_first {rest : List (Nat × Work κ)}
    (waiting : (p.start.after schedule n).pool.waiting = e :: rest) :
    ∃ m, n ≤ m ∧ (∃ rest', (p.start.after schedule m).pool.waiting = e :: rest') ∧
      (p.start.after schedule m).Enters (schedule m) e := by
  by_contra never
  have alone := fun m => nodup_producers_after (p := p) fun j (_ : j < m) => going j
  have first : ∀ m, n ≤ m → ∃ rest', (p.start.after schedule m).pool.waiting = e :: rest' := by
    intro m later
    induction m, later using Nat.le_induction with
    | base => exact ⟨rest, waiting⟩
    | succ m later ih =>
      obtain ⟨rest', here⟩ := ih
      have move := poolMove_after (p := p) (fun j (_ : j < m) => going j) (going m)
      have behind : (p.start.after schedule m).IsBehind e 0 := ⟨[], rest', here, le_rfl⟩
      obtain ⟨front, back, there, none⟩ :=
        move.isBehind (alone m) (fun enters => never ⟨m, later, ⟨rest', here⟩, enters⟩) behind
      obtain rfl := List.eq_nil_of_length_eq_zero (Nat.le_zero.mp none)
      exact ⟨back, there⟩
  obtain ⟨i, later, free⟩ := exists_room fair going n
  have room : ∀ m, i ≤ m → (p.start.after schedule m).pool.queue.length <
      (p.start.after schedule m).pool.capacity := by
    intro m hm
    induction m, hm using Nat.le_induction with
    | base => exact free
    | succ m hm ih =>
      obtain ⟨rest', here⟩ := first m (later.trans hm)
      have move := poolMove_after (p := p) (fun j (_ : j < m) => going j) (going m)
      exact move.room here
        (fun enters => never ⟨m, later.trans hm, ⟨rest', here⟩, enters⟩) ih
  have mem : e ∈ (p.start.after schedule n).pool.waiting := by simp [waiting]
  obtain ⟨a, acts⟩ := Runner.exists_producer? (p.isOrderly_after schedule n).1 mem
  have enters : ∀ m, i ≤ m → (p.start.after schedule m).Enters (.act a) e := by
    intro m hm
    obtain ⟨rest', here⟩ := first m (later.trans hm)
    exact ⟨acts, Pool.admitted?_head here (room m hm)⟩
  obtain ⟨m, hm, acts'⟩ := fair.acts a i fun m hm => by
    obtain ⟨rest', here⟩ := first m (later.trans hm)
    exact able_of_enters_after (fun j _ => going j) (by simp [here]) (enters m hm)
  exact never ⟨m, later.trans hm, first m (later.trans hm), acts' ▸ enters m hm⟩

/-- Whoever waits with so many in front of it puts its job into the queue. -/
theorem exists_enters_behind (behind : (p.start.after schedule n).IsBehind e k) :
    ∃ m, n ≤ m ∧ (p.start.after schedule m).Enters (schedule m) e ∧
      e ∈ (p.start.after schedule m).pool.waiting := by
  induction k generalizing n with
  | zero =>
    obtain ⟨front, back, waiting, none⟩ := behind
    obtain rfl := List.eq_nil_of_length_eq_zero (Nat.le_zero.mp none)
    obtain ⟨m, later, ⟨rest, here⟩, enters⟩ := exists_enters_first fair going waiting
    exact ⟨m, later, enters, by simp [here]⟩
  | succ k ih =>
    by_contra never
    have alone := fun m => nodup_producers_after (p := p) fun j (_ : j < m) => going j
    have moves := fun m => poolMove_after (p := p) (fun j (_ : j < m) => going j) (going m)
    have waits : ∀ m, n ≤ m → (p.start.after schedule m).IsBehind e (k + 1) := by
      intro m later
      induction m, later using Nat.le_induction with
      | base => exact behind
      | succ m later ih =>
        exact (moves m).isBehind (alone m) (fun enters => never ⟨m, later, enters, ih.mem⟩) ih
    have head : ∃ f rest, (p.start.after schedule n).pool.waiting = f :: rest :=
      List.exists_cons_of_ne_nil (List.ne_nil_of_mem behind.mem)
    obtain ⟨f, rest, waiting⟩ := head
    obtain ⟨m, later, ⟨rest', here⟩, enters⟩ := exists_enters_first fair going waiting
    obtain ⟨front, back, there, few⟩ := waits m later
    cases front with
    | nil =>
      obtain ⟨rfl, -⟩ := List.cons.inj (here.symm.trans there)
      exact never ⟨m, later, enters, by simp [here]⟩
    | cons d front =>
      have first := here.symm.trans there
      obtain ⟨rfl, -⟩ := List.cons.inj first
      have pool := pool_after_enters (fun j _ => going j) (by simp [here]) enters
      have closer : (p.start.after schedule (m + 1)).IsBehind e k :=
        Runner.isBehind_of_pool (alone m) there (Nat.le_of_succ_le_succ few) pool
      obtain ⟨j, later', enters'⟩ := ih closer
      exact never ⟨j, by omega, enters'⟩

/-- Whoever waits puts its job into the queue. -/
theorem exists_enters (waits : e ∈ (p.start.after schedule n).pool.waiting) :
    ∃ m, n ≤ m ∧ (p.start.after schedule m).Enters (schedule m) e ∧
      e ∈ (p.start.after schedule m).pool.waiting := by
  obtain ⟨front, back, waiting⟩ := List.append_of_mem waits
  exact exists_enters_behind fair going ⟨front, back, waiting, le_rfl⟩

end Progress

end RunnerPlan

end Switchboard
