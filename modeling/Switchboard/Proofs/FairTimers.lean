import Switchboard.Proofs.FairRuns

/-!
# Timers in fair runs

Only a timer's own steps make it fire or deal with a firing: every other move leaves it as it is,
tells it to stop, or takes it away when it can leave (`Runner.lets_move`). A timer that has fired
waits at the pool until the firing has been dealt with (`Runner.FiringWaits`), and is held up only
while the pool has no room (`RunnerPlan.timer_waits`). So in a fair run that is never told to stop
every firing is dealt with (`RunnerPlan.exists_rearmed`), and a timer that is due at some time fires
unless it is told to stop (`RunnerPlan.exists_firing`).
-/

namespace Switchboard

namespace Timers

variable {s : Timers} {n k : Nat} {x : Timer}

theorem timer?_update {f : Timer → Timer} (keeps : Keeps f) (s : Timers) (n k : Nat) :
    (s.update n f).timer? k = if k = n then (s.timer? k).map f else s.timer? k := by
  have number : ∀ x : Timer, (if x.number = n then f x else x).number = x.number := by
    intro x
    split
    · exact keeps.number x
    · rfl
  rw [timer?_map rfl number]
  cases found : s.timer? k with
  | none => simp
  | some x =>
    rw [Option.map_some, number_of_timer? found]
    split <;> simp

theorem timer?_leave (other : k ≠ n) : (s.leave n).timer? k = s.timer? k := by
  rw [timer?, leave, List.find?_filter, timer?]
  refine List.find?_congr fun x _ => ?_
  by_cases here : x.number = k
  · simp [here, other]
  · simp [here]

/-- What may become of a timer, if there is one of its number, otherwise than by its own steps. -/
inductive Lets : Option Timer → Option Timer → Prop
  | stays (before : Option Timer) : Lets before before
  | stops (x : Timer) : Lets (some x) (some { x with isStopped := true })
  | leaves (x : Timer) (able : x.canLeave = true) : Lets (some x) none
  | comes (x : Timer) (idle : x.isFiring = false) : Lets none (some x)

theorem lets_stop {t : Timers}
    (timers : t.timers = s.timers.map fun x => { x with isStopped := true }) (n : Nat) :
    Lets (s.timer? n) (t.timer? n) := by
  rw [timer?_map timers fun _ => rfl]
  cases s.timer? n with
  | none => exact .stays _
  | some x => exact .stops x

theorem lets_leave (able : (s.timer? k).any Timer.canLeave = true) (n : Nat) :
    Lets (s.timer? n) ((s.leave k).timer? n) := by
  by_cases own : n = k
  · subst own
    obtain ⟨x, found, canLeave⟩ := (Option.any_eq_true ..).mp able
    have gone : (s.leave n).timer? n = none := by
      rw [timer?, leave, List.find?_eq_none]
      intro x hx
      simpa using (List.mem_filter.mp hx).2
    rw [found, gone]
    exact .leaves x canLeave
  · rw [timer?_leave own]
    exact .stays _

theorem lets_schedule (s : Timers) (task : ScheduledTask) (now : Nat) (clock : Timestamp)
    (n : Nat) : Lets (s.timer? n) ((s.schedule task now clock).timer? n) := by
  have numbers : ∀ x : Timer, (if ((s.current.filter fun e => e.1 = task.key).map Prod.snd).contains
      x.number then { x with isStopped := true } else x).number = x.number := by
    intro x
    split <;> rfl
  have cancelled := timer?_map (s := s) (t := s.cancel task.key) (n := n) rfl numbers
  have after : (s.schedule task now clock).timer? n =
      ((s.cancel task.key).timer? n).or
        ([{ Timer.start s.made task now clock with isStopped := s.closed }].find?
          fun x => x.number == n) := List.find?_append
  rw [after, cancelled]
  cases s.timer? n with
  | some x =>
    rw [Option.map_some, Option.some_or]
    split
    · exact .stops x
    · exact .stays _
  | none =>
    rw [Option.map_none, Option.none_or]
    cases new : List.find? _ _ with
    | none => exact .stays _
    | some x =>
      refine .comes x ?_
      rw [List.mem_singleton.mp (List.mem_of_find?_eq_some new)]
      rfl

end Timers

namespace Runner

variable {κ : Type} {r : Runner κ} {m : Move} {n k : Nat} {x : Timer}

/-! ## Timers that are there -/

theorem timer?_rearm (r : Runner κ) (n k : Nat) :
    (r.rearm n).timers.timer? k =
      if k = n then (r.timers.timer? k).map fun x => x.rearm r.now r.clock
      else r.timers.timer? k :=
  Timers.timer?_update (Timers.keeps_rearm r.now r.clock) r.timers n k

/-- A timer's step changes no other timer. -/
theorem timer?_timerStep (other : k ≠ n) :
    (r.timerStep n).timers.timer? k = r.timers.timer? k := by
  have fired := Timers.timer?_update (Timers.keeps_fire r.now) r.timers n k
  rw [if_neg other] at fired
  have rearmed : ∀ r' : Runner κ, r'.timers.timer? k = r.timers.timer? k →
      (r'.rearm n).timers.timer? k = r.timers.timer? k := by
    intro r' same
    rw [timer?_rearm, if_neg other, same]
  unfold timerStep
  split
  · rfl
  · split
    · dsimp only
      split
      · exact rearmed _ rfl
      · split
        · rfl
        · exact rearmed _ rfl
    · unfold fire
      dsimp only
      split
      · exact rearmed _ fired
      · split
        · exact rearmed _ fired
        · split
          · exact rearmed _ fired
          · exact fired

/-- What becomes of a timer by a move that is not its own step. -/
theorem lets_move (r : Runner κ) (other : m ≠ .act (.timer n)) :
    Timers.Lets (r.timers.timer? n) ((r.move m).timers.timer? n) := by
  by_cases timer : ∃ k, m = .act (.timer k)
  · obtain ⟨k, rfl⟩ := timer
    have apart : n ≠ k := fun same => other (by rw [same])
    simp only [move]
    split
    · have same : (step (.timer k) r).timers.timer? n = r.timers.timer? n := timer?_timerStep apart
      rw [same]
      exact .stays _
    · exact .stays _
  · show Timers.Lets _ ((r.move m).background.timers.timer? n)
    have h := r.backgroundMove_move m
    generalize (r.move m).background = b at h
    cases h with
    | @ticks k => exact absurd ⟨k, rfl⟩ timer
    | leaves k able => exact Timers.lets_leave able n
    | plans t => exact Timers.lets_schedule r.timers t r.now r.clock n
    | goesOn =>
      show Timers.Lets _ (r.courseStep.timers.timer? n)
      unfold courseStep
      split
      case h_3 => exact Timers.lets_stop rfl n
      all_goals exact .stays _
    | cancels => exact Timers.lets_stop rfl n
    | _ => exact .stays _

/-! ## Firings that are being dealt with -/

/-- A timer that has fired waits at the pool until the firing has been dealt with. -/
def FiringWaits (r : Runner κ) : Prop :=
  ∀ n, r.timers.isFiring n = true → ∃ e ∈ r.pool.waiting, e.1 = timerProducer n

/-- A firing that has been dealt with is over. -/
theorem isFiring_rearm (r : Runner κ) (n : Nat) : (r.rearm n).timers.isFiring n = false := by
  rw [Timers.isFiring, timer?_rearm, if_pos rfl]
  cases r.timers.timer? n <;> rfl

/-- After its own step a timer waits, if the firing has not been dealt with at once. -/
theorem FiringWaits.timerStep (h : r.FiringWaits) (isOpen : r.pool.closed = false)
    (firing : (r.timerStep n).timers.isFiring n = true) :
    ∃ e ∈ (r.timerStep n).pool.waiting, e.1 = timerProducer n := by
  have dealtWith : ∀ r' : Runner κ, (r'.rearm n).timers.isFiring n = true →
      ∃ e ∈ (r'.rearm n).pool.waiting, e.1 = timerProducer n := by
    intro r' fires
    rw [isFiring_rearm] at fires
    cases fires
  revert firing
  unfold Runner.timerStep
  split
  · exact h n
  · split
    · dsimp only
      rw [if_neg (by simp [isOpen])]
      split
      · exact h n
      · exact dealtWith _
    · unfold fire
      dsimp only
      split
      · exact dealtWith _
      · rw [if_neg (by simp [isOpen, emit])]
        split
        · exact dealtWith _
        · exact fun _ => ⟨_, List.mem_append_right _ (List.mem_singleton.mpr rfl), rfl⟩

theorem eq_of_producer? (h : m.producer? = some (timerProducer n)) : m = .act (.timer n) := by
  unfold Move.producer? at h
  split at h
  · next k => exact absurd (Option.some_inj.mp h) (intakeProducer_ne_timerProducer k n)
  · next k => rw [timerProducer_inj (Option.some_inj.mp h)]
  · cases h

theorem FiringWaits.move (h : r.FiringWaits) (orderly : r.IsOrderly) (fit : r.IsFit)
    (isOpen : r.pool.closed = false) (m : Move) : (r.move m).FiringWaits := by
  intro n firing
  by_cases own : m = .act (.timer n)
  · subst own
    simp only [Runner.move] at firing ⊢
    split at firing
    · next able =>
      rw [if_pos able]
      exact h.timerStep isOpen firing
    · next unable =>
      rw [if_neg unable]
      exact h n firing
  · have before : r.timers.isFiring n = true := by
      have lets := lets_move r own
      rw [Timers.isFiring] at firing ⊢
      generalize r.timers.timer? n = old, (r.move m).timers.timer? n = new at lets firing
      cases lets with
      | stays => exact firing
      | stops => exact firing
      | leaves => cases firing
      | comes x idle =>
        rw [Option.any_some, idle] at firing
        cases firing
    obtain ⟨e, waits, producer⟩ := h n before
    have other : m.producer? ≠ some e.1 := fun acts => own (eq_of_producer? (producer ▸ acts))
    exact ⟨e, mem_waiting_move orderly fit waits other, producer⟩

end Runner

/-! ## Runs -/

namespace RunnerPlan

variable {κ : Type} {p : RunnerPlan κ} {schedule : Nat → Runner.Move} {i n : Nat} {x : Timer}

theorem firingWaits_after (going : ∀ m < n, schedule m ≠ .cancel) :
    (p.start.after schedule n).FiringWaits := by
  induction n with
  | zero =>
    intro k firing
    rw [Runner.after, p.start_timers.1] at firing
    cases firing
  | succ n ih =>
    have going' : ∀ m < n, schedule m ≠ .cancel := fun m hm => going m (hm.trans n.lt_succ_self)
    obtain ⟨orderly, fit⟩ := p.isOrderly_after schedule n
    exact (ih going').move orderly fit (p.isOpen_after going') (schedule n)

/-- A timer that cannot go on waits for its time, or in a firing while the pool has no room. -/
theorem timer_waits (going : ∀ m < n, schedule m ≠ .cancel) {k : Nat}
    (found : (p.start.after schedule n).timers.timer? k = some x)
    (unable : Runner.able (.timer k) (p.start.after schedule n) = false) :
    (x.isFiring = true ∧ (p.start.after schedule n).pool.hasRoom = false) ∨
      (x.isFiring = false ∧ ∀ due, x.due = some due → (p.start.after schedule n).now < due) := by
  change Runner.timerIsAble _ k = false at unable
  rw [Runner.timerIsAble, found, Option.any_some] at unable
  cases firing : x.isFiring with
  | true =>
    rw [firing, if_pos rfl, Runner.poolAnswers] at unable
    have fires := (Timers.isFiring_of_timer? found).trans firing
    obtain ⟨e, waits, producer⟩ := firingWaits_after going k fires
    have waiting : (p.start.after schedule n).pool.isWaiting (Runner.timerProducer k) = true :=
      List.any_eq_true.mpr ⟨e, waits, beq_iff_eq.mpr producer⟩
    refine .inl ⟨rfl, Pool.hasRoom_eq_false waiting ?_⟩
    simpa [waiting, p.isOpen_after going] using unable
  | false =>
    refine .inr ⟨rfl, fun due isDue => ?_⟩
    simpa [Timer.canFire, firing, isDue] using unable

variable (fair : p.IsFair schedule) (going : ∀ m, schedule m ≠ .cancel)
include fair

/-- A timer that is due at some time fires, unless it is told to stop before. -/
theorem exists_firing (found : (p.start.after schedule i).timers.timer? n = some x)
    (idle : x.isFiring = false) (due : x.due.isSome = true) :
    ∃ m, i ≤ m ∧ (schedule m = .act (.timer n) ∧
        (p.start.after schedule m).firing? (schedule m) = some x.task ∨
      ∃ y, (p.start.after schedule m).timers.timer? n = some y ∧ y.isStopped = true) := by
  by_contra never
  obtain ⟨time, due⟩ := Option.isSome_iff_exists.mp due
  obtain ⟨late, past⟩ := fair.time time
  have goesOn : x.isStopped = false := by
    by_contra stopped
    exact never ⟨i, le_rfl, .inr ⟨x, found, by simpa using stopped⟩⟩
  have able : ∀ m, late ≤ m → i ≤ m → (p.start.after schedule m).timers.timer? n = some x →
      Runner.able (.timer n) (p.start.after schedule m) = true := by
    intro m later _ there
    have reached := past.trans (Runner.isLater_after p.start schedule later).now
    show (p.start.after schedule m).timerIsAble n = true
    simp [Runner.timerIsAble, there, Timer.canFire, idle, due, reached]
  have stays : ∀ m, i ≤ m → (p.start.after schedule m).timers.timer? n = some x →
      (schedule m = .act (.timer n) →
        Runner.able (.timer n) (p.start.after schedule m) = false) →
      (p.start.after schedule (m + 1)).timers.timer? n = some x := by
    intro m later there unable
    by_cases acts : schedule m = .act (.timer n)
    · rw [Runner.after, acts, Runner.move_of_unable (unable acts), there]
    · have lets := Runner.lets_move (p.start.after schedule m) acts
      rw [there] at lets
      show ((p.start.after schedule m).move (schedule m)).timers.timer? n = some x
      generalize after : ((p.start.after schedule m).move (schedule m)).timers.timer? n = y at lets
      cases lets with
      | stays => rfl
      | stops => exact absurd ⟨m + 1, by omega, .inr ⟨_, after, rfl⟩⟩ never
      | leaves _ able => simp [Timer.canLeave, goesOn, due] at able
  obtain ⟨m, later, there, acts, able⟩ := fair.exists_acts found stays able
  refine never ⟨m, later, .inl ⟨acts, ?_⟩⟩
  have fires : (p.start.after schedule m).timerIsAble n = true := able
  simp only [Runner.timerIsAble, there, Option.any_some, idle, Bool.false_eq_true,
    if_false] at fires
  simp [Runner.firing?, acts, there, fires]

include going in
/-- Every firing is dealt with. -/
theorem exists_rearmed (found : (p.start.after schedule i).timers.timer? n = some x)
    (firing : x.isFiring = true) :
    ∃ m, i ≤ m ∧ ∃ y, (p.start.after schedule m).timers.timer? n = some y ∧
      y.isFiring = false := by
  have fires : (p.start.after schedule i).timers.isFiring n = true :=
    (Timers.isFiring_of_timer? found).trans firing
  obtain ⟨e, waits, producer⟩ := firingWaits_after (fun m _ => going m) n fires
  obtain ⟨m, later, enters, there⟩ := exists_enters fair going waits
  have earlier : ∀ j < m, schedule j ≠ .cancel := fun j _ => going j
  obtain ⟨orderly, -⟩ := p.isOrderly_after schedule m
  have task := orderly.task_of_timer e there producer
  have mem : e ∈ (p.start.after schedule m).waitingTasks :=
    List.mem_filter.mpr ⟨there, by simp [Work.ofTask, task]⟩
  obtain ⟨n', producer', still⟩ := (p.isServed_after earlier).firing e mem
  obtain rfl : n = n' := Runner.timerProducer_inj (producer.symm.trans producer')
  obtain ⟨y, here, stillFires⟩ := (Option.any_eq_true ..).mp still
  have own : schedule m = .act (.timer n) := Runner.eq_of_producer? (producer ▸ enters.1)
  have isOpen := p.isOpen_after earlier
  have able := able_of_enters_after earlier there (own ▸ enters)
  have admitted : (p.start.after schedule m).pool.admitted? (Runner.timerProducer n) = some e.2 :=
    producer ▸ enters.2
  refine ⟨m + 1, by omega, y.rearm (p.start.after schedule m).now (p.start.after schedule m).clock,
    ?_, rfl⟩
  rw [Runner.after, own, Runner.move_of_able able]
  show ((p.start.after schedule m).timerStep n).timers.timer? n = _
  simp only [Runner.timerStep, here, stillFires, isOpen, admitted, Bool.false_eq_true, if_false,
    if_true]
  rw [Runner.timer?_rearm, if_pos rfl, here]
  rfl

end RunnerPlan

end Switchboard
