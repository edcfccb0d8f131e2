import Switchboard.Proofs.StandingTimers
import Switchboard.Task.Timetable

/-!
# What a stopped timer still does

Tasks are scheduled and cancelled at any time, in any order with the steps of the timers, and
dealing with a firing may take any time (`Timetable.Move`). At each moment no key has two timers
that go on, and a timer is told to stop when its task is scheduled anew or cancelled and when all
are shut down.

That does not keep it from firing. When a firing has taken so long that the next one is due, the
timer finds both the tick and the order to stop and may take either (`Timetable.isTie`): one that
takes the tick fires after it has been told to stop (`stopped_timer_fires_again`). This is the only
way, `stopped_timers_fire_only_in_ties`: a timer that has been told to stop fires as often as the
tick wins a tie.
-/

namespace Switchboard

namespace Timetable

open Timers (IsStopped Descends)

variable {t : Timetable} {timer : Timer} {n k : Nat}

/-! ## Runs -/

/-- What can happen to a timetable. -/
inductive Move where
  /-- An actor takes a step, if it is able to. -/
  | act (a : Actor)
  | schedule (task : ScheduledTask)
  | cancel (key : TaskKey)
  | shutdown
  /-- All timers are told to stop, later ones too. -/
  | close
  /-- Time passes, in milliseconds. -/
  | pass (ms : Nat)
  /-- The firings that begin from now on take this long. -/
  | lasting (ms : Nat)

def move (t : Timetable) : Move → Timetable
  | .act a => if able a t then step a t else t
  | .schedule task => t.schedule task
  | .cancel key => { t with timers := t.timers.cancel key }
  | .shutdown => { t with timers := t.timers.shutdown }
  | .close => { t with timers := t.timers.close }
  | .pass ms => { t with now := t.now + ms }
  | .lasting ms => { t with firing := ms }

def run (t : Timetable) (moves : List Move) : Timetable := moves.foldl move t

/-- A timer can both leave and fire. -/
def isTie (t : Timetable) (n : Nat) : Bool := able (.exit n) t && able (.timer n) t

/-- How often a timer fires that could have left instead. -/
def ties (n : Nat) : Timetable → List Move → Nat
  | _, [] => 0
  | t, m :: rest =>
    let later := ties n (t.move m) rest
    match m with
    | .act (.timer k) => if k = n ∧ t.isTie n then later + 1 else later
    | _ => later

/-! ## Firings in progress -/

theorem lookup_ends_eq_none : t.ends.lookup n = none ↔ n ∉ t.ends.map Prod.fst := by
  simp only [List.lookup_eq_none_iff, List.mem_map, not_exists, not_and, bne_iff_ne]
  exact forall₂_congr fun _ _ => ne_comm

/-- The timers are sound, and those that fire are the ones whose firing has an end. -/
structure IsSound (t : Timetable) : Prop where
  timers : t.timers.IsSound
  firing : ∀ timer ∈ t.timers.timers, timer.isFiring = true ↔ timer.number ∈ t.ends.map Prod.fst
  ends : ∀ n ∈ t.ends.map Prod.fst, n < t.timers.made

theorem isSound_start (origin : Timestamp) : IsSound { origin } where
  timers := Timers.isSound_empty
  firing := by simp
  ends := by simp

/-- The timetable stays sound when no firing begins or ends. -/
theorem IsSound.descends {s : Timers} (sound : t.IsSound) (timers : s.IsSound)
    (h : Descends t.timers s) : IsSound { t with timers := s } where
  timers := timers
  firing := by
    intro timer present
    rcases h.timers timer present with ⟨new, idle⟩ | ⟨old, before, same, firing, -⟩
    · refine iff_of_false (by simp [idle]) fun ending => ?_
      exact absurd (sound.ends _ ending) (Nat.not_lt_of_le (new ▸ Nat.le_refl _))
    · rw [← firing, ← same]
      exact sound.firing old before
  ends n ending := Nat.lt_of_lt_of_le (sound.ends n ending) h.made

theorem exists_of_able_timer (idle : t.ends.lookup n = none) (fires : able (.timer n) t = true) :
    ∃ timer, t.timers.timer? n = some timer ∧ timer.canFire t.now = true := by
  simp only [able, idle] at fires
  exact (Option.any_eq_true ..).mp fires

theorem IsSound.fire (sound : t.IsSound) (idle : t.ends.lookup n = none)
    (fires : able (.timer n) t = true) : (t.go n).IsSound := by
  simp only [go, idle]
  refine ⟨sound.timers.update n (Timers.keeps_fire t.now), fun timer present => ?_,
    fun k ending => ?_⟩
  · obtain ⟨old, before, rfl⟩ := Timers.mem_update.mp present
    split
    · next same => simp [Timer.fire, same]
    · next other => simpa [other] using sound.firing old before
  · obtain ⟨timer, found, -⟩ := exists_of_able_timer idle fires
    simp only [List.map_append, List.map_cons, List.map_nil, List.mem_append,
      List.mem_singleton] at ending
    rcases ending with earlier | rfl
    · exact sound.ends k earlier
    · exact Timers.number_of_timer? found ▸
        sound.timers.made timer (Timers.mem_of_timer? found)

theorem IsSound.rearm (sound : t.IsSound) {time : Nat} (ending : t.ends.lookup n = some time) :
    (t.go n).IsSound := by
  simp only [go, ending]
  refine ⟨sound.timers.update n (Timers.keeps_rearm t.now t.clock), fun timer present => ?_,
    fun k ending => ?_⟩
  · obtain ⟨old, before, rfl⟩ := Timers.mem_update.mp present
    split
    · next same => simp [Timer.rearm, same]
    · next other =>
      rw [sound.firing old before]
      simp [other]
  · exact sound.ends k ((List.filter_sublist.map _).subset ending)

theorem IsSound.step (sound : t.IsSound) {a : Actor} (acts : able a t = true) :
    (step a t).IsSound := by
  cases a with
  | exit n => exact sound.descends (sound.timers.leave n) (Timers.descends_leave t.timers n)
  | timer n =>
    cases ending : t.ends.lookup n with
    | none => exact sound.fire ending acts
    | some time => exact sound.rearm ending

theorem IsSound.move (sound : t.IsSound) (m : Move) : (t.move m).IsSound := by
  cases m with
  | act a =>
    by_cases acts : able a t = true
    · simpa [Timetable.move, acts] using sound.step acts
    · simpa [Timetable.move, acts] using sound
  | schedule task =>
    exact sound.descends (sound.timers.schedule task t.now t.clock)
      (Timers.descends_schedule t.timers task t.now t.clock)
  | cancel key => exact sound.descends (sound.timers.cancel key) (Timers.descends_cancel _ key)
  | shutdown => exact sound.descends sound.timers.shutdown (Timers.descends_shutdown _)
  | close => exact sound.descends sound.timers.close (Timers.descends_close _)
  | pass ms => exact ⟨sound.timers, sound.firing, sound.ends⟩
  | lasting ms => exact ⟨sound.timers, sound.firing, sound.ends⟩

theorem IsSound.run (sound : t.IsSound) (moves : List Move) : (t.run moves).IsSound := by
  induction moves generalizing t with
  | nil => exact sound
  | cons m rest ih => exact ih (sound.move m)

/-! ## Timers that have been told to stop -/

theorem isStopped_go (stopped : t.timers.IsStopped n) (k : Nat) : (t.go k).timers.IsStopped n := by
  unfold go
  split
  · exact stopped.update k (Timers.keeps_rearm t.now t.clock)
  · exact stopped.update k (Timers.keeps_fire t.now)

/-- A timer that has been told to stop stays so, whatever happens. -/
theorem isStopped_move (stopped : t.timers.IsStopped n) (m : Move) :
    (t.move m).timers.IsStopped n := by
  cases m with
  | act a =>
    simp only [move]
    split
    · cases a with
      | exit k => exact stopped.mono (Timers.descends_leave t.timers k)
      | timer k => exact isStopped_go stopped k
    · exact stopped
  | schedule task => exact stopped.mono (Timers.descends_schedule t.timers task t.now t.clock)
  | cancel key => exact stopped.mono (Timers.descends_cancel t.timers key)
  | shutdown => exact stopped.mono (Timers.descends_shutdown t.timers)
  | close => exact stopped.mono (Timers.descends_close t.timers)
  | pass ms => exact stopped
  | lasting ms => exact stopped

/-- A timer that can leave is not firing. -/
theorem IsSound.lookup_of_able_exit (sound : t.IsSound) (leaves : able (.exit n) t = true) :
    t.ends.lookup n = none := by
  obtain ⟨timer, found, canLeave⟩ := (Option.any_eq_true ..).mp leaves
  simp only [Timer.canLeave, Bool.and_eq_true, Bool.not_eq_true'] at canLeave
  rw [lookup_ends_eq_none, ← Timers.number_of_timer? found,
    ← sound.firing timer (Timers.mem_of_timer? found), canLeave.1]
  exact Bool.false_ne_true

/-- For a timer that has been told to stop each firing is a tie, and each tie it goes on from is a
firing. -/
theorem IsSound.count_go (sound : t.IsSound) (stopped : t.timers.IsStopped n)
    (goesOn : able (.timer n) t = true) :
    (t.go n).fired.count n = t.fired.count n + (if t.isTie n then 1 else 0) := by
  cases ending : t.ends.lookup n with
  | some time =>
    have noTie : t.isTie n = false := by
      refine Bool.and_eq_false_iff.mpr (.inl ?_)
      by_contra leaves
      rw [sound.lookup_of_able_exit (by simpa using leaves)] at ending
      cases ending
    simp [go, ending, noTie]
  | none =>
    obtain ⟨timer, found, canFire⟩ := exists_of_able_timer ending goesOn
    have told := stopped.2 timer (Timers.mem_of_timer? found) (Timers.number_of_timer? found)
    simp only [Timer.canFire, Bool.and_eq_true] at canFire
    have leaves : able (.exit n) t = true :=
      (Option.any_eq_true ..).mpr ⟨timer, found, by simp [Timer.canLeave, told, canFire.1]⟩
    simp [go, ending, isTie, leaves, goesOn]

theorem count_go_of_ne (other : k ≠ n) : (t.go k).fired.count n = t.fired.count n := by
  unfold go
  split
  · rfl
  · exact List.count_cons_of_ne other

/-- One move lets a timer that has been told to stop fire as often as its tick wins a tie. -/
theorem IsSound.count_move (sound : t.IsSound) (stopped : t.timers.IsStopped n) (m : Move) :
    (t.move m).fired.count n = t.fired.count n + ties n t [m] := by
  cases m with
  | act a =>
    cases a with
    | exit k =>
      simp only [Timetable.move, ties]
      split <;> rfl
    | timer k =>
      by_cases goesOn : able (.timer k) t = true
      · by_cases same : k = n
        · subst same
          have := sound.count_go stopped goesOn
          simpa [Timetable.move, ties, goesOn, Timetable.step] using this
        · simpa [Timetable.move, ties, goesOn, Timetable.step, same] using count_go_of_ne same
      · have noTie : t.isTie k = false := by simp [isTie, goesOn]
        have : ¬(k = n ∧ t.isTie n = true) := fun h => by simp [← h.1, noTie] at h
        simp [Timetable.move, ties, goesOn, this]
  | _ => rfl

theorem ties_cons (t : Timetable) (m : Move) (rest : List Move) :
    ties n t (m :: rest) = ties n t [m] + ties n (t.move m) rest := by
  simp only [ties]
  split
  · split <;> omega
  · omega

/-- A timer that has been told to stop stays so, and fires as often as its tick wins a tie. -/
theorem IsSound.count_run (sound : t.IsSound) (stopped : t.timers.IsStopped n)
    (moves : List Move) :
    (t.run moves).timers.IsStopped n ∧
      (t.run moves).fired.count n = t.fired.count n + ties n t moves := by
  induction moves generalizing t with
  | nil => exact ⟨stopped, rfl⟩
  | cons m rest ih =>
    obtain ⟨stays, count⟩ := ih (sound.move m) (isStopped_move stopped m)
    refine ⟨stays, ?_⟩
    have once := sound.count_move stopped m
    rw [ties_cons]
    calc (t.run (m :: rest)).fired.count n
        = (t.move m).fired.count n + ties n (t.move m) rest := count
      _ = t.fired.count n + (ties n t [m] + ties n (t.move m) rest) := by omega

/-- Whatever happens, no key has two timers that go on; a timer is told to stop when its task is
scheduled anew or cancelled and when all timers are shut down or closed; and from then on it fires
only when its next tick is due before it looks for the order to stop, and only if the tick wins. -/
theorem stopped_timers_fire_only_in_ties (origin : Timestamp) (before after : List Move) :
    let t := ({ origin } : Timetable).run before
    let u := t.run after
    (∀ a ∈ t.timers.timers, ∀ b ∈ t.timers.timers, a.isStopped = false → b.isStopped = false →
      a.task.key = b.task.key → a = b) ∧
    (∀ timer ∈ t.timers.timers,
      (∀ task : ScheduledTask, timer.task.key = task.key →
        (t.move (.schedule task)).timers.IsStopped timer.number) ∧
      (t.move (.cancel timer.task.key)).timers.IsStopped timer.number ∧
      (t.move .shutdown).timers.IsStopped timer.number ∧
      (t.move .close).timers.IsStopped timer.number ∧
      (t.timers.closed = true → t.timers.IsStopped timer.number)) ∧
    ∀ n, t.timers.IsStopped n →
      u.timers.IsStopped n ∧ u.fired.count n = t.fired.count n + ties n t after := by
  intro t u
  have sound : t.IsSound := (isSound_start origin).run before
  refine ⟨fun a ha b hb => sound.timers.eq_of_key ha hb, fun timer present => ?_,
    fun n stopped => sound.count_run stopped after⟩
  exact ⟨fun task key => sound.timers.isStopped_schedule present key t.now t.clock,
    sound.timers.isStopped_cancel present, sound.timers.isStopped_shutdown present,
    sound.timers.isStopped_close present,
    fun closed => sound.timers.isStopped_of_closed closed present⟩

/-! ## A firing that outlasts its interval -/

namespace Overrun

/-- A task that is due every second. -/
def beat : ScheduledTask where
  botType := ⟨"slack"⟩
  identifier := "beat"
  schedule := .every 1000
  run := fun _ => .done []

/-- The timer of the task fires, which takes five seconds, and meanwhile the task is cancelled. -/
def cancelled : List Move :=
  [.lasting 5000, .schedule beat, .pass 1000, .act (.timer 0), .pass 500, .cancel beat.key]

/-- When the firing has been dealt with, the timer takes the tick that is due. -/
def overrun : List Move := [.pass 4500, .act (.timer 0), .act (.timer 0)]

/-- The cancelled timer fires a second time, in the one tie that its tick wins. -/
theorem cancelled_timer_wins_a_tie :
    (({ origin := ⟨0, 0⟩ } : Timetable).run cancelled).timers.IsStopped 0 ∧
      ((({ origin := ⟨0, 0⟩ } : Timetable).run cancelled).run overrun).fired.count 0 = 1 + 1 := by
  have stopped : (({ origin := ⟨0, 0⟩ } : Timetable).run cancelled).timers.IsStopped 0 := by
    decide +kernel
  refine ⟨stopped, ?_⟩
  obtain ⟨-, -, fires⟩ := stopped_timers_fire_only_in_ties ⟨0, 0⟩ cancelled overrun
  refine (fires 0 stopped).2.trans ?_
  decide +kernel

/-- It is not so that a timer that has been told to stop fires no more. -/
theorem stopped_timer_fires_again :
    ¬∀ (origin : Timestamp) (before after : List Move) (n : Nat),
      (({ origin } : Timetable).run before).timers.IsStopped n →
        (({ origin } : Timetable).run (before ++ after)).fired.count n =
          (({ origin } : Timetable).run before).fired.count n := by
  intro never
  have := never ⟨0, 0⟩ cancelled overrun 0 (by decide +kernel)
  exact absurd this (by decide +kernel)

end Overrun

end Timetable

end Switchboard
