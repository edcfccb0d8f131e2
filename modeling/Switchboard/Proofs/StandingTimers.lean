import Switchboard.Task.Timers
import Mathlib.Data.List.Nodup

/-!
# Timers that stand for keys

Timers are numbered in the order of their making, and at most one stands for each key. A timer that
has not been told to stop is the one that stands for its key (`Timers.IsSound`), so no key has two
of them. A timer that has been told to stop stays so (`Timers.IsStopped`): whatever happens to the
timers, each one that is there afterwards either is new or was there before, with the same task and
told to stop if it was (`Timers.Descends`).
-/

namespace Switchboard

namespace Timers

variable {s t u : Timers} {key : TaskKey} {task : ScheduledTask} {timer : Timer} {n : Nat}

/-! ## Looking up timers -/

theorem mem_of_timer? (h : s.timer? n = some timer) : timer ∈ s.timers :=
  List.mem_of_find?_eq_some h

theorem number_of_timer? (h : s.timer? n = some timer) : timer.number = n := by
  simpa using List.find?_some h

/-- After a cancellation the timer that stood for the key is told to stop, and the others are as
before. -/
theorem mem_cancel (present : timer ∈ (s.cancel key).timers) :
    ∃ old ∈ s.timers, (key, old.number) ∈ s.current ∧ timer = { old with isStopped := true } ∨
      (key, old.number) ∉ s.current ∧ timer = old := by
  obtain ⟨old, before, rfl⟩ := List.mem_map.mp present
  refine ⟨old, before, ?_⟩
  split
  · next stood => exact .inl ⟨by simpa using stood, rfl⟩
  · next other => exact .inr ⟨by simpa using other, rfl⟩

theorem mem_current_cancel {e : TaskKey × Nat} :
    e ∈ (s.cancel key).current ↔ e ∈ s.current ∧ e.1 ≠ key := by
  simp [cancel]

/-! ## Numbers and keys -/

/-- Numbers and keys are not given twice, a timer that has not been told to stop stands for its key,
and there is none once the timers are closed. -/
structure IsSound (s : Timers) : Prop where
  numbers : (s.timers.map Timer.number).Nodup
  made : ∀ timer ∈ s.timers, timer.number < s.made
  keys : (s.current.map Prod.fst).Nodup
  stands : ∀ timer ∈ s.timers, timer.isStopped = false →
    (timer.task.key, timer.number) ∈ s.current
  closed : s.closed = true → ∀ timer ∈ s.timers, timer.isStopped = true

theorem isSound_empty : IsSound {} where
  numbers := .nil
  made := by simp
  keys := .nil
  stands := by simp
  closed := by simp

/-- No key has two timers that have not been told to stop. -/
theorem IsSound.eq_of_key (sound : s.IsSound) {a b : Timer} (ha : a ∈ s.timers)
    (hb : b ∈ s.timers) (goesOn : a.isStopped = false) (goesOn' : b.isStopped = false)
    (same : a.task.key = b.task.key) : a = b := by
  have first := sound.stands a ha goesOn
  have second := sound.stands b hb goesOn'
  rw [← same] at second
  have numbers : a.number = b.number :=
    congrArg Prod.snd (List.inj_on_of_nodup_map sound.keys first second rfl)
  exact List.inj_on_of_nodup_map sound.numbers ha hb numbers

theorem map_number_cancel : (s.cancel key).timers.map Timer.number = s.timers.map Timer.number := by
  simp only [cancel, List.map_map]
  refine List.map_congr_left fun timer _ => ?_
  simp only [Function.comp_apply]
  split <;> rfl

theorem IsSound.cancel (sound : s.IsSound) (key : TaskKey) : (s.cancel key).IsSound where
  numbers := by
    rw [map_number_cancel]
    exact sound.numbers
  made := by
    intro timer present
    obtain ⟨old, before, ⟨-, rfl⟩ | ⟨-, rfl⟩⟩ := mem_cancel present
    · exact sound.made old before
    · exact sound.made timer before
  keys := sound.keys.sublist (List.filter_sublist.map _)
  stands := by
    intro timer present goesOn
    obtain ⟨old, before, ⟨-, rfl⟩ | ⟨other, rfl⟩⟩ := mem_cancel present
    · cases goesOn
    · have stood := sound.stands timer before goesOn
      exact mem_current_cancel.mpr ⟨stood, fun same => other (same ▸ stood)⟩
  closed := by
    intro closed timer present
    obtain ⟨old, before, ⟨-, rfl⟩ | ⟨-, rfl⟩⟩ := mem_cancel present
    · rfl
    · exact sound.closed closed timer before

theorem IsSound.schedule (sound : s.IsSound) (task : ScheduledTask) (now : Nat)
    (clock : Timestamp) : (s.schedule task now clock).IsSound := by
  have rest := sound.cancel task.key
  constructor
  · simp only [Timers.schedule, List.map_append, List.map_cons, List.map_nil]
    refine List.nodup_append.mpr ⟨rest.numbers, List.nodup_singleton _, ?_⟩
    intro a earlier b new same
    obtain ⟨timer, present, rfl⟩ := List.mem_map.mp earlier
    rw [List.mem_singleton.mp new] at same
    exact absurd same (Nat.ne_of_lt (rest.made timer present))
  · intro timer present
    rcases List.mem_append.mp present with earlier | new
    · exact Nat.lt_succ_of_lt (rest.made timer earlier)
    · rw [List.mem_singleton.mp new]
      exact Nat.lt_succ_self _
  · simp only [Timers.schedule, List.map_append, List.map_cons, List.map_nil]
    refine List.nodup_append.mpr ⟨rest.keys, List.nodup_singleton _, ?_⟩
    intro a earlier b new same
    obtain ⟨e, present, rfl⟩ := List.mem_map.mp earlier
    rw [List.mem_singleton.mp new] at same
    exact (mem_current_cancel.mp present).2 same
  · intro timer present goesOn
    rcases List.mem_append.mp present with earlier | new
    · exact List.mem_append_left _ (rest.stands timer earlier goesOn)
    · rw [List.mem_singleton.mp new]
      exact List.mem_append_right _ (List.mem_singleton.mpr rfl)
  · intro closed timer present
    rcases List.mem_append.mp present with earlier | new
    · exact rest.closed closed timer earlier
    · rw [List.mem_singleton.mp new]
      exact closed

/-- A change of a timer that leaves it its number, its task and whether it is told to stop. -/
structure Keeps (f : Timer → Timer) : Prop where
  number : ∀ timer, (f timer).number = timer.number
  task : ∀ timer, (f timer).task = timer.task
  isStopped : ∀ timer, (f timer).isStopped = timer.isStopped

theorem keeps_fire (now : Nat) : Keeps fun timer => timer.fire now :=
  ⟨fun _ => rfl, fun _ => rfl, fun _ => rfl⟩

theorem keeps_rearm (now : Nat) (clock : Timestamp) : Keeps fun timer => timer.rearm now clock :=
  ⟨fun _ => rfl, fun _ => rfl, fun _ => rfl⟩

section Update

variable {f : Timer → Timer}

theorem mem_update :
    timer ∈ (s.update n f).timers ↔
      ∃ old ∈ s.timers, timer = if old.number = n then f old else old := by
  simp only [update, List.mem_map, eq_comm]

theorem Keeps.map_number (keeps : Keeps f) (s : Timers) (n : Nat) :
    (s.update n f).timers.map Timer.number = s.timers.map Timer.number := by
  simp only [update, List.map_map]
  refine List.map_congr_left fun timer _ => ?_
  simp only [Function.comp_apply]
  split
  · exact keeps.number timer
  · rfl

/-- A timer after an update is one from before, with the same number and task, and told to stop if
that one was. -/
theorem Keeps.exists_old (keeps : Keeps f) (present : timer ∈ (s.update n f).timers) :
    ∃ old ∈ s.timers, old.number = timer.number ∧ old.task = timer.task ∧
      old.isStopped = timer.isStopped := by
  obtain ⟨old, before, rfl⟩ := mem_update.mp present
  refine ⟨old, before, ?_⟩
  split
  · exact ⟨(keeps.number old).symm, (keeps.task old).symm, (keeps.isStopped old).symm⟩
  · exact ⟨rfl, rfl, rfl⟩

theorem IsSound.update (sound : s.IsSound) (n : Nat) (keeps : Keeps f) :
    (s.update n f).IsSound where
  numbers := keeps.map_number s n ▸ sound.numbers
  made := by
    intro timer present
    obtain ⟨old, before, number, -, -⟩ := keeps.exists_old present
    exact number ▸ sound.made old before
  keys := sound.keys
  stands := by
    intro timer present goesOn
    obtain ⟨old, before, number, task, stopped⟩ := keeps.exists_old present
    have stood := sound.stands old before (stopped.trans goesOn)
    rwa [number, task] at stood
  closed := by
    intro closed timer present
    obtain ⟨old, before, -, -, stopped⟩ := keeps.exists_old present
    exact stopped ▸ sound.closed closed old before

end Update

theorem mem_leave : timer ∈ (s.leave n).timers ↔ timer ∈ s.timers ∧ timer.number ≠ n := by
  simp [leave]

theorem IsSound.leave (sound : s.IsSound) (n : Nat) : (s.leave n).IsSound where
  numbers := sound.numbers.sublist (List.filter_sublist.map _)
  made timer present := sound.made timer (mem_leave.mp present).1
  keys := sound.keys
  stands timer present := sound.stands timer (mem_leave.mp present).1
  closed closed timer present := sound.closed closed timer (mem_leave.mp present).1

theorem mem_close :
    timer ∈ s.close.timers ↔ ∃ old ∈ s.timers, timer = { old with isStopped := true } := by
  simp only [close, List.mem_map, eq_comm]

theorem isStopped_of_mem_close (present : timer ∈ s.close.timers) : timer.isStopped = true := by
  obtain ⟨old, -, rfl⟩ := mem_close.mp present
  rfl

theorem map_number_close : s.close.timers.map Timer.number = s.timers.map Timer.number := by
  simp [close, Function.comp_def]

theorem IsSound.close (sound : s.IsSound) : s.close.IsSound where
  numbers := by
    rw [map_number_close]
    exact sound.numbers
  made := by
    intro timer present
    obtain ⟨old, before, rfl⟩ := mem_close.mp present
    exact sound.made old before
  keys := sound.keys
  stands timer present goesOn :=
    absurd (isStopped_of_mem_close present) (by simp [goesOn])
  closed _ _ present := isStopped_of_mem_close present

theorem IsSound.shutdown (sound : s.IsSound) : s.shutdown.IsSound where
  numbers := sound.close.numbers
  made := sound.close.made
  keys := .nil
  stands timer present goesOn :=
    absurd (isStopped_of_mem_close present) (by simp [goesOn])
  closed _ _ present := isStopped_of_mem_close present

/-! ## Timers that have been told to stop -/

/-- A number has been given, and a timer of that number has been told to stop. -/
def IsStopped (s : Timers) (n : Nat) : Prop :=
  n < s.made ∧ ∀ timer ∈ s.timers, timer.number = n → timer.isStopped = true

instance : Decidable (s.IsStopped n) := inferInstanceAs (Decidable (_ ∧ _))

/-- Each timer of `t` is new, or one of `s` that is told to stop if it was. -/
structure Descends (s t : Timers) : Prop where
  made : s.made ≤ t.made
  timers : ∀ timer ∈ t.timers, timer.number = s.made ∧ timer.isFiring = false ∨
    ∃ old ∈ s.timers, old.number = timer.number ∧ old.isFiring = timer.isFiring ∧
      (old.isStopped = true → timer.isStopped = true)

theorem descends_cancel (s : Timers) (key : TaskKey) : Descends s (s.cancel key) where
  made := Nat.le_refl _
  timers := by
    intro timer present
    obtain ⟨old, before, ⟨-, rfl⟩ | ⟨-, rfl⟩⟩ := mem_cancel present
    · exact .inr ⟨old, before, rfl, rfl, fun _ => rfl⟩
    · exact .inr ⟨timer, before, rfl, rfl, id⟩

theorem descends_schedule (s : Timers) (task : ScheduledTask) (now : Nat) (clock : Timestamp) :
    Descends s (s.schedule task now clock) where
  made := Nat.le_succ _
  timers := by
    intro timer present
    rcases List.mem_append.mp present with earlier | new
    · exact (descends_cancel s task.key).timers timer earlier
    · rw [List.mem_singleton.mp new]
      exact .inl ⟨rfl, rfl⟩

theorem descends_leave (s : Timers) (n : Nat) : Descends s (s.leave n) where
  made := Nat.le_refl _
  timers timer present := .inr ⟨timer, (mem_leave.mp present).1, rfl, rfl, id⟩

theorem descends_close (s : Timers) : Descends s s.close where
  made := Nat.le_refl _
  timers := by
    intro timer present
    obtain ⟨old, before, rfl⟩ := mem_close.mp present
    exact .inr ⟨old, before, rfl, rfl, fun _ => rfl⟩

theorem descends_shutdown (s : Timers) : Descends s s.shutdown where
  made := Nat.le_refl _
  timers := (descends_close s).timers

/-- A timer that has been told to stop stays so. -/
theorem IsStopped.mono (stopped : s.IsStopped n) (h : Descends s t) : t.IsStopped n := by
  refine ⟨Nat.lt_of_lt_of_le stopped.1 h.made, fun timer present number => ?_⟩
  rcases h.timers timer present with ⟨new, -⟩ | ⟨old, before, same, -, kept⟩
  · exact absurd (number.symm.trans new) (Nat.ne_of_lt stopped.1)
  · exact kept (stopped.2 old before (same.trans number))

theorem IsStopped.update {f : Timer → Timer} (stopped : s.IsStopped n) (k : Nat)
    (keeps : Keeps f) : (s.update k f).IsStopped n := by
  refine ⟨stopped.1, fun timer present number => ?_⟩
  obtain ⟨old, before, same, -, told⟩ := keeps.exists_old present
  exact told ▸ stopped.2 old before (same.trans number)

/-- The timer of a key that is cancelled has been told to stop. -/
theorem IsSound.isStopped_cancel (sound : s.IsSound) (present : timer ∈ s.timers) :
    (s.cancel timer.task.key).IsStopped timer.number := by
  refine ⟨sound.made timer present, fun after there number => ?_⟩
  obtain ⟨old, before, ⟨-, rfl⟩ | ⟨other, rfl⟩⟩ := mem_cancel there
  · rfl
  · obtain rfl := List.inj_on_of_nodup_map sound.numbers before present number
    by_contra goesOn
    exact other (sound.stands after present (by simpa using goesOn))

/-- A timer whose task is scheduled anew has been told to stop. -/
theorem IsSound.isStopped_schedule (sound : s.IsSound) (present : timer ∈ s.timers)
    (key : timer.task.key = task.key) (now : Nat) (clock : Timestamp) :
    (s.schedule task now clock).IsStopped timer.number := by
  have stopped := sound.isStopped_cancel present
  refine ⟨Nat.lt_succ_of_lt stopped.1, fun after there number => ?_⟩
  rcases List.mem_append.mp there with earlier | new
  · exact stopped.2 after (key ▸ earlier) number
  · rw [List.mem_singleton.mp new] at number
    exact absurd number.symm (Nat.ne_of_lt stopped.1)

theorem IsSound.isStopped_close (sound : s.IsSound) (present : timer ∈ s.timers) :
    s.close.IsStopped timer.number :=
  ⟨sound.made timer present, fun _ there _ => isStopped_of_mem_close there⟩

/-- Once the timers are closed each of them has been told to stop. -/
theorem IsSound.isStopped_of_closed (sound : s.IsSound) (closed : s.closed = true)
    (present : timer ∈ s.timers) : s.IsStopped timer.number :=
  ⟨sound.made timer present, fun after there _ => sound.closed closed after there⟩

theorem IsSound.isStopped_shutdown (sound : s.IsSound) (present : timer ∈ s.timers) :
    s.shutdown.IsStopped timer.number :=
  sound.isStopped_close present

end Timers

end Switchboard
