import Switchboard.Proofs.Backgrounds
import Switchboard.Proofs.LiveInstances

/-!
# Timers of the tasks that have come

Tasks come one after the other, several of them of one key, and each is scheduled when it comes. The
timers serve these tasks (`Timers.Serves`): the number of a timer is the place of its task among
those that have come, and the timer that stands for a key, which is the only one of it that goes on,
is that of the latest (`place?`).
-/

namespace Switchboard

/-! ## The latest of a key -/

/-- Where among some tasks the latest of a key is. -/
def place? (tasks : List ScheduledTask) (key : TaskKey) : Option Nat :=
  latest? (fun e => if e.1.key = key then some e.2 else none) tasks.zipIdx

/-- The latest of some tasks that has a key. -/
def latestOf? (tasks : List ScheduledTask) (key : TaskKey) : Option ScheduledTask :=
  latest? (fun t => if t.key = key then some t else none) tasks

section Latest

variable {tasks : List ScheduledTask} {key : TaskKey} {n : Nat} {t : ScheduledTask}

/-- Another task is the latest of its key, and of no other key. -/
theorem place?_append_one (tasks : List ScheduledTask) (t : ScheduledTask) (key : TaskKey) :
    place? (tasks ++ [t]) key = if t.key = key then some tasks.length else place? tasks key := by
  rw [place?, List.zipIdx_append, List.zipIdx_singleton, latest?_append_one, place?]
  split <;> simp

theorem exists_of_place? (h : place? tasks key = some n) :
    ∃ t, tasks[n]? = some t ∧ t.key = key := by
  obtain ⟨e, mem, place⟩ := exists_of_latest? h
  split at place
  · next same =>
    cases place
    exact ⟨e.1, List.mem_zipIdx_iff_getElem?.mp mem, same⟩
  · cases place

theorem lt_of_place? (h : place? tasks key = some n) : n < tasks.length := by
  obtain ⟨t, here, -⟩ := exists_of_place? h
  exact (List.getElem?_eq_some_iff.mp here).1

/-- The latest task of a key is the one in its place. -/
theorem latestOf?_eq (tasks : List ScheduledTask) (key : TaskKey) :
    latestOf? tasks key = (place? tasks key).bind fun n => tasks[n]? := by
  induction tasks using List.reverseRecOn with
  | nil => rfl
  | append_singleton tasks t ih =>
    rw [place?_append_one, latestOf?, latest?_append_one, ← latestOf?, ih]
    split
    · simp
    · rw [Option.none_or]
      cases place : place? tasks key with
      | none => rfl
      | some n => simp [List.getElem?_append_left (lt_of_place? place)]

end Latest

namespace Timers

variable {s s' : Timers} {tasks : List ScheduledTask} {key : TaskKey} {timer : Timer} {n : Nat}

/-- The timers serve the tasks that have come. -/
structure Serves (s : Timers) (tasks : List ScheduledTask) : Prop extends s.IsSound where
  isOpen : s.closed = false
  count : s.made = tasks.length
  task : ∀ timer ∈ s.timers, tasks[timer.number]? = some timer.task
  /-- The timer of the latest task stands for its key, -/
  latest : ∀ key n, (key, n) ∈ s.current ↔ place? tasks key = some n
  /-- and it goes on; -/
  goesOn : ∀ timer ∈ s.timers, (timer.task.key, timer.number) ∈ s.current →
    timer.isStopped = false
  /-- one with an interval is always due again, -/
  due : ∀ timer ∈ s.timers, ∀ ms, timer.task.schedule = .every ms → timer.due.isSome = true
  /-- so it does not leave. -/
  stays : ∀ key n task ms, (key, n) ∈ s.current → tasks[n]? = some task →
    task.schedule = .every ms → ∃ timer ∈ s.timers, timer.number = n

theorem serves_empty : Serves {} [] where
  toIsSound := isSound_empty
  isOpen := rfl
  count := rfl
  task := by simp
  latest key n := iff_of_false (by simp) (by simp [place?, latest?])
  goesOn := by simp
  due := by simp
  stays := by simp

theorem Serves.key_of_current (serves : s.Serves tasks) (present : timer ∈ s.timers)
    (stands : (key, timer.number) ∈ s.current) : timer.task.key = key := by
  obtain ⟨task, here, same⟩ := exists_of_place? ((serves.latest key timer.number).mp stands)
  rw [serves.task timer present] at here
  cases here
  exact same

/-! ### A task comes -/

theorem Serves.mem_current_schedule (serves : s.Serves tasks) (t : ScheduledTask) (now : Nat)
    (clock : Timestamp) :
    (key, n) ∈ (s.schedule t now clock).current ↔ place? (tasks ++ [t]) key = some n := by
  have split : (key, n) ∈ (s.schedule t now clock).current ↔
      ((key, n) ∈ s.current ∧ key ≠ t.key) ∨ key = t.key ∧ n = s.made := by
    simp only [schedule, List.mem_append, mem_current_cancel, List.mem_singleton, Prod.mk.injEq]
  rw [split, place?_append_one, ← serves.count]
  by_cases same : t.key = key
  · simp [same, eq_comm]
  · rw [if_neg same, ← serves.latest key n]
    simp [Ne.symm same]

/-- The timers that were there before a task comes are there afterwards, and the one of its key has
been told to stop. -/
theorem Serves.old_of_schedule (serves : s.Serves tasks) {t : ScheduledTask}
    (present : timer ∈ (s.cancel t.key).timers) :
    ∃ old ∈ s.timers, old.number = timer.number ∧ old.task = timer.task ∧ old.due = timer.due ∧
      (timer.task.key ≠ t.key → timer = old) := by
  obtain ⟨old, before, ⟨stood, rfl⟩ | ⟨-, rfl⟩⟩ := mem_cancel present
  · exact ⟨old, before, rfl, rfl, rfl,
      fun other => absurd (serves.key_of_current before stood) other⟩
  · exact ⟨timer, before, rfl, rfl, rfl, fun _ => rfl⟩

theorem Serves.schedule (serves : s.Serves tasks) (t : ScheduledTask) (now : Nat)
    (clock : Timestamp) : (s.schedule t now clock).Serves (tasks ++ [t]) where
  toIsSound := serves.toIsSound.schedule t now clock
  isOpen := serves.isOpen
  count := by
    show s.made + 1 = _
    rw [serves.count, List.length_append, List.length_singleton]
  task := by
    intro timer present
    rcases List.mem_append.mp present with earlier | new
    · obtain ⟨old, before, number, task, -⟩ := serves.old_of_schedule earlier
      have bound := serves.made old before
      rw [serves.count, number] at bound
      rw [List.getElem?_append_left bound, ← number, ← task]
      exact serves.task old before
    · rw [List.mem_singleton.mp new]
      show (tasks ++ [t])[s.made]? = some t
      rw [serves.count, List.getElem?_concat_length]
  latest key n := serves.mem_current_schedule t now clock
  goesOn := by
    intro timer present stands
    rcases List.mem_append.mp present with earlier | new
    · obtain ⟨old, before, number, task, -, kept⟩ := serves.old_of_schedule earlier
      have bound := serves.made old before
      rcases List.mem_append.mp stands with stood | fresh
      · obtain ⟨stood, other⟩ := mem_current_cancel.mp stood
        rw [kept other] at stood ⊢
        exact serves.goesOn old before stood
      · have number := congrArg Prod.snd (List.mem_singleton.mp fresh)
        dsimp only at number
        omega
    · rw [List.mem_singleton.mp new]
      exact serves.isOpen
  due := by
    intro timer present ms every
    rcases List.mem_append.mp present with earlier | new
    · obtain ⟨old, before, -, task, due, -⟩ := serves.old_of_schedule earlier
      rw [← due]
      exact serves.due old before ms (task ▸ every)
    · rw [List.mem_singleton.mp new] at every ⊢
      have every : t.schedule = .every ms := every
      simp [Timer.start, every]
  stays := by
    intro key n task ms stands here every
    rcases List.mem_append.mp stands with stood | fresh
    · obtain ⟨stood, -⟩ := mem_current_cancel.mp stood
      rw [List.getElem?_append_left (lt_of_place? ((serves.latest key n).mp stood))] at here
      obtain ⟨timer, before, number⟩ := serves.stays key n task ms stood here every
      have numbers : (s.cancel t.key).timers.map Timer.number = s.timers.map Timer.number :=
        map_number_cancel
      have there : n ∈ (s.cancel t.key).timers.map Timer.number := by
        rw [numbers, ← number]
        exact List.mem_map_of_mem before
      obtain ⟨after, present, same⟩ := List.mem_map.mp there
      exact ⟨after, List.mem_append_left _ present, same⟩
    · cases List.mem_singleton.mp fresh
      exact ⟨_, List.mem_append_right _ (List.mem_singleton.mpr rfl), rfl⟩

/-! ### Timers tick and leave -/

/-- A change of a timer after which it is due again if it has an interval. -/
structure Renews (f : Timer → Timer) : Prop extends Keeps f where
  due : ∀ timer ms, timer.task.schedule = .every ms → timer.due.isSome = true →
    (f timer).due.isSome = true

theorem renews_fire (now : Nat) : Renews fun timer => timer.fire now where
  toKeeps := keeps_fire now
  due := by
    intro timer ms every due
    obtain ⟨time, due⟩ := Option.isSome_iff_exists.mp due
    simp [Timer.fire, every, due]

theorem renews_rearm (now : Nat) (clock : Timestamp) :
    Renews fun timer => timer.rearm now clock where
  toKeeps := keeps_rearm now clock
  due := by
    intro timer ms every due
    simpa [Timer.rearm, every] using due

theorem Serves.update (serves : s.Serves tasks) {f : Timer → Timer} (n : Nat) (renews : Renews f) :
    (s.update n f).Serves tasks where
  toIsSound := serves.toIsSound.update n renews.toKeeps
  isOpen := serves.isOpen
  count := serves.count
  task := by
    intro timer present
    obtain ⟨old, before, number, task, -⟩ := renews.exists_old present
    rw [← number, ← task]
    exact serves.task old before
  latest := serves.latest
  goesOn := by
    intro timer present stands
    obtain ⟨old, before, number, task, stopped⟩ := renews.exists_old present
    rw [← number, ← task] at stands
    exact stopped ▸ serves.goesOn old before stands
  due := by
    intro timer present ms every
    obtain ⟨old, before, rfl⟩ := mem_update.mp present
    split at every
    · next own =>
      rw [if_pos own]
      rw [renews.task] at every
      exact renews.due old ms every (serves.due old before ms every)
    · next other =>
      rw [if_neg other]
      exact serves.due old before ms every
  stays := by
    intro key k task ms stands here every
    obtain ⟨timer, before, number⟩ := serves.stays key k task ms stands here every
    have there : k ∈ (s.update n f).timers.map Timer.number := by
      rw [renews.map_number, ← number]
      exact List.mem_map_of_mem before
    obtain ⟨after, present, same⟩ := List.mem_map.mp there
    exact ⟨after, present, same⟩

theorem Serves.ticks (serves : s.Serves tasks) (h : s.Ticks s') : s'.Serves tasks := by
  induction h with
  | refl => exact serves
  | fire n now _ ih => exact ih.update n (renews_fire now)
  | rearm n now clock _ ih => exact ih.update n (renews_rearm now clock)

/-- A timer that leaves does not stand for a key, unless it is a calendar rule's. -/
theorem Serves.leave (serves : s.Serves tasks) (able : (s.timer? n).any Timer.canLeave = true) :
    (s.leave n).Serves tasks where
  toIsSound := serves.toIsSound.leave n
  isOpen := serves.isOpen
  count := serves.count
  task timer present := serves.task timer (mem_leave.mp present).1
  latest := serves.latest
  goesOn timer present := serves.goesOn timer (mem_leave.mp present).1
  due timer present := serves.due timer (mem_leave.mp present).1
  stays := by
    intro key k task ms stands here every
    obtain ⟨timer, before, number⟩ := serves.stays key k task ms stands here every
    refine ⟨timer, mem_leave.mpr ⟨before, ?_⟩, number⟩
    rintro rfl
    obtain ⟨leaving, found, canLeave⟩ := (Option.any_eq_true ..).mp able
    have same : leaving = timer :=
      List.inj_on_of_nodup_map serves.numbers (mem_of_timer? found) before (number_of_timer? found)
    subst same
    rw [← number, serves.task leaving before] at here
    cases here
    rw [← number] at stands
    have goesOn := serves.goesOn leaving before (serves.key_of_current before stands ▸ stands)
    have due := serves.due leaving before ms every
    simp [Timer.canLeave, goesOn, Option.isNone_eq_false_iff.mpr due] at canLeave

end Timers

end Switchboard
