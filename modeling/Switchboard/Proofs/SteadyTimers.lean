import Switchboard.Proofs.StoppedTimers

/-!
# Interval timers keep their rate

A timer with an interval of `d` milliseconds is due for the first time `d` after its start, and a
firing moves the due time on by `d` at least, be it on time or late. So its firings, which take what
time they take, do not overlap, and the `k`-th of them begins no earlier than `k * d` after the
start; and if the clock does not run past a timer that can go on and no firing outlasts the multiple
of `d` that follows it, the `k`-th begins exactly then
(`Timetable.interval_timers_keep_their_rate`).

All that a move has to do with such a timer is said once, by `Timetable.Pulse`.
-/

namespace Switchboard

namespace Timers

variable {s t : Timers} {n k : Nat} {timer : Timer}

/-- A change of the timers leaves a timer its due time and its task, as long as it stays. -/
structure Spares (n : Nat) (s t : Timers) : Prop where
  made : s.made ≤ t.made
  timers : n < s.made → ∀ timer ∈ t.timers, timer.number = n →
    ∃ old ∈ s.timers, old.number = n ∧ old.due = timer.due ∧ old.task = timer.task

theorem spares_cancel (n : Nat) (s : Timers) (key : TaskKey) : Spares n s (s.cancel key) where
  made := Nat.le_refl _
  timers := by
    intro _ timer present number
    obtain ⟨old, before, ⟨-, rfl⟩ | ⟨-, rfl⟩⟩ := mem_cancel present
    · exact ⟨old, before, number, rfl, rfl⟩
    · exact ⟨timer, before, number, rfl, rfl⟩

theorem spares_schedule (n : Nat) (s : Timers) (task : ScheduledTask) (now : Nat)
    (clock : Timestamp) : Spares n s (s.schedule task now clock) where
  made := Nat.le_succ _
  timers := by
    intro given timer present number
    rcases List.mem_append.mp present with earlier | new
    · exact (spares_cancel n s task.key).timers given timer earlier number
    · rw [List.mem_singleton.mp new] at number
      exact absurd number (Nat.ne_of_gt given)

theorem spares_close (n : Nat) (s : Timers) : Spares n s s.close where
  made := Nat.le_refl _
  timers := by
    intro _ timer present number
    obtain ⟨old, before, rfl⟩ := mem_close.mp present
    exact ⟨old, before, number, rfl, rfl⟩

theorem spares_shutdown (n : Nat) (s : Timers) : Spares n s s.shutdown where
  made := Nat.le_refl _
  timers := (spares_close n s).timers

theorem spares_leave (n k : Nat) (s : Timers) : Spares n s (s.leave k) where
  made := Nat.le_refl _
  timers _ timer present number := ⟨timer, (mem_leave.mp present).1, number, rfl, rfl⟩

/-- Whatever another timer does. -/
theorem Keeps.spares {f : Timer → Timer} (keeps : Keeps f) (other : k ≠ n) (s : Timers) :
    Spares n s (s.update k f) where
  made := Nat.le_refl _
  timers := by
    intro _ timer present number
    obtain ⟨old, before, rfl⟩ := mem_update.mp present
    split at number
    · next same => exact absurd (same.symm.trans ((keeps.number old).symm.trans number)) other
    · next apart => exact ⟨old, before, number, by rw [if_neg apart], by rw [if_neg apart]⟩

end Timers

namespace Timetable

open Timers (Spares)

variable {t : Timetable} {n k d due base : Nat} {m : Move}

/-! ## The firings of a timer -/

/-- A firing, from its begin until it has been dealt with. -/
structure Firing where
  start : Nat
  finish : Nat
  deriving DecidableEq, Repr

/-- The firing that begins with a move. -/
def firing? (t : Timetable) (n : Nat) : Move → Option Firing
  | .act (.timer k) =>
    if k = n ∧ able (.timer n) t ∧ t.ends.lookup n = none then some ⟨t.now, t.now + t.firing⟩
    else none
  | _ => none

/-- The firings of a timer in a run, the first first. -/
def firings (n : Nat) : Timetable → List Move → List Firing
  | _, [] => []
  | t, m :: rest => (t.firing? n m).toList ++ firings n (t.move m) rest

theorem firing?_of_ne (other : k ≠ n) : t.firing? n (.act (.timer k)) = none := by
  rw [firing?, if_neg fun h => other h.1]

/-- The firings are those that the timetable counts. -/
theorem count_fired_run (n : Nat) (t : Timetable) (moves : List Move) :
    (t.run moves).fired.count n = t.fired.count n + (t.firings n moves).length := by
  induction moves generalizing t with
  | nil => rfl
  | cons m rest ih =>
    have once : (t.move m).fired.count n = t.fired.count n + (t.firing? n m).toList.length := by
      cases m with
      | act a =>
        cases a with
        | exit k =>
          simp only [move]
          split <;> rfl
        | timer k =>
          by_cases other : k = n
          · subst other
            by_cases goesOn : able (.timer k) t = true
            · cases ending : t.ends.lookup k <;> simp [move, firing?, goesOn, step, go, ending]
            · simp [move, firing?, goesOn]
          · rw [firing?_of_ne other]
            simp only [move]
            split
            · exact count_go_of_ne other
            · rfl
      | _ => rfl
    rw [firings, List.length_append, ← Nat.add_assoc, ← once]
    exact ih (t.move m)

/-! ## What a move has to do with an interval timer -/

/-- A number has been given to a timer that has an interval and is due at a time, and it may have
left. -/
structure Beats (t : Timetable) (n d due : Nat) : Prop where
  given : n < t.timers.made
  timers : ∀ timer ∈ t.timers.timers, timer.number = n →
    timer.task.schedule = .every d ∧ timer.due = some due

/-- A timer has not left. -/
def IsPresent (t : Timetable) (n : Nat) : Prop := ∃ timer ∈ t.timers.timers, timer.number = n

/-- All that a move has to do with an interval timer. -/
inductive Pulse (t : Timetable) (n d due : Nat) (m : Move) : Prop
  /-- It fires, and is due an interval later. -/
  | begins (isDue : due ≤ t.now) (idle : t.ends.lookup n = none)
    (present : t.IsPresent n)
    (begun : t.firing? n m = some ⟨t.now, t.now + t.firing⟩) (now : (t.move m).now = t.now)
    (ends : (t.move m).ends.lookup n = some (t.now + t.firing))
    (beats : (t.move m).Beats n d (Ticker.nextFrom ⟨d, due⟩ t.now).due)
  /-- A firing has been dealt with. -/
  | finishes (finish : Nat) (past : finish ≤ t.now) (ending : t.ends.lookup n = some finish)
    (none_begun : t.firing? n m = none) (now : (t.move m).now = t.now)
    (ends : (t.move m).ends.lookup n = none) (beats : (t.move m).Beats n d due)
  /-- Time passes. -/
  | waits (ms : Nat) (passes : m = .pass ms)
  /-- It is somebody else's turn. -/
  | rests (none_begun : t.firing? n m = none) (now : (t.move m).now = t.now)
    (ends : (t.move m).ends.lookup n = t.ends.lookup n)
    (present : (t.move m).IsPresent n → t.IsPresent n) (beats : (t.move m).Beats n d due)

theorem Beats.spares {s : Timetable} (beats : t.Beats n d due)
    (spares : Spares n t.timers s.timers) : s.Beats n d due := by
  refine ⟨Nat.lt_of_lt_of_le beats.given spares.made, fun timer present number => ?_⟩
  obtain ⟨old, before, same, due, task⟩ := spares.timers beats.given timer present number
  rw [← due, ← task]
  exact beats.timers old before same

theorem Beats.isPresent {s : Timetable} (beats : t.Beats n d due)
    (spares : Spares n t.timers s.timers) (present : s.IsPresent n) : t.IsPresent n := by
  obtain ⟨timer, there, number⟩ := present
  obtain ⟨old, before, same, -, -⟩ := spares.timers beats.given timer there number
  exact ⟨old, before, same⟩

theorem lookup_filter_of_ne {ends : List (Nat × Nat)} (other : k ≠ n) :
    (ends.filter fun e => e.1 ≠ k).lookup n = ends.lookup n := by
  induction ends with
  | nil => rfl
  | cons e rest ih =>
    by_cases own : e.1 = k
    · have apart : (n == e.1) = false :=
        beq_eq_false_iff_ne.mpr fun same => other (own.symm.trans same.symm)
      rw [List.filter_cons_of_neg (by simpa using own), ih, List.lookup_cons, apart]
    · rw [List.filter_cons_of_pos (by simpa using own), List.lookup_cons, List.lookup_cons, ih]

/-- Another timer does not touch the end of a firing. -/
theorem lookup_go_of_ne (other : k ≠ n) : (t.go k).ends.lookup n = t.ends.lookup n := by
  unfold go
  split
  · exact lookup_filter_of_ne other
  · have apart : (n == k) = false := beq_eq_false_iff_ne.mpr other.symm
    simp [List.lookup_append, List.lookup_cons, apart]

theorem spares_go (other : k ≠ n) : Spares n t.timers (t.go k).timers := by
  unfold go
  split
  · exact (Timers.keeps_rearm t.now t.clock).spares other t.timers
  · exact (Timers.keeps_fire t.now).spares other t.timers

/-- The timer fires. -/
theorem Beats.fire (beats : t.Beats n d due) (idle : t.ends.lookup n = none) :
    (t.go n).Beats n d (Ticker.nextFrom ⟨d, due⟩ t.now).due := by
  simp only [go, idle]
  refine ⟨beats.given, fun timer present number => ?_⟩
  obtain ⟨old, before, rfl⟩ := Timers.mem_update.mp present
  split at number
  · next same =>
    obtain ⟨every, isDue⟩ := beats.timers old before same
    rw [if_pos same]
    exact ⟨every, by simp [Timer.fire, every, isDue]⟩
  · next apart => exact absurd number apart

/-- A firing has been dealt with. -/
theorem Beats.rearm (beats : t.Beats n d due) {finish : Nat}
    (ending : t.ends.lookup n = some finish) : (t.go n).Beats n d due := by
  simp only [go, ending]
  refine ⟨beats.given, fun timer present number => ?_⟩
  obtain ⟨old, before, rfl⟩ := Timers.mem_update.mp present
  split at number
  · next same =>
    obtain ⟨every, isDue⟩ := beats.timers old before same
    rw [if_pos same]
    exact ⟨every, by simp [Timer.rearm, every, isDue]⟩
  · next apart => exact absurd number apart

theorem lookup_go_of_idle (idle : t.ends.lookup n = none) :
    (t.go n).ends.lookup n = some (t.now + t.firing) := by
  simp [go, idle, List.lookup_append]

theorem lookup_go_of_ending {finish : Nat} (ending : t.ends.lookup n = some finish) :
    (t.go n).ends.lookup n = none := by
  rw [lookup_ends_eq_none]
  simp [go, ending]

theorem now_go (t : Timetable) (n : Nat) : (t.go n).now = t.now := by
  unfold go
  split <;> rfl

theorem Beats.pulse_go (beats : t.Beats n d due) (goesOn : able (.timer n) t = true) :
    t.Pulse n d due (.act (.timer n)) := by
  have moved : t.move (.act (.timer n)) = t.go n := by simp [move, goesOn, step]
  cases ending : t.ends.lookup n with
  | some finish =>
    have past : finish ≤ t.now := by simpa [able, ending] using goesOn
    exact .finishes finish past ending (by simp [firing?, ending]) (moved ▸ now_go t n)
      (moved ▸ lookup_go_of_ending ending) (moved ▸ beats.rearm ending)
  | none =>
    obtain ⟨timer, found, canFire⟩ := exists_of_able_timer ending goesOn
    have present := Timers.mem_of_timer? found
    have number := Timers.number_of_timer? found
    have isDue : due ≤ t.now := by
      simpa [Timer.canFire, (beats.timers timer present number).2] using
        (Bool.and_eq_true_iff.mp canFire).2
    exact .begins isDue ending ⟨timer, present, number⟩ (by simp [firing?, goesOn, ending])
      (moved ▸ now_go t n) (moved ▸ lookup_go_of_idle ending) (moved ▸ beats.fire ending)

/-- All that a move has to do with an interval timer. -/
theorem Beats.pulse (beats : t.Beats n d due) (m : Move) : t.Pulse n d due m := by
  -- What does not touch the firings in progress is done to the timers only.
  have aside : ∀ s : Timers, Spares n t.timers s → t.move m = { t with timers := s } →
      t.firing? n m = none → t.Pulse n d due m := by
    intro s spares moved none_begun
    exact .rests none_begun (by rw [moved]) (by rw [moved])
      (by rw [moved]; exact beats.isPresent spares) (by rw [moved]; exact beats.spares spares)
  have still : t.move m = t → t.firing? n m = none → t.Pulse n d due m := fun moved none_begun =>
    .rests none_begun (by rw [moved]) (by rw [moved]) (by rw [moved]; exact id) (by rwa [moved])
  cases m with
  | act a =>
    cases a with
    | exit k =>
      by_cases leaves : able (.exit k) t = true
      · exact aside _ (Timers.spares_leave n k t.timers) (by simp [move, leaves, step]) rfl
      · exact still (by simp [move, leaves]) rfl
    | timer k =>
      by_cases goesOn : able (.timer k) t = true
      · by_cases other : k = n
        · subst other
          exact beats.pulse_go goesOn
        · have moved : t.move (.act (.timer k)) = t.go k := by simp [move, goesOn, step]
          exact .rests (firing?_of_ne other) (moved ▸ now_go t k) (moved ▸ lookup_go_of_ne other)
            (moved ▸ beats.isPresent (spares_go other)) (moved ▸ beats.spares (spares_go other))
      · refine still (by simp [move, goesOn]) ?_
        by_cases other : k = n
        · subst other
          simp [firing?, goesOn]
        · exact firing?_of_ne other
  | schedule task => exact aside _ (Timers.spares_schedule n t.timers task t.now t.clock) rfl rfl
  | cancel key => exact aside _ (Timers.spares_cancel n t.timers key) rfl rfl
  | shutdown => exact aside _ (Timers.spares_shutdown n t.timers) rfl rfl
  | close => exact aside _ (Timers.spares_close n t.timers) rfl rfl
  | pass ms => exact .waits ms rfl
  | lasting ms => exact .rests rfl rfl rfl id ⟨beats.given, beats.timers⟩

/-- A timer that is scheduled with an interval is due after that. -/
theorem beats_schedule (sound : t.IsSound) {task : ScheduledTask}
    (every : task.schedule = .every d) :
    (t.move (.schedule task)).Beats t.timers.made d (t.now + d) := by
  refine ⟨Nat.lt_succ_self _, fun timer present number => ?_⟩
  rcases List.mem_append.mp present with earlier | new
  · have given := (sound.timers.cancel task.key).made timer earlier
    exact absurd number (Nat.ne_of_lt given)
  · rw [List.mem_singleton.mp new]
    exact ⟨every, by simp [Timer.start, every]⟩

/-! ## No two firings at a time -/

theorem now_le_move (t : Timetable) (m : Move) : t.now ≤ (t.move m).now := by
  cases m with
  | act a =>
    simp only [move]
    split
    · cases a with
      | exit k => exact Nat.le_refl _
      | timer k => exact Nat.le_of_eq (now_go t k).symm
    · exact Nat.le_refl _
  | pass ms => exact Nat.le_add_right _ _
  | _ => exact Nat.le_refl _

theorem now_le_run (t : Timetable) (moves : List Move) : t.now ≤ (t.run moves).now := by
  induction moves generalizing t with
  | nil => exact Nat.le_refl _
  | cons m rest ih => exact Nat.le_trans (t.now_le_move m) (ih (t.move m))

theorem firing?_eq_some {f : Firing} (h : t.firing? n m = some f) :
    t.ends.lookup n = none ∧ f = ⟨t.now, t.now + t.firing⟩ ∧
      (t.move m).ends.lookup n = some f.finish := by
  unfold firing? at h
  split at h
  · next k =>
    split at h
    · next begins =>
      obtain ⟨rfl, goesOn, idle⟩ := begins
      cases h
      exact ⟨idle, rfl, by simpa [move, goesOn, step] using lookup_go_of_idle idle⟩
    · cases h
  · cases h

/-- A firing that is being dealt with is over before the timer goes on. -/
theorem lookup_move (h : t.firing? n m = none) {finish : Nat}
    (ending : t.ends.lookup n = some finish) :
    (t.move m).ends.lookup n = some finish ∨
      finish ≤ (t.move m).now ∧ (t.move m).ends.lookup n = none := by
  cases m with
  | act a =>
    simp only [move]
    split
    · next acts =>
      cases a with
      | exit k => exact .inl ending
      | timer k =>
        by_cases other : k = n
        · subst other
          have past : finish ≤ t.now := by simpa [able, ending] using acts
          exact .inr ⟨(now_go t k).symm ▸ past, lookup_go_of_ending ending⟩
        · exact .inl ((lookup_go_of_ne other).trans ending)
    · exact .inl ending
  | _ => exact .inl ending

/-- Firings that come do not begin before the present one is over. -/
theorem le_start_of_mem (moves : List Move) (t : Timetable) {f : Firing}
    (mem : f ∈ t.firings n moves) :
    t.now ≤ f.start ∧ ∀ finish, t.ends.lookup n = some finish → finish ≤ f.start := by
  induction moves generalizing t with
  | nil => cases mem
  | cons m rest ih =>
    rcases List.mem_append.mp mem with first | later
    · obtain ⟨idle, rfl, -⟩ := firing?_eq_some (Option.mem_toList.mp first)
      exact ⟨Nat.le_refl _, fun finish ending => by rw [idle] at ending; cases ending⟩
    · obtain ⟨after, free⟩ := ih (t.move m) later
      refine ⟨Nat.le_trans (t.now_le_move m) after, fun finish ending => ?_⟩
      cases begun : t.firing? n m with
      | some g =>
        rw [(firing?_eq_some begun).1] at ending
        cases ending
      | none =>
        rcases lookup_move begun ending with goesOn | ⟨past, -⟩
        · exact free finish goesOn
        · exact Nat.le_trans past after

/-- A firing is over before the next one begins. -/
theorem pairwise_firings (n : Nat) (t : Timetable) (moves : List Move) :
    (t.firings n moves).Pairwise fun f g => f.finish ≤ g.start := by
  induction moves generalizing t with
  | nil => exact .nil
  | cons m rest ih =>
    cases begun : t.firing? n m with
    | none => simpa [firings, begun] using ih (t.move m)
    | some f =>
      obtain ⟨-, -, ending⟩ := firing?_eq_some begun
      simp only [firings, begun, Option.toList_some, List.singleton_append, List.pairwise_cons]
      exact ⟨fun g later => (le_start_of_mem rest (t.move m) later).2 _ ending, ih (t.move m)⟩

theorem start_le_now (moves : List Move) (t : Timetable) {f : Firing}
    (mem : f ∈ t.firings n moves) : f.start ≤ (t.run moves).now := by
  induction moves generalizing t with
  | nil => cases mem
  | cons m rest ih =>
    rcases List.mem_append.mp mem with first | later
    · obtain ⟨-, rfl, -⟩ := firing?_eq_some (Option.mem_toList.mp first)
      exact now_le_run t (m :: rest)
    · exact ih (t.move m) later

/-! ## An interval between two firings -/

/-- The first firing begins at a time or later, and each begins an interval later than that. -/
def IsSpaced (d : Nat) : Nat → List Firing → Prop
  | _, [] => True
  | base, f :: rest => base ≤ f.start ∧ IsSpaced d (base + d) rest

theorem IsSpaced.start_ge {fs : List Firing} (spaced : IsSpaced d base fs) {k : Nat}
    (h : k < fs.length) : base + k * d ≤ fs[k].start := by
  induction fs generalizing base k with
  | nil => cases h
  | cons f rest ih =>
    cases k with
    | zero => simpa using spaced.1
    | succ k =>
      have inside : k < rest.length := Nat.lt_of_succ_lt_succ h
      have later := ih spaced.2 inside
      rw [List.getElem_cons_succ]
      calc base + (k + 1) * d = base + d + k * d := by rw [Nat.succ_mul]; omega
        _ ≤ rest[k].start := later

/-- Of spaced firings no more begin until a time than there are intervals until then. -/
theorem IsSpaced.count_le {fs : List Firing} (spaced : IsSpaced d (base + d) fs) (pos : 0 < d)
    (time : Nat) : fs.countP (fun f => f.start ≤ time) ≤ (time - base) / d := by
  induction fs generalizing base with
  | nil => exact Nat.zero_le _
  | cons f rest ih =>
    obtain ⟨first, later⟩ := spaced
    have fewer := ih later
    by_cases begun : f.start ≤ time
    · have interval : time - base = time - (base + d) + d := by omega
      rw [List.countP_cons_of_pos (by simpa using begun), interval, Nat.add_div_right _ pos]
      exact Nat.succ_le_succ fewer
    · rw [List.countP_cons_of_neg (by simpa using begun)]
      exact Nat.le_trans fewer (Nat.div_le_div_right (by omega))

theorem Beats.isSpaced (beats : t.Beats n d due) (reached : base ≤ due) (moves : List Move) :
    IsSpaced d base (t.firings n moves) := by
  induction moves generalizing t due base with
  | nil => trivial
  | cons m rest ih =>
    cases beats.pulse m with
    | begins isDue idle present begun now ends after =>
      have next := Ticker.due_add_period_le_nextFrom ⟨d, due⟩ t.now
      simp only [firings, begun, Option.toList_some, List.singleton_append]
      exact ⟨Nat.le_trans reached isDue,
        ih after (Nat.le_trans (Nat.add_le_add_right reached d) next)⟩
    | finishes finish past ending none_begun now ends after =>
      simpa [firings, none_begun] using ih after reached
    | waits ms passes =>
      subst passes
      exact ih (t := t.move (.pass ms)) ⟨beats.given, beats.timers⟩ reached
    | rests none_begun now ends present after =>
      simpa [firings, none_begun] using ih after reached

/-! ## Firings that keep the grid -/

/-- The clock does not run past a moment at which the timer can go on. -/
def Awaits (t : Timetable) (n : Nat) : Move → Prop
  | .pass ms => ∀ i < ms, able (.timer n) { t with now := t.now + i } = false
  | _ => True

instance : Decidable (t.Awaits n m) := by
  unfold Awaits
  split <;> infer_instance

/-- In a whole run the clock waits for the timer. -/
def IsPunctual (n : Nat) : Timetable → List Move → Prop
  | _, [] => True
  | t, m :: rest => t.Awaits n m ∧ IsPunctual n (t.move m) rest

instance decidableIsPunctual (n : Nat) : ∀ (t : Timetable) (moves : List Move),
    Decidable (t.IsPunctual n moves)
  | _, [] => inferInstanceAs (Decidable True)
  | t, m :: rest =>
    have := decidableIsPunctual n (t.move m) rest
    inferInstanceAs (Decidable (_ ∧ _))

/-- A firing is over before the first multiple of an interval, counted from a start, that comes
after its begin. -/
def Firing.IsInTime (f : Firing) (start d : Nat) : Prop :=
  f.finish ≤ start + ((f.start - start) / d + 1) * d

instance (f : Firing) (start d : Nat) : Decidable (f.IsInTime start d) :=
  inferInstanceAs (Decidable (_ ≤ _))

/-- The timer is not late: neither has its due time passed, nor does its firing outlast that. -/
structure IsPaced (t : Timetable) (n d due : Nat) : Prop extends Beats t n d due where
  idle : t.ends.lookup n = none → t.IsPresent n → t.now ≤ due
  firing : ∀ finish, t.ends.lookup n = some finish → t.now ≤ finish ∧ finish ≤ due

/-- A timer that is not firing goes on when it is due. -/
theorem Beats.able_at (beats : t.Beats n d due) (sound : t.IsSound)
    (idle : t.ends.lookup n = none) (present : t.IsPresent n) (time : Nat) :
    able (.timer n) { t with now := time } = decide (due ≤ time) := by
  obtain ⟨timer, there, number⟩ := present
  have found : (t.timers.timer? n).isSome := by
    rw [Timers.timer?, List.find?_isSome]
    exact ⟨timer, there, beq_iff_eq.mpr number⟩
  obtain ⟨timer, found⟩ := Option.isSome_iff_exists.mp found
  have there := Timers.mem_of_timer? found
  have number := Timers.number_of_timer? found
  have rests : timer.isFiring = false := by
    rw [Bool.eq_false_iff, Ne, sound.firing timer there, number]
    exact lookup_ends_eq_none.mp idle
  simp [able, idle, found, Timer.canFire, rests, (beats.timers timer there number).2]

theorem IsPaced.pass (paced : t.IsPaced n d due) (sound : t.IsSound) {ms : Nat}
    (awaits : t.Awaits n (.pass ms)) : (t.move (.pass ms)).IsPaced n d due where
  given := paced.given
  timers := paced.timers
  idle := by
    intro idle present
    by_contra late
    have early := paced.idle idle present
    have missed := awaits (due - t.now) (by simp only [move] at late; omega)
    rw [paced.able_at sound idle present] at missed
    simp [Nat.add_sub_cancel' early] at missed
  firing := by
    intro finish ending
    obtain ⟨early, inside⟩ := paced.firing finish ending
    refine ⟨?_, inside⟩
    by_contra late
    have missed := awaits (finish - t.now) (by simp only [move] at late; omega)
    have ending : t.ends.lookup n = some finish := ending
    simp [able, ending, Nat.add_sub_cancel' early] at missed

/-- The timer fires when it is due, and its firing does not outlast the interval. -/
theorem IsPaced.begins (paced : t.IsPaced n d due) (isDue : due ≤ t.now)
    (idle : t.ends.lookup n = none) (present : t.IsPresent n) (now : (t.move m).now = t.now)
    (ends : (t.move m).ends.lookup n = some (t.now + t.firing))
    (beats : (t.move m).Beats n d (Ticker.nextFrom ⟨d, due⟩ t.now).due)
    (inTime : t.now + t.firing ≤ due + d) :
    t.now = due ∧ (t.move m).IsPaced n d (due + d) := by
  have onTime : t.now = due := Nat.le_antisymm (paced.idle idle present) isDue
  have next : (Ticker.nextFrom ⟨d, due⟩ t.now).due = due + d := by
    simp [Ticker.nextFrom, onTime]
  rw [next] at beats
  refine ⟨onTime, beats, fun none_left => ?_, fun finish ending => ?_⟩
  · rw [ends] at none_left
    cases none_left
  · rw [ends, Option.some.injEq] at ending
    subst ending
    rw [now]
    exact ⟨Nat.le_add_right _ _, inTime⟩

/-- When the clock waits for the timer and its firings are in time, they begin at the multiples of
the interval, one after the other. -/
theorem IsPaced.run {start : Nat} (pos : 0 < d) (moves : List Move) {t : Timetable} {j : Nat}
    (sound : t.IsSound) (paced : t.IsPaced n d (start + j * d)) (punctual : t.IsPunctual n moves)
    (inTime : ∀ f ∈ t.firings n moves, f.IsInTime start d) :
    (∀ k (h : k < (t.firings n moves).length),
      (t.firings n moves)[k].start = start + (j + k) * d) ∧
    (t.run moves).IsPaced n d (start + (j + (t.firings n moves).length) * d) := by
  induction moves generalizing t j with
  | nil => exact ⟨fun k h => absurd h (Nat.not_lt_zero k), paced⟩
  | cons m rest ih =>
    obtain ⟨awaits, later⟩ := punctual
    -- A move with which no firing begins changes nothing of what is to come.
    have skip : t.firing? n m = none → (t.move m).IsPaced n d (start + j * d) →
        (∀ k (h : k < (t.firings n (m :: rest)).length),
          (t.firings n (m :: rest))[k].start = start + (j + k) * d) ∧
        (t.run (m :: rest)).IsPaced n d
          (start + (j + (t.firings n (m :: rest)).length) * d) := by
      intro none_begun paced
      have same : t.firings n (m :: rest) = (t.move m).firings n rest := by
        simp [firings, none_begun]
      rw [same] at inTime
      simp only [same]
      exact ih (sound.move m) paced later inTime
    cases paced.pulse m with
    | begins isDue idle present begun now ends beats =>
      have all : t.firings n (m :: rest) =
          ⟨t.now, t.now + t.firing⟩ :: (t.move m).firings n rest := by
        simp [firings, begun]
      rw [all] at inTime
      have onTime : t.now = start + j * d := Nat.le_antisymm (paced.idle idle present) isDue
      have first : t.now + t.firing ≤ start + j * d + d := by
        have soon := inTime _ List.mem_cons_self
        rw [Firing.IsInTime, onTime, Nat.add_sub_cancel_left, Nat.mul_div_cancel j pos,
          Nat.succ_mul, ← Nat.add_assoc] at soon
        rwa [onTime]
      obtain ⟨-, after⟩ := paced.begins isDue idle present now ends beats first
      have next : start + j * d + d = start + (j + 1) * d := by rw [Nat.succ_mul]; omega
      rw [next] at after
      obtain ⟨starts, final⟩ := ih (sound.move m) after later
        fun f hf => inTime f (List.mem_cons_of_mem _ hf)
      simp only [all]
      constructor
      · intro k h
        cases k with
        | zero => simpa using onTime
        | succ k =>
          have inside : k < ((t.move m).firings n rest).length := Nat.lt_of_succ_lt_succ h
          rw [List.getElem_cons_succ, starts k inside]
          congr 2
          omega
      · rw [List.length_cons, Nat.add_comm _ 1, ← Nat.add_assoc]
        exact final
    | finishes finish past ending none_begun now ends beats =>
      obtain ⟨early, inside⟩ := paced.firing finish ending
      refine skip none_begun ⟨beats, fun _ _ => ?_, fun other others => ?_⟩
      · rw [now]
        exact Nat.le_trans early inside
      · rw [ends] at others
        cases others
    | waits ms passes =>
      subst passes
      exact skip rfl (paced.pass sound awaits)
    | rests none_begun now ends present beats =>
      refine skip none_begun ⟨beats, fun idle there => ?_, fun finish ending => ?_⟩
      · rw [now]
        exact paced.idle (ends ▸ idle) (present there)
      · rw [now]
        exact paced.firing finish (ends ▸ ending)

theorem IsPaced.le_due (paced : t.IsPaced n d due) (present : t.IsPresent n) : t.now ≤ due := by
  cases ending : t.ends.lookup n with
  | none => exact paced.idle ending present
  | some finish => exact Nat.le_trans (paced.firing finish ending).1 (paced.firing finish ending).2

/-- A timer that waits is not due yet. -/
theorem IsPaced.lt_due (paced : t.IsPaced n d due) (sound : t.IsSound) (present : t.IsPresent n)
    (waits : able (.timer n) t = false) : t.now < due := by
  cases ending : t.ends.lookup n with
  | none =>
    have goesOn := paced.able_at sound ending present t.now
    rw [show ({ t with now := t.now } : Timetable) = t from rfl, waits] at goesOn
    simpa using goesOn
  | some finish =>
    have early : t.now < finish := by simpa [able, ending] using waits
    exact Nat.lt_of_lt_of_le early (paced.firing finish ending).2

theorem exists_of_not_isStopped (beats : t.Beats n d due) (goesOn : ¬t.timers.IsStopped n) :
    t.IsPresent n := by
  by_contra gone
  exact goesOn ⟨beats.given, fun timer present number => absurd ⟨timer, present, number⟩ gone⟩

/-- A new timer is not late. -/
theorem isPaced_schedule (sound : t.IsSound) {task : ScheduledTask}
    (every : task.schedule = .every d) :
    (t.move (.schedule task)).IsPaced t.timers.made d (t.now + d) where
  toBeats := beats_schedule sound every
  idle _ _ := Nat.le_add_right _ _
  firing := by
    intro finish ending
    have fresh : t.ends.lookup t.timers.made = none :=
      lookup_ends_eq_none.mpr fun mem => absurd (sound.ends _ mem) (Nat.lt_irrefl _)
    rw [show (t.move (.schedule task)).ends = t.ends from rfl, fresh] at ending
    cases ending

/-- **Interval timers keep their rate.** Let a task with an interval of `d` milliseconds be
scheduled at any moment of any run, and anything happen thereafter, firings that take any time
included. The firings of its timer do not overlap, the one of index `k` begins `k + 1` intervals
after the moment or later, and so at most as many have begun at a time as intervals have passed. If
the clock does not run past the timer when that can go on, and each firing is over when the next
multiple of the interval comes, then each begins exactly at its multiple; and unless the timer is
told to stop none is left out. -/
theorem interval_timers_keep_their_rate (origin : Timestamp) (before after : List Move)
    (task : ScheduledTask) (d : Nat) (every : task.schedule = .every d) (pos : 0 < d) :
    let t := ({ origin } : Timetable).run before
    let n := t.timers.made
    let s := t.move (.schedule task)
    let u := s.run after
    let fs := s.firings n after
    u.fired.count n = s.fired.count n + fs.length ∧
    fs.Pairwise (fun f g => f.finish ≤ g.start) ∧
    (∀ k (h : k < fs.length), t.now + (k + 1) * d ≤ fs[k].start) ∧
    (∀ time, fs.countP (fun f => f.start ≤ time) ≤ (time - t.now) / d) ∧
    (s.IsPunctual n after → (∀ f ∈ fs, f.IsInTime t.now d) →
      (∀ k (h : k < fs.length), fs[k].start = t.now + (k + 1) * d) ∧
      (¬u.timers.IsStopped n →
        (∀ k, t.now + k * d < u.now → k ≤ fs.length) ∧
        (able (.timer n) u = false → fs.length = (u.now - t.now) / d))) := by
  intro t n s u fs
  have sound : t.IsSound := (isSound_start origin).run before
  have sound' : s.IsSound := sound.move _
  have paced : s.IsPaced n d (t.now + d) := isPaced_schedule sound every
  have spaced : IsSpaced d (t.now + d) fs := paced.isSpaced (Nat.le_refl _) after
  have low : ∀ k (h : k < fs.length), t.now + (k + 1) * d ≤ fs[k].start := by
    intro k h
    have := spaced.start_ge h
    rw [Nat.succ_mul]
    omega
  refine ⟨count_fired_run n s after, pairwise_firings n s after, low, spaced.count_le pos, ?_⟩
  intro punctual inTime
  have one : t.now + d = t.now + 1 * d := by rw [Nat.one_mul]
  obtain ⟨starts, final⟩ := (one ▸ paced).run pos after sound' punctual inTime
  rw [Nat.add_comm 1] at final
  refine ⟨fun k h => by rw [starts k h, Nat.add_comm 1], fun goesOn => ?_⟩
  have present := exists_of_not_isStopped final.toBeats goesOn
  constructor
  · intro k past
    have bound : u.now ≤ t.now + (fs.length + 1) * d := final.le_due present
    have fewer : k * d < (fs.length + 1) * d := by omega
    exact Nat.le_of_lt_succ (Nat.lt_of_mul_lt_mul_right fewer)
  · intro waits
    have early : u.now < t.now + (fs.length + 1) * d :=
      final.lt_due (sound'.run after) present waits
    have begun : fs.countP (fun f => f.start ≤ u.now) = fs.length :=
      List.countP_eq_length.mpr fun f hf => decide_eq_true (start_le_now after s hf)
    have enough : fs.length ≤ (u.now - t.now) / d := begun ▸ spaced.count_le pos u.now
    have wide : 0 < (fs.length + 1) * d := Nat.mul_pos (Nat.succ_pos _) pos
    refine Nat.le_antisymm enough (Nat.le_of_lt_succ ((Nat.div_lt_iff_lt_mul pos).mpr ?_))
    rw [Nat.succ_eq_add_one]
    omega

/-! ## Three firings -/

namespace Steady

/-- A task that is due every ten milliseconds. -/
def pulse : ScheduledTask where
  botType := ⟨"slack"⟩
  identifier := "pulse"
  schedule := .every 10
  run := fun _ => .done []

/-- A clock that has run for a while. -/
def before : List Move := [.pass 3]

/-- The first firing takes four milliseconds, the second none, the third its whole interval. -/
def after : List Move :=
  [.lasting 4, .pass 10, .act (.timer 0), .pass 4, .act (.timer 0), .lasting 0, .pass 6,
    .act (.timer 0), .act (.timer 0), .lasting 10, .pass 10, .act (.timer 0), .pass 9]

/-- The timer of a task that is scheduled after three milliseconds fires at 13, 23 and 33. -/
theorem pulse_begins_on_time :
    let t := ({ origin := ⟨0, 0⟩ } : Timetable).run before
    let fs := (t.move (.schedule pulse)).firings t.timers.made after
    fs.map Firing.start = [13, 23, 33] ∧
      (∀ k (h : k < fs.length), fs[k].start = t.now + (k + 1) * 10) ∧
      fs.length = (((t.move (.schedule pulse)).run after).now - t.now) / 10 := by
  intro t fs
  obtain ⟨-, -, -, -, onGrid⟩ :=
    interval_timers_keep_their_rate ⟨0, 0⟩ before after pulse 10 rfl (by decide)
  obtain ⟨starts, complete⟩ := onGrid (by decide +kernel) (by decide +kernel)
  exact ⟨by decide +kernel, starts, (complete (by decide +kernel)).2 (by decide +kernel)⟩

end Steady

end Timetable

end Switchboard
