import Switchboard.Proofs.Debounce

/-!
# The clock of a lookout

When time passes at a lookout, its clock moves on from one due time to the next, and the watcher
acts in between until it has to wait. This is a run in the sense of `Lookout.IsRun`
(`exists_advance`), so what is proved of runs holds of it. Its two bounds suffice. The watcher reads
each report once and then flushes or stops, so it waits before the bound of its steps is reached
(`exists_acts`); and the clock moves on with each of its own steps, by a millisecond at least.

So whatever has happened to a lookout, all that settles while time passes is flushed meanwhile
(`exists_flushed`).
-/

namespace Switchboard

namespace Lookout

variable {l start : Lookout} {moves : List Move}

/-! ## Until the watcher waits -/

/-- The watcher acts so often. -/
def acts (count : Nat) : List Move := List.replicate count .act

theorem now_acts (l : Lookout) (count : Nat) : (l.run (acts count)).now = l.now := by
  induction count generalizing l with
  | zero => rfl
  | succ count ih => exact ih (l.move .act)

theorem isAble_stopped (cancelled : l.watcher.isCancelled = true) :
    (l.move .act).watcher.isAble l.now = false := by
  rw [move, act, Watcher.act, if_pos cancelled]
  rfl

/-- After a flush nothing is due any more. -/
theorem isAble_flushed (flushes : l.Flushes .act) :
    (l.move .act).watcher.isAble l.now = false := by
  obtain ⟨-, running, empty⟩ := flushes
  have flushed : (l.move .act).watcher =
      { l.watcher with watches := (l.watcher.watches.flush l.now).2 } := by
    simp [move, act, Watcher.act, running, empty]
  refine Bool.eq_false_iff.mpr fun able => ?_
  obtain ⟨p, due, past, pends⟩ := exists_due_of_isAble (l := l.move .act) able
    (by rw [flushed]; exact running) (by rw [flushed]; exact empty)
  rw [flushed, Watches.pends_flush] at pends
  exact absurd past (Nat.not_le.mpr pends.2)

/-- After it has acted the watcher waits, or it has read a report. -/
theorem isAble_act_or (l : Lookout) :
    (l.move .act).watcher.isAble l.now = false ∨
      ∃ x, l.watcher.inbox = x :: (l.move .act).watcher.inbox := by
  cases running : l.watcher.isCancelled with
  | true => exact .inl (isAble_stopped running)
  | false =>
    cases inbox : l.watcher.inbox with
    | nil => exact .inl (isAble_flushed ⟨rfl, running, inbox⟩)
    | cons x rest =>
      refine .inr ⟨x, ?_⟩
      rw [move, act, Watcher.act, if_neg (Bool.eq_false_iff.mp running), inbox]
      cases x <;> rfl

/-- The watcher reads its reports and flushes, or stops; then it waits. -/
theorem exists_acts (l : Lookout) :
    ∃ count ≤ l.watcher.inbox.length + 1, l.IsRun (acts count) ∧
      (l.run (acts count)).watcher.isAble l.now = false := by
  cases able : l.watcher.isAble l.now with
  | false => exact ⟨0, Nat.zero_le _, trivial, able⟩
  | true =>
    rcases l.isAble_act_or with waits | ⟨x, read⟩
    · exact ⟨1, Nat.le_add_left _ _, ⟨able, trivial⟩, waits⟩
    · obtain ⟨count, bound, run, waits⟩ := exists_acts (l.move .act)
      refine ⟨count + 1, ?_, ⟨able, run⟩, waits⟩
      rw [read, List.length_cons]
      exact Nat.succ_le_succ bound
termination_by l.watcher.inbox.length
decreasing_by
  rw [read, List.length_cons]
  exact Nat.lt_succ_self _

theorem serve_idle (idle : l.watcher.isAble l.now = false) (fuel : Nat) :
    processes.serve (fuel + 1) [] l = l := by
  have none : (processes.all l).filter (fun p => processes.able p l) = [] := by
    simp [processes, idle]
  rw [Processes.serve, none]

/-- Within a bound that is large enough, the watcher is served until it waits. -/
theorem serve_eq_run {count fuel : Nat} (enough : count + 2 ≤ fuel) (run : l.IsRun (acts count))
    (waits : (l.run (acts count)).watcher.isAble l.now = false) :
    processes.serve fuel [()] l = l.run (acts count) := by
  obtain ⟨fuel, rfl⟩ : ∃ n, fuel = n + 2 := ⟨fuel - 2, by omega⟩
  induction count generalizing l fuel with
  | zero =>
    have idle : processes.able () l = false := waits
    rw [Processes.serve, if_neg (Bool.eq_false_iff.mp idle)]
    exact serve_idle waits fuel
  | succ count ih =>
    obtain ⟨fuel, rfl⟩ : ∃ n, fuel = n + 1 := ⟨fuel - 1, by omega⟩
    have able : processes.able () l = true := run.1
    rw [Processes.serve, if_pos able]
    exact ih (l := l.move .act) run.2 waits fuel (by omega)

/-- The bound of the watcher's steps is large enough. -/
theorem exists_settle (l : Lookout) :
    ∃ count, l.IsRun (acts count) ∧ processes.settle l = l.run (acts count) ∧
      (l.run (acts count)).watcher.isAble l.now = false := by
  cases able : l.watcher.isAble l.now with
  | false => exact ⟨0, trivial, serve_idle able _, able⟩
  | true =>
    obtain ⟨count, bound, run, waits⟩ := exists_acts l
    refine ⟨count, run, ?_, waits⟩
    have one : (processes.all l).filter (fun p => processes.able p l) = [()] := by
      simp [processes, able]
    have load : processes.load l = 2 * l.watcher.inbox.length + 8 := rfl
    rw [Processes.settle, load, Processes.serve, one]
    exact serve_eq_run (by omega) run waits

/-! ## While time passes -/

/-- A watcher that waits has no due time behind it. -/
theorem IsTimely.now_lt (h : l.IsTimely) (waits : l.watcher.isAble l.now = false) :
    ∀ due ∈ l.watcher.dues, l.now < due := by
  intro due mem
  obtain ⟨f, hf, rfl⟩ := List.mem_map.mp mem
  refine Nat.lt_of_not_le fun past => ?_
  rw [h.isAble_of_due ⟨f, hf, FilePath.same_refl _, rfl⟩ past] at waits
  cases waits

/-- The clock moves on to a time that is not beyond the next due time, and the watcher acts. -/
theorem exists_tick (waits : l.watcher.isAble l.now = false) {time : Nat} (later : l.now ≤ time)
    (soon : ∀ due ∈ l.watcher.dues, time ≤ due) :
    ∃ moves, l.IsRun moves ∧ l.run moves = processes.settle (processes.setNow time l) ∧
      (l.run moves).now = time ∧ (l.run moves).watcher.isAble time = false := by
  have reached : l.now + (time - l.now) = time := Nat.add_sub_cancel' later
  have passed : l.move (.pass (time - l.now)) = processes.setNow time l := by
    rw [move, reached]
    rfl
  obtain ⟨count, run, settled, idle⟩ := exists_settle (processes.setNow time l)
  have whole : l.run (.pass (time - l.now) :: acts count) =
      (processes.setNow time l).run (acts count) := by
    rw [← passed]
    rfl
  refine ⟨.pass (time - l.now) :: acts count, ⟨⟨waits, ?_⟩, ?_⟩, ?_, ?_, ?_⟩
  · rwa [reached]
  · rwa [passed]
  · rw [settled, whole]
  · rw [whole, now_acts]
    rfl
  · rwa [whole]

/-- With a bound above the time that is left, the clock comes to that time. -/
theorem exists_elapse {time fuel : Nat} (h : l.IsTimely)
    (waits : l.watcher.isAble l.now = false) (later : l.now ≤ time)
    (enough : time - l.now < fuel) :
    ∃ moves, l.IsRun moves ∧ l.run moves = processes.elapse (fun _ => false) time fuel l ∧
      (l.run moves).now = time ∧ (l.run moves).watcher.isAble time = false := by
  induction fuel generalizing l with
  | zero => exact absurd enough (Nat.not_lt_zero _)
  | succ fuel ih =>
    have ahead : ∀ due ∈ l.watcher.dues, l.now < due := h.now_lt waits
    have mem_dues : ∀ due ∈ l.watcher.dues, due ∈ (processes.dues l).filter (processes.now l < ·) :=
      fun due mem => List.mem_filter.mpr ⟨mem, decide_eq_true (ahead due mem)⟩
    rw [Processes.elapse, if_neg Bool.false_ne_true]
    cases next : processes.nextDue? l with
    | none =>
      refine exists_tick waits later fun due mem => ?_
      have none := List.min?_eq_none_iff.mp next
      have := mem_dues due mem
      rw [none] at this
      cases this
    | some due =>
      obtain ⟨mem, least⟩ := List.min?_eq_some_iff.mp next
      have first : ∀ other ∈ l.watcher.dues, due ≤ other :=
        fun other mem => least other (mem_dues other mem)
      have soon : l.now < due := ahead due (List.mem_filter.mp mem).1
      by_cases within : due ≤ time
      · obtain ⟨moves, run, settled, now, waits⟩ := exists_tick waits soon.le first
        simp only [if_pos within, ← settled]
        obtain ⟨rest, run', elapsed, now', waits'⟩ :=
          ih (isTimely_run h run) (by rwa [now]) (by rwa [now]) (by rw [now]; omega)
        refine ⟨moves ++ rest, isRun_append.mpr ⟨run, run'⟩, ?_⟩
        rw [run_append]
        exact ⟨elapsed, now', waits'⟩
      · simp only [if_neg within]
        have beyond : time ≤ due := Nat.le_of_not_le within
        exact exists_tick waits later fun other mem => beyond.trans (first other mem)

/-- Time that passes is a run. -/
theorem exists_advance (h : l.IsTimely) (waits : l.watcher.isAble l.now = false) (ms : Nat) :
    ∃ moves, l.IsRun moves ∧ l.run moves = processes.advance ms l ∧
      (l.run moves).now = l.now + ms ∧ (l.run moves).watcher.isAble (l.now + ms) = false :=
  exists_elapse h waits (Nat.le_add_right _ _) (by change l.now + ms - l.now < ms + 1; omega)

/-- Whatever has happened to a lookout, when time passes then all that settles until it has passed
is flushed. -/
theorem exists_flushed {base : FilePath} {debounce : Nat}
    (fresh : start.watcher = .ofBase base debounce) (positive : 0 < debounce)
    (run : start.IsRun moves)
    (waits : (start.run moves).watcher.isAble (start.run moves).now = false) (ms : Nat) :
    ∃ rest, start.IsRun (moves ++ rest) ∧
      start.run (moves ++ rest) = processes.advance ms (start.run moves) ∧
      ∀ p t, Settles start (moves ++ rest) p t → t ≤ (start.run moves).now + ms →
        HasFlushed start (moves ++ rest) t := by
  obtain ⟨rest, run', advanced, now, idle⟩ :=
    exists_advance (isTimely_run (isTimely_of_fresh fresh) run) waits ms
  have whole : start.IsRun (moves ++ rest) := isRun_append.mpr ⟨run, run'⟩
  rw [← run_append] at advanced now idle
  refine ⟨rest, whole, advanced, fun p t settles past => ?_⟩
  refine hasFlushed_of_settles fresh positive whole settles ?_
  rw [now]
  rcases Nat.lt_or_eq_of_le past with before | rfl
  · exact .inl before
  · exact .inr ⟨rfl, idle⟩

end Lookout

end Switchboard
