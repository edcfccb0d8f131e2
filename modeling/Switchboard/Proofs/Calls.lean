import Switchboard.Proofs.PoolShutdown
import Switchboard.Proofs.Turns

/-!
# Who calls

The bots, the commands, the steps and the tasks are called by workers only, each for the job that it
has in hand (`Runner.calls_move`). The workers of an open pool stay (`Runner.workers_move`). From a
closed pool none of them takes a job, so that each has in hand what it had when the pool was closed,
or nothing (`Runner.job?_move_of_closed`); and when all have left, nobody comes back
(`Runner.isDeserted_move`).
-/

namespace Switchboard

/-- Whether a happening is the call of an executor, or of a bot that is to respond or to send. -/
def Happening.isCall {κ : Type} : Happening κ → Bool
  | resumed .. | executed .. | responded .. | performed .. | sent .. => true
  | _ => false

namespace Runner

variable {κ : Type} {r r' r'' : Runner κ} {n : Nat} {w : Work κ}

/-- The calls so far, in order. -/
def calls (r : Runner κ) : List (Happening κ) := r.trace.filter Happening.isCall

theorem calls_append (es : List (Happening κ)) (trace : r'.trace = r.trace ++ es)
    (silent : ∀ e ∈ es, e.isCall = false) : r'.calls = r.calls := by
  have none : es.filter Happening.isCall = [] :=
    List.filter_eq_nil_iff.mpr fun e he => by simp [silent e he]
  rw [calls, trace, List.filter_append, none, List.append_nil, calls]

/-! ## Those who do not work -/

/-- Nobody is called, no worker comes or goes, and each has in hand what it had. -/
structure IsQuiet (r r' : Runner κ) : Prop where
  idle : r'.pool.idle = r.pool.idle
  busy : r'.pool.busy = r.pool.busy
  calls : r'.calls = r.calls

namespace IsQuiet

theorem refl (r : Runner κ) : r.IsQuiet r := ⟨rfl, rfl, rfl⟩

theorem trans (h : r.IsQuiet r') (more : r'.IsQuiet r'') : r.IsQuiet r'' :=
  ⟨more.idle.trans h.idle, more.busy.trans h.busy, more.calls.trans h.calls⟩

theorem update (h : r.IsQuiet r') (idle : r''.pool.idle = r'.pool.idle)
    (busy : r''.pool.busy = r'.pool.busy) (trace : r''.trace = r'.trace) : r.IsQuiet r'' where
  idle := idle.trans h.idle
  busy := busy.trans h.busy
  calls := by
    rw [Runner.calls, trace]
    exact h.calls

theorem emit (h : r.IsQuiet r') {e : Happening κ} (silent : e.isCall = false) :
    r.IsQuiet (r'.emit e) := by
  refine ⟨h.idle, h.busy, Eq.trans ?_ h.calls⟩
  exact calls_append [e] rfl (by simp [silent])

theorem setLane (h : r.IsQuiet r') (k : Nat) (f : Lane κ → Lane κ) : r.IsQuiet (r'.setLane k f) :=
  h.update rfl rfl rfl

theorem workers (h : r.IsQuiet r') : r'.pool.workers = r.pool.workers := by
  rw [Pool.workers, Pool.workers, h.idle, h.busy]

theorem job? (h : r.IsQuiet r') (n : Nat) : r'.pool.job? n = r.pool.job? n := by
  rw [Pool.job?, Pool.job?, h.busy]

end IsQuiet

theorem isQuiet_accept (r : Runner κ) (k : Nat) (i : Input) : r.IsQuiet (r.accept k i) := by
  have accepted : r.IsQuiet ({ r with
      metrics := r.metrics.increment inputCounter 1 (botLabels (r.botTypeOf k)) }.emit
        (.accepted (r.botTypeOf k) i)) := by
    refine IsQuiet.emit ?_ rfl
    exact (IsQuiet.refl r).update rfl rfl rfl
  unfold accept
  dsimp only
  split
  · exact accepted.update rfl rfl rfl
  · exact accepted.update rfl rfl rfl
  · exact accepted.update rfl rfl rfl

theorem isQuiet_intakeStep (r : Runner κ) (k : Nat) : r.IsQuiet (r.intakeStep k) := by
  have refl := IsQuiet.refl r
  unfold intakeStep
  split
  · exact refl
  · split
    · exact refl
    · unfold offer
      split
      · exact refl.setLane ..
      · split
        · exact refl.update rfl rfl rfl
        · exact refl.update rfl rfl rfl
    · unfold enter
      dsimp only
      split
      · exact refl.update rfl rfl rfl
      · split
        · exact refl
        · exact refl.update rfl rfl rfl
    · split
      · exact refl.setLane ..
      · split
        · exact refl
        · exact (refl.setLane k _).trans (isQuiet_accept ..)

theorem isQuiet_errorStep (r : Runner κ) (k : Nat) : r.IsQuiet (r.errorStep k) := by
  have refl := IsQuiet.refl r
  unfold errorStep
  split
  · exact refl
  · split
    · exact refl
    · exact (refl.emit rfl).setLane ..
    · exact (refl.setLane k _).setLane ..
    · split
      · exact refl.setLane ..
      · split
        · exact refl.setLane ..
        · exact (refl.emit (e := .noted _) rfl).setLane ..

theorem isQuiet_supervisorStep (r : Runner κ) (k : Nat) : r.IsQuiet (r.supervisorStep k) := by
  have refl := IsQuiet.refl r
  unfold supervisorStep
  split
  · exact refl
  · dsimp only
    split
    · exact refl.update rfl rfl rfl
    · split
      · exact (refl.emit (e := .noted .runLoopFailed) rfl).update rfl rfl rfl
      · exact refl.update rfl rfl rfl
    · exact refl.setLane ..
    · exact refl

theorem isQuiet_timerStep (r : Runner κ) (n : Nat) : r.IsQuiet (r.timerStep n) := by
  have refl := IsQuiet.refl r
  unfold timerStep
  split
  · exact refl
  · next t _ =>
    split
    · dsimp only
      split
      · exact refl.update rfl rfl rfl
      · split
        · exact refl
        · exact refl.update rfl rfl rfl
    · have fired : r.IsQuiet ({ r with
          timers := r.timers.update n fun t => t.fire r.now }.emit (.fired t.task.key)) := by
        refine IsQuiet.emit ?_ rfl
        exact refl.update rfl rfl rfl
      unfold fire
      dsimp only
      split
      · exact (fired.emit (e := .noted .taskWithoutBot) rfl).update rfl rfl rfl
      · split
        · exact fired.update rfl rfl rfl
        · split
          · exact fired.update rfl rfl rfl
          · exact fired.update rfl rfl rfl

/-- But for the workers all actors are quiet. -/
theorem isQuiet_step (r : Runner κ) {a : Actor} (other : ∀ n, a ≠ .worker n) :
    r.IsQuiet (step a r) := by
  have refl := IsQuiet.refl r
  cases a with
  | worker n => exact absurd rfl (other n)
  | intake k => exact isQuiet_intakeStep r k
  | errorLoop k => exact isQuiet_errorStep r k
  | supervisor k => exact isQuiet_supervisorStep r k
  | timer n => exact isQuiet_timerStep r n
  | runLoop k => exact refl.setLane ..
  | course =>
    show r.IsQuiet r.courseStep
    unfold courseStep
    split
    all_goals exact refl.update rfl rfl rfl
  | planner =>
    show r.IsQuiet r.plannerStep
    unfold plannerStep
    split
    · exact refl
    · exact refl.update rfl rfl rfl
  | watcher =>
    refine ⟨rfl, rfl, calls_append (r.workshop.watch.notes.map .noted) rfl ?_⟩
    simp [Happening.isCall]
  | timerExit n => exact refl.update rfl rfl rfl
  | plannerExit => exact refl.update rfl rfl rfl
  | sweeperExit => exact refl.update rfl rfl rfl
  | sweeper => exact refl.update rfl rfl rfl
  | gaugeExit => exact refl.update rfl rfl rfl
  | gauge => exact refl.update rfl rfl rfl

theorem isQuiet_move (r : Runner κ) {m : Move} (other : ∀ n, m ≠ .act (.worker n)) :
    r.IsQuiet (r.move m) := by
  have refl := IsQuiet.refl r
  cases m with
  | act a =>
    unfold move
    dsimp only
    split
    · exact isQuiet_step r fun n same => other n (by rw [same])
    · exact refl
  | pass ms => exact refl.update rfl rfl rfl
  | tell k i => exact refl.setLane ..
  | raise k e => exact refl.setLane ..
  | hangUp k => exact refl.setLane ..
  | edit files => exact refl.update rfl rfl rfl
  | report x => exact refl.update rfl rfl rfl
  | cancel => exact refl.update rfl rfl rfl

/-! ## Workers -/

/-- A worker makes something of the job in its hands, or puts it down. -/
def Handles (r : Runner κ) (n : Nat) (w : Work κ) (p : Pool (Work κ)) : Prop :=
  ∃ next, p = putDown r.pool n next ∧ ∀ v, next = some v → v.job = w.job

theorem handles_setStage (w : Work κ) (s : Stage κ) :
    r.Handles n w (r.setStage n w s).pool := by
  refine ⟨some { w with stage := s }, rfl, ?_⟩
  rintro v ⟨⟩
  rfl

theorem handles_finish (w : Work κ) : r.Handles n w (r.finish n).pool :=
  ⟨none, rfl, by simp⟩

theorem handles_begin (r : Runner κ) (n : Nat) (w : Work κ) : r.Handles n w (r.begin n w).pool := by
  unfold begin
  dsimp only
  split
  · exact handles_setStage ..
  · split
    · exact handles_setStage ..
    · split
      · exact handles_setStage ..
      · unfold respond
        split
        · exact handles_finish w
        · dsimp only
          split
          · exact handles_finish w
          · exact handles_finish w
      · exact handles_finish w
  · exact handles_setStage ..

theorem handles_concludeTalk (r : Runner κ) (n : Nat) (w : Work κ) (i : Input) (label : String)
    (since : Nat) (outcome : Outcome (Turn κ)) :
    r.Handles n w (r.concludeTalk n w i label since outcome).pool := by
  cases outcome with
  | panicked m => exact handles_finish w
  | failed c => exact handles_finish w
  | done t =>
    have kept : ∀ (s : Runner κ) (step : Option (Step κ)),
        (s.keep i.sender step).pool = s.pool := by
      intro s step
      cases step <;> rfl
    refine ⟨some { w with stage := .sending (turnOutputs i t) }, ?_, ?_⟩
    · simp only [concludeTalk, setStage, kept]
      rfl
    · rintro v ⟨⟩
      rfl

theorem handles_concludeTask (r : Runner κ) (n : Nat) (w : Work κ) (t : ScheduledTask)
    (outcome : Outcome (List TaskResult)) :
    r.Handles n w (r.concludeTask n w t outcome).pool := by
  cases outcome with
  | panicked m => exact handles_finish w
  | failed c => exact handles_finish w
  | done results =>
    simp only [concludeTask, foldl_note]
    exact handles_setStage ..

theorem handles_sendNext (r : Runner κ) (n : Nat) (w : Work κ) (o : Output) (rest : List Output) :
    r.Handles n w (r.sendNext n w o rest).pool := by
  unfold sendNext
  split
  · exact handles_finish w
  · dsimp only
    split
    · exact handles_finish w
    · exact handles_setStage ..

theorem handles_carryOn (r : Runner κ) (n : Nat) (w : Work κ) :
    r.Handles n w (r.carryOn n w).pool := by
  unfold carryOn
  dsimp only
  split
  · exact handles_begin ..
  · split
    · exact handles_concludeTalk ..
    · exact handles_setStage ..
  · split
    · exact handles_concludeTask ..
    · exact handles_setStage ..
  · exact handles_sendNext ..
  · exact handles_finish w

/-- What a worker's step does: it goes on with the job in its hands; or it has none, calls nobody,
and leaves or may take one. -/
inductive WorkerMove (r : Runner κ) (n : Nat) (r' : Runner κ) : Prop
  | handles (w : Work κ) (held : r.pool.job? n = some w) (handled : r.Handles n w r'.pool)
  | leaves (free : r.pool.job? n = none) (able : r.pool.canLeave n = true)
    (pool : r'.pool = r.pool.leave n) (calls : r'.calls = r.calls)
  | takes (free : r.pool.job? n = none) (pool : r'.pool = r.pool.take n)
    (calls : r'.calls = r.calls)

theorem workerMove_workerStep (r : Runner κ) (n : Nat) : r.WorkerMove n (r.workerStep n) := by
  unfold workerStep
  split
  · next w held => exact .handles w held (handles_carryOn r n w)
  · next free =>
    split
    · next able => exact .leaves free able rfl rfl
    · exact .takes free rfl rfl

/-- A move is quiet or the step of a worker. -/
theorem isQuiet_or_workerMove (r : Runner κ) (m : Move) :
    r.IsQuiet (r.move m) ∨ ∃ n, m = .act (.worker n) ∧ r.WorkerMove n (r.move m) := by
  by_cases acts : ∃ n, m = .act (.worker n)
  · obtain ⟨n, rfl⟩ := acts
    simp only [move]
    split
    · exact .inr ⟨n, rfl, workerMove_workerStep r n⟩
    · exact .inl (.refl r)
  · exact .inl (isQuiet_move r (not_exists.mp acts))

/-- Who calls is a worker with a job in its hands. -/
theorem calls_move (r : Runner κ) (m : Move) :
    (r.move m).calls = r.calls ∨ ∃ n w, m = .act (.worker n) ∧ r.pool.job? n = some w := by
  rcases isQuiet_or_workerMove r m with quiet | ⟨n, rfl, step⟩
  · exact .inl quiet.calls
  · cases step with
    | handles w held => exact .inr ⟨n, w, rfl, held⟩
    | leaves _ _ _ calls => exact .inl calls
    | takes _ _ calls => exact .inl calls

/-! ## Who is at work -/

theorem Handles.workers {p : Pool (Work κ)} (h : r.Handles n w p) (orderly : r.IsOrderly)
    (held : r.pool.job? n = some w) : p.workers = r.pool.workers := by
  obtain ⟨next, rfl, -⟩ := h
  cases next with
  | none =>
    rw [← Pool.length_staff, ← Pool.length_staff]
    exact (Pool.perm_staff_finish orderly.pool held).length_eq
  | some v => simp [putDown, Pool.setJob, Pool.workers]

/-- Nobody leaves an open pool. -/
theorem workers_move (isOpen : r.pool.closed = false) (orderly : r.IsOrderly) (m : Move) :
    (r.move m).pool.workers = r.pool.workers := by
  rcases isQuiet_or_workerMove r m with quiet | ⟨n, -, step⟩
  · exact quiet.workers
  · cases step with
    | handles w held handled => exact handled.workers orderly held
    | leaves _ able =>
      rw [Pool.canLeave, isOpen] at able
      cases able
    | takes _ pool =>
      rw [pool]
      cases offered : r.pool.offered? n with
      | none => rw [Pool.take_of_offered?_eq_none offered]
      | some job =>
        rw [← Pool.length_staff, ← Pool.length_staff]
        exact (Pool.perm_staff_take offered).length_eq

/-- A closed pool offers nothing. -/
theorem take_of_closed (closed : r.pool.closed = true) (n : Nat) : r.pool.take n = r.pool := by
  refine Pool.take_of_offered?_eq_none ?_
  rw [Pool.offered?, closed]
  simp

/-- What a worker of a closed pool has in hand it had in hand before. -/
theorem job?_move_of_closed (closed : r.pool.closed = true) {m : Move} {v : Work κ}
    (held : (r.move m).pool.job? n = some v) : ∃ w, r.pool.job? n = some w ∧ v.job = w.job := by
  rcases isQuiet_or_workerMove r m with quiet | ⟨j, -, step⟩
  · rw [quiet.job?] at held
    exact ⟨v, held, rfl⟩
  · cases step with
    | handles w own handled =>
      obtain ⟨next, pool, same⟩ := handled
      rw [pool] at held
      -- The job of the worker that moves may have got further, but it is the same job.
      by_cases self : n = j
      · subst self
        rw [job?_putDown_self own] at held
        exact ⟨w, own, same v held⟩
      · rw [job?_putDown_of_ne self] at held
        exact ⟨v, held, rfl⟩
    | leaves _ _ pool =>
      rw [pool, Pool.job?_leave] at held
      exact ⟨v, held, rfl⟩
    | takes _ pool =>
      rw [pool, take_of_closed closed] at held
      exact ⟨v, held, rfl⟩

theorem job?_of_isDeserted (deserted : r.pool.isDeserted = true) (n : Nat) :
    r.pool.job? n = none := by
  have nobody : r.pool.idle.length + r.pool.busy.length = 0 := by
    simpa [Pool.isDeserted, Pool.workers] using deserted
  have busy : r.pool.busy = [] := List.length_eq_zero_iff.mp (by omega)
  rw [Pool.job?, busy]
  rfl

/-- Where all workers have left a closed pool, nobody calls any more. -/
theorem calls_move_of_isDeserted (deserted : r.pool.isDeserted = true) (m : Move) :
    (r.move m).calls = r.calls := by
  rcases calls_move r m with same | ⟨n, w, -, held⟩
  · exact same
  · rw [job?_of_isDeserted deserted] at held
    cases held

theorem isDeserted_move (closed : r.pool.closed = true) (deserted : r.pool.isDeserted = true)
    (m : Move) : (r.move m).pool.isDeserted = true := by
  rcases isQuiet_or_workerMove r m with quiet | ⟨n, -, step⟩
  · rw [Pool.isDeserted, quiet.workers]
    exact deserted
  · cases step with
    | handles w held =>
      rw [job?_of_isDeserted deserted] at held
      cases held
    | leaves _ _ pool =>
      have nobody : r.pool.workers = 0 := by simpa [Pool.isDeserted] using deserted
      have fewer : (r.pool.idle.erase n).length ≤ r.pool.idle.length :=
        List.erase_sublist.length_le
      rw [Pool.workers] at nobody
      rw [pool, Pool.isDeserted, Pool.workers, Pool.idle_leave, Pool.busy_leave]
      simp only [decide_eq_true_eq]
      omega
    | takes _ pool =>
      rw [pool, take_of_closed closed]
      exact deserted

end Runner

end Switchboard
