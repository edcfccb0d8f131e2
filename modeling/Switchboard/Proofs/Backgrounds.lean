import Switchboard.Proofs.Moves
import Switchboard.Proofs.StandingTimers

/-!
# What lanes and workers leave alone

Lanes and workers have nothing to do with how far the run has come, with the task timers, the tasks
on their way to these, the live tasks and the watcher, and but for the supervisors nothing to do
with the status: `Runner.background`. A timer's own step only lets it tick, `Timers.Ticks`. What can
happen to the background by a move of a runner is said by `Runner.BackgroundMove`, one case for each
actor of the background (`backgroundMove_move`).
-/

namespace Switchboard

namespace Timers

/-- Timers that have begun a firing or are done with one. -/
inductive Ticks (s : Timers) : Timers → Prop
  | refl : Ticks s s
  | fire {t : Timers} (n now : Nat) (h : Ticks s t) : Ticks s (t.update n fun x => x.fire now)
  | rearm {t : Timers} (n now : Nat) (clock : Timestamp) (h : Ticks s t) :
    Ticks s (t.update n fun x => x.rearm now clock)

end Timers

namespace Runner

variable {κ : Type}

/-- What of a runner is not the business of lanes and workers. The supervisors of the lanes have a
say in the status only. -/
structure Background where
  course : Course
  isCancelled : Bool
  status : Status
  plannerIsOver : Bool
  timers : Timers
  feed : TaskFeed
  liveTasks : List ScheduledTask
  watcher : Option (Watcher RebuildTarget)

def background (r : Runner κ) : Background where
  course := r.course
  isCancelled := r.isCancelled
  status := r.status
  plannerIsOver := r.plannerIsOver
  timers := r.timers
  feed := r.workshop.feed
  liveTasks := r.workshop.registry.liveTasks
  watcher := r.workshop.watcher

variable (r : Runner κ) (n k : Nat)

/-! ## Workers -/

theorem background_respond (job : Job κ) (i : Input) :
    (r.respond n job i).background = r.background := by
  unfold respond
  split
  · rfl
  · dsimp only
    split <;> rfl

theorem background_begin (w : Work κ) : (r.begin n w).background = r.background := by
  unfold begin
  dsimp only
  split
  · rfl
  · split
    · rfl
    · split
      · rfl
      · exact background_respond ..
      · rfl
  · rfl

theorem background_keep (sender : String) (step : Option (Step κ)) :
    (r.keep sender step).background = r.background := by cases step <;> rfl

theorem background_foldl_note (notes : List Note) :
    (notes.foldl note r).background = r.background := by
  induction notes generalizing r with
  | nil => rfl
  | cons x rest ih => exact ih (r.note x)

theorem background_concludeTalk (w : Work κ) (i : Input) (label : String) (since : Nat)
    (outcome : Outcome (Turn κ)) :
    (r.concludeTalk n w i label since outcome).background = r.background := by
  cases outcome with
  | panicked m => rfl
  | done t => exact background_keep ..
  | failed c => rfl

theorem background_concludeTask (w : Work κ) (t : ScheduledTask)
    (outcome : Outcome (List TaskResult)) :
    (r.concludeTask n w t outcome).background = r.background := by
  cases outcome with
  | panicked m => rfl
  | done results => exact background_foldl_note ..
  | failed c => rfl

theorem background_sendNext (w : Work κ) (o : Output) (rest : List Output) :
    (r.sendNext n w o rest).background = r.background := by
  unfold sendNext
  split
  · rfl
  · dsimp only
    split <;> rfl

theorem background_workerStep : (r.workerStep n).background = r.background := by
  unfold workerStep
  split
  · unfold carryOn
    dsimp only
    split
    · exact background_begin ..
    · split
      · exact background_concludeTalk ..
      · rfl
    · split
      · exact background_concludeTask ..
      · rfl
    · exact background_sendNext ..
    · rfl
  · split <;> rfl

/-! ## Lanes -/

theorem background_accept (i : Input) : (r.accept k i).background = r.background := by
  unfold accept
  dsimp only
  split <;> rfl

theorem background_intakeStep : (r.intakeStep k).background = r.background := by
  unfold intakeStep
  split
  · rfl
  · split
    · rfl
    · unfold offer
      split
      · rfl
      · split <;> rfl
    · unfold enter
      dsimp only
      split
      · rfl
      · split <;> rfl
    · split
      · rfl
      · split
        · rfl
        · exact background_accept ..

theorem background_errorStep : (r.errorStep k).background = r.background := by
  unfold errorStep
  split
  · rfl
  · split
    · rfl
    · rfl
    · rfl
    · split
      · rfl
      · split <;> rfl

theorem background_supervisorStep :
    (r.supervisorStep k).background =
      { r.background with status := (r.supervisorStep k).status } := by
  unfold supervisorStep
  split
  · rfl
  · dsimp only
    split
    · rfl
    · split <;> rfl
    · rfl
    · rfl

/-- A supervisor leaves the phase to the run as a whole. -/
theorem phase_supervisorStep : (r.supervisorStep k).status.phase = r.status.phase := by
  unfold supervisorStep
  split
  · rfl
  · dsimp only
    split
    · rfl
    · split <;> rfl
    · rfl
    · rfl

/-! ## Timers -/

theorem background_fire (t : Timer) :
    ∃ timers, r.timers.Ticks timers ∧
      (r.fire n t).background = { r.background with timers } := by
  have fired : r.timers.Ticks (r.timers.update n fun t => t.fire r.now) := .fire n r.now .refl
  have rearmed := fired.rearm n r.now r.clock
  unfold fire
  dsimp only
  split
  · exact ⟨_, rearmed, rfl⟩
  · split
    · exact ⟨_, rearmed, rfl⟩
    · split
      · exact ⟨_, rearmed, rfl⟩
      · exact ⟨_, fired, rfl⟩

/-- A timer's step only lets timers tick. -/
theorem background_timerStep :
    ∃ timers, r.timers.Ticks timers ∧
      (r.timerStep n).background = { r.background with timers } := by
  have rearmed : r.timers.Ticks _ := .rearm n r.now r.clock .refl
  unfold timerStep
  split
  · exact ⟨_, .refl, rfl⟩
  · split
    · dsimp only
      split
      · exact ⟨_, rearmed, rfl⟩
      · split
        · exact ⟨_, .refl, rfl⟩
        · exact ⟨_, rearmed, rfl⟩
    · exact background_fire ..

/-! ## Moves -/

/-- What a move does to the background. -/
inductive BackgroundMove (r : Runner κ) : Move → Background → Prop
  | aside {m : Move} : BackgroundMove r m r.background
  | attends (k : Nat) (status : Status) (phase : status.phase = r.status.phase) :
    BackgroundMove r (.act (.supervisor k)) { r.background with status }
  | ticks {n : Nat} (timers : Timers) (h : r.timers.Ticks timers) :
    BackgroundMove r (.act (.timer n)) { r.background with timers }
  | leaves (n : Nat) (able : r.timerCanLeave n = true) :
    BackgroundMove r (.act (.timerExit n)) { r.background with timers := r.timers.leave n }
  | plans (t : ScheduledTask) (rest : List ScheduledTask)
    (next : r.workshop.feed.tasks = t :: rest) :
    BackgroundMove r (.act .planner)
      { r.background with
        feed := { r.workshop.feed with tasks := rest }
        timers := r.timers.schedule t r.now r.clock }
  | stopsPlanning (cancelled : r.isCancelled = true) :
    BackgroundMove r (.act .plannerExit)
      { r.background with plannerIsOver := true, feed := r.workshop.feed.close }
  | watches :
    BackgroundMove r (.act .watcher)
      { r.background with
        feed := r.workshop.watch.feed
        liveTasks := r.workshop.watch.registry.liveTasks
        watcher := r.workshop.watch.watcher }
  | goesOn (able : r.courseIsAble = true) :
    BackgroundMove r (.act .course) r.courseStep.background
  | reports (x : WatchReport) :
    BackgroundMove r (.report x)
      { r.background with watcher := r.workshop.watcher.map fun w => w.deliver x }
  | cancels :
    BackgroundMove r .cancel
      { r.background with
        isCancelled := true
        timers := r.timers.close
        watcher := r.workshop.watcher.map Watcher.cancel }

theorem backgroundMove_step {a : Actor} (acts : able a r = true) :
    r.BackgroundMove (.act a) (step a r).background := by
  cases a with
  | course => exact .goesOn acts
  | supervisor k =>
    show r.BackgroundMove _ (r.supervisorStep k).background
    rw [background_supervisorStep]
    exact .attends k _ (r.phase_supervisorStep k)
  | runLoop k => exact .aside
  | intake k =>
    show r.BackgroundMove _ (r.intakeStep k).background
    rw [background_intakeStep]
    exact .aside
  | errorLoop k =>
    show r.BackgroundMove _ (r.errorStep k).background
    rw [background_errorStep]
    exact .aside
  | worker n =>
    show r.BackgroundMove _ (r.workerStep n).background
    rw [background_workerStep]
    exact .aside
  | timerExit n => exact .leaves n acts
  | timer n =>
    obtain ⟨timers, ticks, background⟩ := r.background_timerStep n
    show r.BackgroundMove _ (r.timerStep n).background
    rw [background]
    exact .ticks timers ticks
  | plannerExit => exact .stopsPlanning (Bool.and_eq_true_iff.mp acts).1
  | planner =>
    show r.BackgroundMove _ r.plannerStep.background
    unfold plannerStep
    split
    · exact .aside
    · next t rest next => exact .plans t rest next
  | watcher => exact .watches
  | sweeperExit => exact .aside
  | sweeper => exact .aside
  | gaugeExit => exact .aside
  | gauge => exact .aside

/-- What happens to the background is one of the moves of the background. -/
theorem backgroundMove_move (m : Move) : r.BackgroundMove m (r.move m).background := by
  cases m with
  | act a =>
    simp only [move]
    split
    · next acts => exact r.backgroundMove_step acts
    · exact .aside
  | pass ms => exact .aside
  | tell k i => exact .aside
  | raise k e => exact .aside
  | hangUp k => exact .aside
  | edit files => exact .aside
  | report x => exact .reports x
  | cancel => exact .cancels

end Runner

end Switchboard
