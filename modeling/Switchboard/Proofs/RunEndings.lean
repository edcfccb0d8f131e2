import Switchboard.Proofs.Breakdowns

/-!
# Why run loops end

A run loop ends when it is told to, when nobody takes its inputs any more, or by itself, as its bot
has it (`RunEnding.runEnd?`). What it does in the end does not change while the runner is moved
(`Runner.endings_move`). As long as nobody stops the run, the intake of a lane that has not been
told to stop goes on until the run loop has ended; so such a run loop has ended by itself
(`RunnerPlan.ends_by_itself`).
-/

namespace Switchboard

/-- How a run loop ends by itself. -/
def RunEnding.runEnd? : RunEnding → Option RunEnd
  | stays => none
  | returns => some .returned
  | panics => some .panicked

namespace Lane

variable {κ : Type} {l : Lane κ}

theorem ending_runStep (l : Lane κ) (stopped : Bool) :
    (l.runStep stopped).loop.ending = l.loop.ending := by
  unfold runStep
  split
  · split
    · rfl
    · split
      · rfl
      · rfl
  · split
    · rfl
    · split
      · rfl
      · rfl
      · rfl
      · rfl
      · rfl

/-- A run loop that is not told to stop, and whose inputs are taken, ends by itself. -/
theorem runEnd_runStep (running : l.runEnd = none) (heard : l.intakeIsOver = false) {how : RunEnd}
    (ended : (l.runStep false).runEnd = some how) : l.loop.ending.runEnd? = some how := by
  unfold runStep at ended
  split at ended
  · rw [if_neg (by simp [heard])] at ended
    split at ended
    · exact absurd ended (by simp [running])
    · exact absurd ended (by simp [running])
  · rw [if_neg (by simp)] at ended
    split at ended
    · exact absurd ended (by simp [running])
    · exact absurd ended (by simp [running])
    · next ending =>
      rw [ending]
      exact ended
    · next ending =>
      rw [ending]
      exact ended
    · exact absurd ended (by simp [running])

end Lane

namespace Runner

variable {κ : Type} {r r' : Runner κ} {k : Nat}

/-! ## What run loops do in the end -/

/-- What the run loops do when they have nothing left to hand over. -/
def endings (r : Runner κ) : List RunEnding := r.lanes.map fun l => l.loop.ending

theorem endings_setLane (k : Nat) {f : Lane κ → Lane κ} (lanes : r'.lanes = (r.setLane k f).lanes)
    (keeps : ∀ l, (f l).loop.ending = l.loop.ending) : r'.endings = r.endings := by
  rw [endings, lanes]
  exact map_lanes_setLane _ fun l _ => keeps l

theorem endings_intakeStep (r : Runner κ) (k : Nat) : (r.intakeStep k).endings = r.endings := by
  unfold intakeStep
  split
  · rfl
  · split
    · rfl
    · unfold offer
      split
      · exact endings_setLane k rfl fun _ => rfl
      · split
        · exact endings_setLane k rfl fun _ => rfl
        · exact endings_setLane k rfl fun _ => rfl
    · unfold enter
      dsimp only
      split
      · exact endings_setLane k rfl fun _ => rfl
      · split
        · rfl
        · exact endings_setLane k rfl fun _ => rfl
    · split
      · exact endings_setLane k rfl fun _ => rfl
      · split
        · rfl
        · next i rest _ =>
          have read : (r.setLane k fun l => { l with mailbox := rest }).endings = r.endings :=
            endings_setLane k rfl fun _ => rfl
          refine Eq.trans ?_ read
          unfold accept
          dsimp only
          split
          · rfl
          · exact endings_setLane k rfl fun _ => rfl
          · exact endings_setLane k rfl fun _ => rfl

theorem endings_errorStep (r : Runner κ) (k : Nat) : (r.errorStep k).endings = r.endings := by
  unfold errorStep
  split
  · rfl
  · split
    · rfl
    · exact endings_setLane k rfl fun _ => rfl
    · have listens : (r.setLane k fun l => { l with errorLoop := .listening }).endings =
        r.endings := endings_setLane k rfl fun _ => rfl
      exact Eq.trans (endings_setLane k rfl fun _ => rfl) listens
    · split
      · exact endings_setLane k rfl fun _ => rfl
      · split
        · exact endings_setLane k rfl fun _ => rfl
        · exact endings_setLane k rfl fun _ => rfl

theorem endings_supervisorStep (r : Runner κ) (k : Nat) :
    (r.supervisorStep k).endings = r.endings := by
  have closes : ∀ s : Runner κ, s.lanes = r.lanes →
      ((s.stopLane k).setLane k fun l => { l with supervisor := .closing }).endings =
        r.endings := by
    intro s lanes
    have same : s.endings = r.endings := by rw [endings, lanes, endings]
    have stops : (s.stopLane k).endings = s.endings := endings_setLane k rfl fun _ => rfl
    exact Eq.trans (endings_setLane k rfl fun _ => rfl) (stops.trans same)
  unfold supervisorStep
  split
  · rfl
  · dsimp only
    split
    · exact endings_setLane k rfl fun _ => rfl
    · split
      · exact closes _ rfl
      · exact closes _ rfl
    · exact endings_setLane k rfl fun _ => rfl
    · rfl

theorem endings_step (r : Runner κ) (a : Actor) : (step a r).endings = r.endings := by
  have aside : ∀ {s : Runner κ}, r.IsAside s → s.endings = r.endings := by
    intro s h
    rw [endings, h.lanes, endings]
  cases a with
  | supervisor k => exact endings_supervisorStep r k
  | runLoop k => exact endings_setLane k rfl fun l => l.ending_runStep _
  | intake k => exact endings_intakeStep r k
  | errorLoop k => exact endings_errorStep r k
  | worker n => exact aside (isAside_workerStep r n)
  | timer n => exact aside (isAside_timerStep r n)
  | course =>
    show r.courseStep.endings = r.endings
    unfold courseStep
    split
    all_goals rfl
  | planner =>
    show r.plannerStep.endings = r.endings
    unfold plannerStep
    split
    · rfl
    · rfl
  | timerExit n => rfl
  | plannerExit => rfl
  | watcher => rfl
  | sweeperExit => rfl
  | sweeper => rfl
  | gaugeExit => rfl
  | gauge => rfl

/-- What a run loop does in the end stays the same. -/
theorem endings_move (r : Runner κ) (m : Move) : (r.move m).endings = r.endings := by
  cases m with
  | act a =>
    unfold move
    dsimp only
    split
    · exact endings_step r a
    · rfl
  | tell k i =>
    refine endings_setLane k rfl fun l => ?_
    unfold Lane.tell
    split
    · rfl
    · rfl
  | raise k e =>
    refine endings_setLane k rfl fun l => ?_
    unfold Lane.tellError
    split
    · rfl
    · rfl
  | hangUp k => exact endings_setLane k rfl fun _ => rfl
  | pass ms => rfl
  | edit files => rfl
  | report x => rfl
  | cancel => rfl

section LaneMove

variable {m : Move} {l l' : Lane κ} {es : List (Happening κ)}

theorem LaneMove.runEnd_eq (h : r.LaneMove k l m l' es) (other : m ≠ .act (.runLoop k)) :
    l'.runEnd = l.runEnd := by
  cases h with
  | runEnds => exact absurd rfl other
  | _ => rfl

/-- A lane that has been told to stop stays so. -/
theorem LaneMove.isStopped_eq_false (h : r.LaneMove k l m l' es)
    (unstopped : l'.isStopped = false) : l.isStopped = false := by
  cases h with
  | breaksDown => cases unstopped
  | closes => cases unstopped
  | _ => exact unstopped

end LaneMove

end Runner

/-! ## Runs that nobody stops -/

namespace RunnerPlan

variable {κ : Type} {p : RunnerPlan κ} {schedule : Nat → Runner.Move} {n k : Nat} {l : Lane κ}
  {notes : List Note}

/-- The intake of a lane that has not been told to stop takes what the run loop hands over. -/
theorem intake_goesOn (checked : p.check = .ok notes) (going : ∀ m < n, schedule m ≠ .cancel)
    (hl : (p.start.after schedule n).lanes[k]? = some l) :
    l.isStopped = false → l.runEnd = none → l.intakeIsOver = false := by
  refine lane_induction checked
    (fun _ l => l.isStopped = false → l.runEnd = none → l.intakeIsOver = false) ?_ ?_ going hl
  · intro bot _ _ _
    rfl
  · intro n l l' going hl _ done before
    have isOpen : (p.start.after schedule n).pool.closed = false := by
      rw [Runner.closed_after p.start going, p.start_spec.2.1]
      rfl
    have own := isStopped_after going hl
    generalize schedule n = move, List.filter _ _ = es at done
    cases done with
    | intakeEnds why =>
      intro unstopped running
      rcases why with closed | ends
      · rw [isOpen] at closed
        cases closed
      · simp only [Lane.endIntake] at unstopped running
        simp [Lane.intakeCanEnd, own, unstopped, running] at ends
    | accepts i rest intake mail listening after =>
      intro _ _
      rcases after with rfl | ⟨job, rfl⟩
      · rfl
      · rfl
    | offers intake busy after =>
      intro _ _
      rcases after with rfl | rfl
      · rfl
      · rfl
    | runEnds how running =>
      intro _ never
      cases never
    | breaksDown e alerting =>
      intro never
      cases never
    | closes watching ended =>
      intro never
      cases never
    | _ => exact before

/-- A run loop that has ended before its lane has been told to stop has ended by itself. -/
theorem ends_by_itself (checked : p.check = .ok notes) (going : ∀ m < n, schedule m ≠ .cancel)
    (hl : (p.start.after schedule n).lanes[k]? = some l) (unstopped : l.isStopped = false)
    {how : RunEnd} (ended : l.runEnd = some how) : l.loop.ending.runEnd? = some how := by
  induction n generalizing l with
  | zero =>
    obtain ⟨bot, rfl⟩ := p.start_lane hl
    cases ended
  | succ n ih =>
    have earlier := fun m (hm : m < n) => going m (hm.trans n.lt_succ_self)
    have bound : k < (p.start.after schedule n).lanes.length := by
      rw [← (Runner.isLater_move _ (schedule n)).length]
      exact (List.getElem?_eq_some_iff.mp hl).1
    obtain ⟨old, hold⟩ : ∃ old, (p.start.after schedule n).lanes[k]? = some old :=
      ⟨_, List.getElem?_eq_getElem bound⟩
    -- The run loop does in the end what it would have done.
    have ending : l.loop.ending = old.loop.ending := by
      have same := congrArg (fun e => e[k]?)
        (Runner.endings_move (p.start.after schedule n) (schedule n))
      simp only [Runner.endings, List.getElem?_map, hold, Option.map_some] at same
      rw [show ((p.start.after schedule n).move (schedule n)).lanes[k]? = some l from hl] at same
      exact Option.some_inj.mp same
    obtain ⟨l', hl', done⟩ := laneMove_after checked (going n n.lt_succ_self) hold
    obtain rfl := Option.some_inj.mp (hl'.symm.trans hl)
    have unstoppedBefore := done.isStopped_eq_false unstopped
    have before := ih earlier hold unstoppedBefore
    rw [ending]
    by_cases acts : schedule n = .act (.runLoop k)
    · by_cases able : Runner.able (.runLoop k) (p.start.after schedule n) = true
      · have own : (p.start.after schedule n).isStopped k = false :=
          (isStopped_after earlier hold).trans unstoppedBefore
        have step : (p.start.after schedule (n + 1)).lanes[k]? = some (old.runStep false) := by
          show ((p.start.after schedule n).move (schedule n)).lanes[k]? = _
          rw [acts, Runner.move, if_pos able, Runner.step, Runner.getElem?_lanes_setLane, hold, own]
          simp
        obtain rfl := Option.some_inj.mp (hl.symm.trans step)
        have running : old.runEnd = none := by
          simp only [Runner.able, hold, Option.any_some, Lane.runIsAble, Bool.and_eq_true,
            Option.isNone_iff_eq_none] at able
          exact able.1.2
        have heard := intake_goesOn checked earlier hold unstoppedBefore running
        exact old.runEnd_runStep running heard ended
      · have stays : (p.start.after schedule (n + 1)).lanes[k]? = some old := by
          show ((p.start.after schedule n).move (schedule n)).lanes[k]? = _
          rw [acts, Runner.move, if_neg able, hold]
        obtain rfl := Option.some_inj.mp (hl.symm.trans stays)
        exact before ended
    · exact before ((done.runEnd_eq acts).symm.trans ended)

end RunnerPlan

end Switchboard
