import Switchboard.Proofs.Moves

/-!
# What lasts

No move changes how steps are run or which bots a runner has; time does not go back; and a pool that
nobody closes stays open (`isLater_move`, `closed_move`).
-/

namespace Switchboard

namespace Runner

variable {κ : Type} {r r' r'' : Runner κ}

/-- A runner that may have come from another by moves. -/
structure IsLater (r r' : Runner κ) : Prop where
  language : r'.language = r.language
  bots : r'.lanes.map Lane.bot = r.lanes.map Lane.bot
  now : r.now ≤ r'.now

/-- A runner that an actor may have made of another. -/
structure IsNext (r r' : Runner κ) : Prop where
  language : r'.language = r.language
  bots : r'.lanes.map Lane.bot = r.lanes.map Lane.bot
  now : r'.now = r.now
  closed : r'.pool.closed = r.pool.closed

namespace IsNext

theorem refl (r : Runner κ) : r.IsNext r := ⟨rfl, rfl, rfl, rfl⟩

theorem trans (h : r.IsNext r') (more : r'.IsNext r'') : r.IsNext r'' :=
  ⟨more.language.trans h.language, more.bots.trans h.bots, more.now.trans h.now,
    more.closed.trans h.closed⟩

theorem setLane (h : r.IsNext r') (k : Nat) {f : Lane κ → Lane κ} (keeps : ∀ l, (f l).bot = l.bot) :
    r.IsNext (r'.setLane k f) :=
  h.trans ⟨rfl, map_lanes_setLane _ fun l _ => keeps l, rfl, rfl⟩

theorem stopLane (h : r.IsNext r') (k : Nat) : r.IsNext (r'.stopLane k) :=
  h.setLane k fun _ => rfl

theorem update (h : r.IsNext r') (language : r''.language = r'.language)
    (lanes : r''.lanes = r'.lanes) (now : r''.now = r'.now)
    (closed : r''.pool.closed = r'.pool.closed) : r.IsNext r'' :=
  h.trans ⟨language, by rw [lanes], now, closed⟩

theorem isLater (h : r.IsNext r') : r.IsLater r' := ⟨h.language, h.bots, h.now.ge⟩

end IsNext

namespace IsLater

theorem refl (r : Runner κ) : r.IsLater r := (IsNext.refl r).isLater

theorem trans (h : r.IsLater r') (more : r'.IsLater r'') : r.IsLater r'' :=
  ⟨more.language.trans h.language, more.bots.trans h.bots, h.now.trans more.now⟩

theorem length (h : r.IsLater r') : r'.lanes.length = r.lanes.length := by
  simpa using congrArg List.length h.bots

theorem bot (h : r.IsLater r') (k : Nat) :
    r'.lanes[k]?.map Lane.bot = r.lanes[k]?.map Lane.bot := by
  rw [← List.getElem?_map, h.bots, List.getElem?_map]

theorem botTypeOf (h : r.IsLater r') (k : Nat) : r'.botTypeOf k = r.botTypeOf k := by
  have of_bot : ∀ s : Runner κ,
      s.botTypeOf k = ((s.lanes[k]?.map Lane.bot).map Bot.botType).getD default := by
    intro s
    rw [Runner.botTypeOf, Option.map_map]
    rfl
  rw [of_bot, of_bot, h.bot]

end IsLater

/-! ## Actors -/

theorem isNext_finish (r : Runner κ) (n : Nat) : r.IsNext (r.finish n) :=
  (IsNext.refl r).update rfl rfl rfl rfl

theorem isNext_setStage (r : Runner κ) (n : Nat) (w : Work κ) (s : Stage κ) :
    r.IsNext (r.setStage n w s) :=
  (IsNext.refl r).update rfl rfl rfl rfl

theorem isNext_emit (r : Runner κ) (h : Happening κ) : r.IsNext (r.emit h) :=
  (IsNext.refl r).update rfl rfl rfl rfl

theorem isNext_giveUp (r : Runner κ) (n : Nat) (job : Job κ) (m : String) :
    r.IsNext (r.giveUp n job m) :=
  (IsNext.refl r).update rfl rfl rfl rfl

theorem isNext_respond (r : Runner κ) (n : Nat) (job : Job κ) (i : Input) :
    r.IsNext (r.respond n job i) := by
  unfold respond
  split
  · exact isNext_finish r n
  · dsimp only
    split
    · exact (isNext_emit r _).trans (isNext_giveUp ..)
    · exact (isNext_emit r _).trans (isNext_finish ..)

theorem isNext_begin (r : Runner κ) (n : Nat) (w : Work κ) : r.IsNext (r.begin n w) := by
  unfold begin
  dsimp only
  split
  · exact isNext_setStage ..
  · split
    · exact (isNext_emit r _).trans (isNext_setStage ..)
    · split
      · exact (isNext_emit r _).trans (isNext_setStage ..)
      · exact isNext_respond ..
      · exact isNext_giveUp ..
  · exact (IsNext.refl r).update rfl rfl rfl rfl

theorem isNext_keep (r : Runner κ) (sender : String) (step : Option (Step κ)) :
    r.IsNext (r.keep sender step) := by
  cases step with
  | none => exact .refl r
  | some step => exact (IsNext.refl r).update rfl rfl rfl rfl

theorem isNext_concludeTalk (r : Runner κ) (n : Nat) (w : Work κ) (i : Input) (label : String)
    (since : Nat) (outcome : Outcome (Turn κ)) :
    r.IsNext (r.concludeTalk n w i label since outcome) := by
  have count : r.IsNext (r.countExecution (r.botTypeOf w.job.lane) label since) :=
    (IsNext.refl r).update rfl rfl rfl rfl
  unfold concludeTalk
  dsimp only
  split
  · exact isNext_giveUp ..
  · exact (count.trans (isNext_keep ..)).trans (isNext_setStage ..)
  · exact count.update rfl rfl rfl rfl

theorem isNext_concludeTask (r : Runner κ) (n : Nat) (w : Work κ) (t : ScheduledTask)
    (outcome : Outcome (List TaskResult)) : r.IsNext (r.concludeTask n w t outcome) := by
  have notes : ∀ (ns : List Note) (s : Runner κ), s.IsNext (ns.foldl note s) := by
    intro ns
    induction ns with
    | nil => exact IsNext.refl
    | cons x rest ih => exact fun s => (isNext_emit s (.noted x)).trans (ih _)
  unfold concludeTask
  split
  · exact isNext_giveUp ..
  · exact (isNext_setStage ..).trans (notes _ _)
  · exact (isNext_emit r _).trans (isNext_finish ..)

theorem isNext_sendNext (r : Runner κ) (n : Nat) (w : Work κ) (o : Output) (rest : List Output) :
    r.IsNext (r.sendNext n w o rest) := by
  unfold sendNext
  split
  · exact isNext_finish r n
  · dsimp only
    split
    · exact (isNext_emit r _).trans (isNext_giveUp ..)
    · exact (isNext_emit r _).trans (isNext_setStage ..)

theorem isNext_workerStep (r : Runner κ) (n : Nat) : r.IsNext (r.workerStep n) := by
  unfold workerStep
  split
  · unfold carryOn
    dsimp only
    split
    · exact isNext_begin ..
    · split
      · exact isNext_concludeTalk ..
      · exact isNext_setStage ..
    · split
      · exact isNext_concludeTask ..
      · exact isNext_setStage ..
    · exact isNext_sendNext ..
    · exact isNext_finish ..
  · split
    · refine (IsNext.refl r).update rfl rfl rfl ?_
      unfold Pool.leave
      dsimp only
      split <;> rfl
    · refine (IsNext.refl r).update rfl rfl rfl ?_
      unfold Pool.take
      split <;> rfl

theorem isNext_accept (r : Runner κ) (k : Nat) (i : Input) : r.IsNext (r.accept k i) := by
  unfold accept
  dsimp only
  split
  · exact (IsNext.refl r).update rfl rfl rfl rfl
  · refine IsNext.setLane ?_ k fun _ => rfl
    exact (IsNext.refl r).update rfl rfl rfl rfl
  · refine IsNext.setLane ?_ k fun _ => rfl
    exact (IsNext.refl r).update rfl rfl rfl rfl

theorem isNext_intakeStep (r : Runner κ) (k : Nat) : r.IsNext (r.intakeStep k) := by
  have refl := IsNext.refl r
  have pool : ∀ p : Pool (Work κ), p.closed = r.pool.closed → r.IsNext { r with pool := p } :=
    fun p closed => refl.update rfl rfl rfl closed
  unfold intakeStep
  split
  · exact refl
  · split
    · exact refl
    · unfold offer
      split
      · exact refl.setLane k fun _ => rfl
      · split
        · exact (pool (r.pool.push _) rfl).setLane k fun _ => rfl
        · exact (pool (r.pool.keepWaiting _ _) rfl).setLane k fun _ => rfl
    · unfold enter
      dsimp only
      split
      · exact (pool (r.pool.withdraw _) rfl).setLane k fun _ => rfl
      · split
        · exact refl
        · exact (pool ((r.pool.withdraw _).push _) rfl).setLane k fun _ => rfl
    · split
      · exact refl.setLane k fun _ => rfl
      · split
        · exact refl
        · refine IsNext.trans (IsNext.setLane refl k ?_) (isNext_accept ..)
          exact fun _ => rfl

theorem isNext_supervisorStep (r : Runner κ) (k : Nat) : r.IsNext (r.supervisorStep k) := by
  have refl := IsNext.refl r
  unfold supervisorStep
  split
  · exact refl
  · dsimp only
    split
    · refine IsNext.setLane ?_ k fun _ => rfl
      exact refl.update rfl rfl rfl rfl
    · refine IsNext.setLane (IsNext.stopLane ?_ k) k fun _ => rfl
      split
      · exact refl.update rfl rfl rfl rfl
      · exact refl.update rfl rfl rfl rfl
    · exact refl.setLane k fun _ => rfl
    · exact refl

theorem isNext_errorStep (r : Runner κ) (k : Nat) : r.IsNext (r.errorStep k) := by
  have refl := IsNext.refl r
  unfold errorStep
  split
  · exact refl
  · split
    · exact refl
    · exact (isNext_emit r _).setLane k fun _ => rfl
    · refine IsNext.stopLane ?_ k
      exact refl.setLane k fun _ => rfl
    · split
      · exact refl.setLane k fun _ => rfl
      · split
        · exact refl.setLane k fun _ => rfl
        · exact (isNext_emit r _).setLane k fun _ => rfl

theorem isNext_timerStep (r : Runner κ) (n : Nat) : r.IsNext (r.timerStep n) := by
  have refl := IsNext.refl r
  unfold timerStep
  split
  · exact refl
  · split
    · dsimp only
      split
      · exact refl.update rfl rfl rfl rfl
      · split
        · exact refl
        · exact refl.update rfl rfl rfl rfl
    · unfold fire
      dsimp only
      split
      · exact refl.update rfl rfl rfl rfl
      · split
        · exact refl.update rfl rfl rfl rfl
        · split
          · exact refl.update rfl rfl rfl rfl
          · exact refl.update rfl rfl rfl rfl

theorem isNext_step (r : Runner κ) (a : Actor) : r.IsNext (step a r) := by
  have refl := IsNext.refl r
  cases a with
  | course =>
    show r.IsNext r.courseStep
    unfold courseStep
    split
    all_goals exact refl.update rfl rfl rfl rfl
  | supervisor k => exact isNext_supervisorStep r k
  | runLoop k =>
    refine refl.setLane k fun l => ?_
    unfold Lane.runStep
    split
    · split
      · rfl
      · split <;> rfl
    · split
      · rfl
      · split <;> rfl
  | intake k => exact isNext_intakeStep r k
  | errorLoop k => exact isNext_errorStep r k
  | worker n => exact isNext_workerStep r n
  | timer n => exact isNext_timerStep r n
  | watcher => exact ⟨rfl, rfl, r.workshop.now_watch, rfl⟩
  | planner =>
    show r.IsNext r.plannerStep
    unfold plannerStep
    split
    · exact refl
    · exact ⟨rfl, rfl, rfl, rfl⟩
  | timerExit n => exact ⟨rfl, rfl, rfl, rfl⟩
  | plannerExit => exact ⟨rfl, rfl, rfl, rfl⟩
  | sweeperExit => exact ⟨rfl, rfl, rfl, rfl⟩
  | sweeper => exact ⟨rfl, rfl, rfl, rfl⟩
  | gaugeExit => exact ⟨rfl, rfl, rfl, rfl⟩
  | gauge => exact ⟨rfl, rfl, rfl, rfl⟩

/-! ## Moves -/

theorem closed_move (r : Runner κ) {m : Move} (going : m ≠ .cancel) :
    (r.move m).pool.closed = r.pool.closed := by
  cases m with
  | act a =>
    unfold move
    dsimp only
    split
    · exact (isNext_step r a).closed
    · rfl
  | cancel => exact absurd rfl going
  | pass ms => rfl
  | tell k i => rfl
  | raise k e => rfl
  | hangUp k => rfl
  | edit files => rfl
  | report x => rfl

theorem isLater_move (r : Runner κ) (m : Move) : r.IsLater (r.move m) := by
  have refl := IsNext.refl r
  cases m with
  | act a =>
    unfold move
    dsimp only
    split
    · exact (isNext_step r a).isLater
    · exact .refl r
  | pass ms => exact ⟨rfl, rfl, Nat.le_add_right _ _⟩
  | tell k i =>
    refine (refl.setLane k fun l => ?_).isLater
    unfold Lane.tell
    split <;> rfl
  | raise k e =>
    refine (refl.setLane k fun l => ?_).isLater
    unfold Lane.tellError
    split <;> rfl
  | hangUp k =>
    have hung : r.IsNext (r.setLane k Lane.hangUp) := refl.setLane k fun _ => rfl
    exact hung.isLater
  | edit files => exact ⟨rfl, rfl, le_rfl⟩
  | report x =>
    refine ⟨rfl, rfl, ?_⟩
    show r.workshop.now ≤ (r.workshop.report x).now
    exact le_rfl
  | cancel =>
    refine ⟨rfl, rfl, ?_⟩
    show r.workshop.now ≤ r.workshop.cancel.now
    exact le_rfl

/-! ## Schedules -/

variable {schedule : Nat → Move} {n : Nat}

theorem isLater_after (r : Runner κ) (schedule : Nat → Move) {m n : Nat} (h : m ≤ n) :
    (r.after schedule m).IsLater (r.after schedule n) := by
  induction n, h using Nat.le_induction with
  | base => exact .refl _
  | succ n _ ih => exact ih.trans (isLater_move _ _)

/-- A pool that nobody closes stays open. -/
theorem closed_after (r : Runner κ) (going : ∀ m < n, schedule m ≠ .cancel) :
    (r.after schedule n).pool.closed = r.pool.closed := by
  induction n with
  | zero => rfl
  | succ n ih =>
    exact (closed_move _ (going n n.lt_succ_self)).trans
      (ih fun m hm => going m (hm.trans n.lt_succ_self))

end Runner

end Switchboard
