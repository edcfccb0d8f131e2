import Switchboard.Proofs.ClosedLoop

/-!
# What a move does to a lane

A lane changes by the steps of its own run loop, intake, error loop and supervisor, by what its run
loop is told, and by nothing else; and only its own intake and error loop accept inputs and call
alerters in its bot's name. `Runner.LaneMove` has a case for each of these changes, and
`RunnerPlan.laneMove_after` says that every move of a run is one of them, for every lane.
-/

namespace Switchboard

namespace Happening

variable {κ : Type}

/-- Whether a happening is an acceptance or an alert, in the name of some bot. -/
def isOfLane : Happening κ → Bool
  | accepted .. | alerted .. => true
  | _ => false

/-- Whether a happening is an acceptance or an alert in the name of a bot. -/
def isOfBot (bot : BotType) : Happening κ → Bool
  | accepted b _ => b == bot
  | alerted _ b _ _ => b == bot
  | _ => false

theorem isOfBot_of_not_isOfLane {e : Happening κ} (h : e.isOfLane = false) (bot : BotType) :
    e.isOfBot bot = false := by
  cases e <;> first | rfl | cases h

end Happening

namespace Runner

variable {κ : Type} {r r' r'' : Runner κ} {k : Nat} {l l' : Lane κ}

/-! ## Moves beside the lanes -/

/-- What is no lane's step: lanes, alerters and the order to stop stay as they are. -/
structure IsAside (r r' : Runner κ) : Prop where
  lanes : r'.lanes = r.lanes
  alerters : r'.alerters = r.alerters
  cancelled : r'.isCancelled = r.isCancelled
  trace : ∃ es, r'.trace = r.trace ++ es ∧ ∀ e ∈ es, e.isOfLane = false

namespace IsAside

theorem refl (r : Runner κ) : r.IsAside r := ⟨rfl, rfl, rfl, [], by simp⟩

theorem trans (h : r.IsAside r') (more : r'.IsAside r'') : r.IsAside r'' := by
  obtain ⟨es, trace, silent⟩ := h.trace
  obtain ⟨es', trace', silent'⟩ := more.trace
  refine ⟨more.lanes.trans h.lanes, more.alerters.trans h.alerters,
    more.cancelled.trans h.cancelled, es ++ es', ?_, ?_⟩
  · rw [trace', trace, List.append_assoc]
  · exact List.forall_mem_append.mpr ⟨silent, silent'⟩

theorem update (h : r.IsAside r') (lanes : r''.lanes = r'.lanes)
    (alerters : r''.alerters = r'.alerters) (cancelled : r''.isCancelled = r'.isCancelled)
    (trace : r''.trace = r'.trace) : r.IsAside r'' :=
  h.trans ⟨lanes, alerters, cancelled, [], by simp [trace]⟩

theorem emit (h : r.IsAside r') {e : Happening κ} (silent : e.isOfLane = false) :
    r.IsAside (r'.emit e) :=
  h.trans ⟨rfl, rfl, rfl, [e], rfl, by simp [silent]⟩

theorem setStage (h : r.IsAside r') (n : Nat) (w : Work κ) (s : Stage κ) :
    r.IsAside (r'.setStage n w s) :=
  h.update rfl rfl rfl rfl

theorem finish (h : r.IsAside r') (n : Nat) : r.IsAside (r'.finish n) :=
  h.update rfl rfl rfl rfl

theorem giveUp (h : r.IsAside r') (n : Nat) (job : Job κ) (m : String) :
    r.IsAside (r'.giveUp n job m) := by
  refine IsAside.finish (IsAside.emit ?_ rfl) n
  exact h.update rfl rfl rfl rfl

end IsAside

theorem isAside_respond (r : Runner κ) (n : Nat) (job : Job κ) (i : Input) :
    r.IsAside (r.respond n job i) := by
  have refl := IsAside.refl r
  unfold respond
  split
  · exact refl.finish n
  · dsimp only
    split
    · exact (refl.emit rfl).giveUp ..
    · exact (refl.emit rfl).finish n

theorem isAside_begin (r : Runner κ) (n : Nat) (w : Work κ) : r.IsAside (r.begin n w) := by
  have refl := IsAside.refl r
  unfold begin
  dsimp only
  split
  · exact refl.setStage ..
  · split
    · exact (refl.emit rfl).setStage ..
    · split
      · exact (refl.emit rfl).setStage ..
      · exact isAside_respond ..
      · exact refl.giveUp ..
  · refine IsAside.setStage (IsAside.emit ?_ rfl) ..
    exact refl.update rfl rfl rfl rfl

theorem isAside_concludeTalk (r : Runner κ) (n : Nat) (w : Work κ) (i : Input) (label : String)
    (since : Nat) (outcome : Outcome (Turn κ)) :
    r.IsAside (r.concludeTalk n w i label since outcome) := by
  have count : r.IsAside (r.countExecution (r.botTypeOf w.job.lane) label since) :=
    (IsAside.refl r).update rfl rfl rfl rfl
  have keep : ∀ (s : Runner κ) (step : Option (Step κ)), s.IsAside (s.keep i.sender step) := by
    intro s step
    cases step with
    | none => exact .refl s
    | some step =>
      refine IsAside.emit ?_ rfl
      exact (IsAside.refl s).update rfl rfl rfl rfl
  unfold concludeTalk
  dsimp only
  split
  · exact (IsAside.refl r).giveUp ..
  · exact (count.trans (keep _ _)).setStage ..
  · refine IsAside.finish (IsAside.emit ?_ rfl) n
    exact count.update rfl rfl rfl rfl

theorem isAside_concludeTask (r : Runner κ) (n : Nat) (w : Work κ) (t : ScheduledTask)
    (outcome : Outcome (List TaskResult)) : r.IsAside (r.concludeTask n w t outcome) := by
  have refl := IsAside.refl r
  unfold concludeTask
  split
  · exact refl.giveUp ..
  · rw [foldl_note]
    refine (refl.setStage n w _).trans ⟨rfl, rfl, rfl, _, rfl, ?_⟩
    simp [Happening.isOfLane]
  · exact (refl.emit rfl).finish n

theorem isAside_sendNext (r : Runner κ) (n : Nat) (w : Work κ) (o : Output) (rest : List Output) :
    r.IsAside (r.sendNext n w o rest) := by
  have refl := IsAside.refl r
  unfold sendNext
  split
  · exact refl.finish n
  · dsimp only
    split
    · exact (refl.emit rfl).giveUp ..
    · exact (refl.emit rfl).setStage ..

theorem isAside_workerStep (r : Runner κ) (n : Nat) : r.IsAside (r.workerStep n) := by
  have refl := IsAside.refl r
  unfold workerStep
  split
  · unfold carryOn
    dsimp only
    split
    · exact isAside_begin ..
    · split
      · exact isAside_concludeTalk ..
      · exact refl.setStage ..
    · split
      · exact isAside_concludeTask ..
      · exact refl.setStage ..
    · exact isAside_sendNext ..
    · exact refl.finish n
  · split
    · exact refl.update rfl rfl rfl rfl
    · exact refl.update rfl rfl rfl rfl

theorem isAside_timerStep (r : Runner κ) (n : Nat) : r.IsAside (r.timerStep n) := by
  have refl := IsAside.refl r
  unfold timerStep
  split
  · exact refl
  · next t _ =>
    split
    · dsimp only
      split
      · exact refl.update rfl rfl rfl rfl
      · split
        · exact refl
        · exact refl.update rfl rfl rfl rfl
    · have fired : r.IsAside ({ r with
          timers := r.timers.update n fun t => t.fire r.now }.emit (.fired t.task.key)) := by
        refine IsAside.emit ?_ rfl
        exact refl.update rfl rfl rfl rfl
      unfold fire
      dsimp only
      split
      · exact (fired.emit (e := .noted .taskWithoutBot) rfl).update rfl rfl rfl rfl
      · split
        · exact fired.update rfl rfl rfl rfl
        · split
          · exact fired.update rfl rfl rfl rfl
          · exact fired.update rfl rfl rfl rfl

theorem isAside_watch (r : Runner κ) : r.IsAside r.watch := by
  refine ⟨rfl, rfl, rfl, r.workshop.watch.notes.map .noted, rfl, ?_⟩
  simp [Happening.isOfLane]

/-! ## Moves of a lane -/

/-- What a move does to a lane, and what happens by it in the name of the lane's bot. -/
inductive LaneMove (r : Runner κ) (k : Nat) (l : Lane κ) :
    Move → Lane κ → List (Happening κ) → Prop
  /-- At most the run loop is told something or takes an input in hand, or its other side goes. -/
  | aside {m : Move} (loop : RunLoop) (isHungUp : Bool) :
    LaneMove r k l m { l with loop, isHungUp } []
  | handsOver (i : Input) (loop : RunLoop) (running : l.runEnd = none)
    (heard : l.intakeIsOver = false) :
    LaneMove r k l (.act (.runLoop k)) { l with mailbox := l.mailbox ++ [i], loop } []
  | raises (e : BotError) (loop : RunLoop) (running : l.runEnd = none) :
    LaneMove r k l (.act (.runLoop k)) { l with errorBox := l.errorBox ++ [e], loop } []
  | runEnds (how : RunEnd) (running : l.runEnd = none) :
    LaneMove r k l (.act (.runLoop k)) { l with runEnd := some how } []
  /-- The intake takes an input, and may hold a job that it has made of it. -/
  | accepts (i : Input) (rest : List Input) (intake : Intake κ) (mail : l.mailbox = i :: rest)
    (listening : l.intake = .listening)
    (after : intake = .listening ∨ ∃ job, intake = .holding job) :
    LaneMove r k l (.act (.intake k)) { l with mailbox := rest, intake } [.accepted l.botType i]
  /-- The intake offers its job to the pool, or the pool answers it. -/
  | offers (intake : Intake κ) (busy : l.intake = .waiting ∨ ∃ job, l.intake = .holding job)
    (after : intake = .listening ∨ intake = .waiting) :
    LaneMove r k l (.act (.intake k)) { l with intake } []
  | intakeEnds (why : r.pool.closed = true ∨ l.intakeCanEnd (r.isStopped k) = true) :
    LaneMove r k l (.act (.intake k)) l.endIntake []
  | hears (e : BotError) (rest : List BotError) (listening : l.errorLoop = .listening)
    (going : r.isStopped k = false) (box : l.errorBox = e :: rest) :
    LaneMove r k l (.act (.errorLoop k))
      { l with
        errorBox := rest
        errorLoop := if e.critical then .alerting e r.alerters else .listening } []
  | alerts (e : BotError) (a : Alerter) (rest : List Alerter)
    (alerting : l.errorLoop = .alerting e (a :: rest)) :
    LaneMove r k l (.act (.errorLoop k)) { l with errorLoop := .alerting e rest }
      [.alerted a.name l.botType e (a.alert l.botType e)]
  /-- All alerters have been called, and the lane is told to stop. -/
  | breaksDown (e : BotError) (alerting : l.errorLoop = .alerting e []) :
    LaneMove r k l (.act (.errorLoop k)) { l with errorLoop := .listening, isStopped := true } []
  | errorLoopEnds (listening : l.errorLoop = .listening)
    (why : r.isStopped k = true ∨ l.errorBox = [] ∧ l.runEnd.isSome = true) :
    LaneMove r k l (.act (.errorLoop k)) l.endErrorLoop []
  | starts (starting : l.supervisor = .starting) :
    LaneMove r k l (.act (.supervisor k)) { l with supervisor := .watching } []
  /-- The supervisor sees that the run loop has ended, and tells the lane to stop. -/
  | closes (watching : l.supervisor = .watching) (ended : l.runEnd.isSome = true) :
    LaneMove r k l (.act (.supervisor k)) { l with supervisor := .closing, isStopped := true } []
  | leaves (closing : l.supervisor = .closing) (intake : l.intakeIsOver = true)
    (errorLoop : l.errorLoopIsOver = true) :
    LaneMove r k l (.act (.supervisor k)) { l with supervisor := .over } []

theorem LaneMove.bot_eq {m : Move} {es : List (Happening κ)} (h : LaneMove r k l m l' es) :
    l'.bot = l.bot := by cases h <;> rfl

/-- A move changes one lane by one of its moves. -/
structure StepsLane (r : Runner κ) (m : Move) (k : Nat) (l : Lane κ) (r' : Runner κ) (l' : Lane κ)
    (es : List (Happening κ)) : Prop where
  lanes : ∀ j, r'.lanes[j]? = if k = j then some l' else r.lanes[j]?
  alerters : r'.alerters = r.alerters
  cancelled : r'.isCancelled = r.isCancelled
  trace : r'.trace = r.trace ++ es
  done : LaneMove r k l m l' (es.filter (Happening.isOfBot l.botType))
  others : ∀ bot, bot ≠ l.botType → es.filter (Happening.isOfBot bot) = []

/-- A lane is changed, and whatever else happens is no acceptance and no alert. -/
theorem stepsLane_of_setLane {m : Move} {es : List (Happening κ)} {f : Lane κ → Lane κ}
    (hl : r.lanes[k]? = some l) (lanes : r'.lanes = (r.setLane k f).lanes)
    (alerters : r'.alerters = r.alerters) (cancelled : r'.isCancelled = r.isCancelled)
    (trace : r'.trace = r.trace ++ es) (silent : ∀ e ∈ es, e.isOfLane = false)
    (done : LaneMove r k l m (f l) []) : ∃ l' es, r.StepsLane m k l r' l' es := by
  have none : ∀ bot, es.filter (Happening.isOfBot bot) = [] := fun bot =>
    List.filter_eq_nil_iff.mpr fun e he => by
      simp [Happening.isOfBot_of_not_isOfLane (silent e he) bot]
  refine ⟨f l, es, ?_, alerters, cancelled, trace, by rwa [none], fun bot _ => none bot⟩
  intro j
  rw [lanes, getElem?_lanes_setLane]
  by_cases same : k = j
  · subst same
    simp [hl]
  · simp [same]

theorem stepsLane_setLane {m : Move} {f : Lane κ → Lane κ} (hl : r.lanes[k]? = some l)
    (done : LaneMove r k l m (f l) []) : ∃ l' es, r.StepsLane m k l (r.setLane k f) l' es :=
  stepsLane_of_setLane hl rfl rfl rfl (List.append_nil _).symm (by simp) done

theorem stepsLane_refl {m : Move} (hl : r.lanes[k]? = some l) :
    ∃ l' es, r.StepsLane m k l r l' es := by
  refine ⟨l, [], fun j => ?_, rfl, rfl, (List.append_nil _).symm, .aside l.loop l.isHungUp, by simp⟩
  split
  · next same => rw [← same, hl]
  · rfl

theorem laneMove_runStep (able : l.runIsAble (r.isStopped k) = true) :
    LaneMove r k l (.act (.runLoop k)) (l.runStep (r.isStopped k)) [] := by
  have running : l.runEnd = none := by
    simp only [Lane.runIsAble, Bool.and_eq_true, Option.isNone_iff_eq_none] at able
    exact able.1.2
  unfold Lane.runStep
  split
  · split
    · exact .runEnds _ running
    · next heard =>
      split
      · exact .handsOver _ _ running (by simpa using heard)
      · exact .aside l.loop l.isHungUp
  · split
    · exact .runEnds _ running
    · split
      · exact .raises _ _ running
      · exact .aside _ l.isHungUp
      · exact .runEnds _ running
      · exact .runEnds _ running
      · exact .aside l.loop l.isHungUp

theorem stepsLane_supervisorStep (hl : r.lanes[k]? = some l)
    (able : l.supervisorIsAble = true) :
    ∃ l' es, r.StepsLane (.act (.supervisor k)) k l (r.supervisorStep k) l' es := by
  unfold supervisorStep
  rw [hl]
  dsimp only
  split
  · next starting =>
    exact stepsLane_of_setLane hl rfl rfl rfl (List.append_nil _).symm (by simp)
      (.starts starting)
  · next watching =>
    have ended : l.runEnd.isSome = true := by simpa [Lane.supervisorIsAble, watching] using able
    have closing : ∀ (s : Runner κ) (es : List (Happening κ)), s.lanes = r.lanes →
        s.alerters = r.alerters → s.isCancelled = r.isCancelled → s.trace = r.trace ++ es →
        (∀ e ∈ es, e.isOfLane = false) →
        ∃ l' es, r.StepsLane (.act (.supervisor k)) k l
          ((s.stopLane k).setLane k fun l => { l with supervisor := .closing }) l' es := by
      intro s es lanes alerters cancelled trace silent
      have stopped : ((s.stopLane k).setLane k fun l => { l with supervisor := .closing }).lanes =
          (r.setLane k fun l => { l with supervisor := .closing, isStopped := true }).lanes := by
        simp only [stopLane, setLane, lanes, List.modify_modify_eq]
        rfl
      exact stepsLane_of_setLane hl stopped alerters cancelled trace silent
        (.closes watching ended)
    split
    · exact closing _ [.noted .runLoopFailed] rfl rfl rfl rfl (by simp [Happening.isOfLane])
    · exact closing _ [] rfl rfl rfl (List.append_nil _).symm (by simp)
  · next phase =>
    obtain ⟨intake, errorLoop⟩ : l.intakeIsOver = true ∧ l.errorLoopIsOver = true := by
      simpa [Lane.supervisorIsAble, phase] using able
    exact stepsLane_setLane hl (.leaves phase intake errorLoop)
  · exact stepsLane_refl hl

theorem stepsLane_errorStep (hl : r.lanes[k]? = some l)
    (able : l.errorLoopIsAble (r.isStopped k) = true) :
    ∃ l' es, r.StepsLane (.act (.errorLoop k)) k l (r.errorStep k) l' es := by
  unfold errorStep
  rw [hl]
  dsimp only
  split
  · exact stepsLane_refl hl
  · next e a rest alerting =>
    refine ⟨{ l with errorLoop := .alerting e rest },
      [.alerted a.name l.botType e (a.alert l.botType e)], ?_, rfl, rfl, rfl, ?_, ?_⟩
    · intro j
      rw [getElem?_lanes_setLane]
      by_cases same : k = j
      · subst same
        simp [emit, hl]
      · simp [same, emit]
    · have own : [Happening.alerted (κ := κ) a.name l.botType e (a.alert l.botType e)].filter
          (Happening.isOfBot l.botType) = [.alerted a.name l.botType e (a.alert l.botType e)] := by
        simp [Happening.isOfBot]
      rw [own]
      exact .alerts e a rest alerting
    · intro bot other
      simp [Happening.isOfBot, other.symm]
  · next e alerting =>
    have stopped : ((r.setLane k fun l => { l with errorLoop := .listening }).stopLane k).lanes =
        (r.setLane k fun l => { l with errorLoop := .listening, isStopped := true }).lanes := by
      simp only [stopLane, setLane, List.modify_modify_eq]
      rfl
    exact stepsLane_of_setLane hl stopped rfl rfl (List.append_nil _).symm (by simp)
      (.breaksDown e alerting)
  · next listening =>
    split
    · next stopped => exact stepsLane_setLane hl (.errorLoopEnds listening (.inl stopped))
    · next going =>
      have going : r.isStopped k = false := by simpa using going
      split
      · next empty =>
        have ended : l.runEnd.isSome = true := by
          simpa [Lane.errorLoopIsAble, listening, going, empty] using
            (Bool.and_eq_true_iff.mp able).2
        exact stepsLane_setLane hl (.errorLoopEnds listening (.inr ⟨empty, ended⟩))
      · next e rest box =>
        exact stepsLane_of_setLane hl rfl rfl rfl rfl (by simp [Happening.isOfLane])
          (.hears e rest listening going box)

/-- An intake takes the next input of its mailbox. -/
theorem stepsLane_accept (hl : r.lanes[k]? = some l) (listening : l.intake = .listening)
    {i : Input} {rest : List Input} (mail : l.mailbox = i :: rest) :
    ∃ l' es, r.StepsLane (.act (.intake k)) k l
      ((r.setLane k fun l => { l with mailbox := rest }).accept k i) l' es := by
  have here : r.botTypeOf k = l.botType := by
    rw [botTypeOf, hl]
    rfl
  have bot : (r.setLane k fun l => { l with mailbox := rest }).botTypeOf k = r.botTypeOf k :=
    botTypeOf_setLane r k k fun _ => rfl
  rw [here] at bot
  have own : [Happening.accepted (κ := κ) l.botType i].filter (Happening.isOfBot l.botType) =
      [.accepted l.botType i] := by simp [Happening.isOfBot]
  -- Whatever the input asks for, one acceptance happens, and the intake goes on.
  have steps : ∀ (s : Runner κ) (intake : Intake κ),
      (intake = .listening ∨ ∃ job, intake = .holding job) →
      s.lanes = (r.setLane k fun l => { l with mailbox := rest, intake }).lanes →
      s.alerters = r.alerters → s.isCancelled = r.isCancelled →
      s.trace = r.trace ++ [.accepted l.botType i] →
      ∃ l' es, r.StepsLane (.act (.intake k)) k l s l' es := by
    intro s intake after lanes alerters cancelled trace
    refine ⟨{ l with mailbox := rest, intake }, _, fun j => ?_, alerters, cancelled, trace, ?_,
      fun bot other => ?_⟩
    · rw [lanes, getElem?_lanes_setLane]
      by_cases same : k = j
      · subst same
        simp [hl]
      · simp [same]
    · rw [own]
      exact .accepts i rest intake mail listening after
    · simp [Happening.isOfBot, other.symm]
  have frame : ∀ s : Runner κ, (s.accept k i).alerters = s.alerters ∧
      (s.accept k i).isCancelled = s.isCancelled := by
    intro s
    unfold accept
    dsimp only
    split <;> exact ⟨rfl, rfl⟩
  obtain ⟨alerters, cancelled⟩ := frame (r.setLane k fun l => { l with mailbox := rest })
  cases kind : i.kind with
  | abort =>
    obtain ⟨metrics, accepted⟩ :=
      accept_abort (r.setLane k fun l => { l with mailbox := rest }) k kind
    refine steps _ .listening (.inl rfl) ?_ alerters cancelled ?_
    · rw [accepted]
      refine List.ext_getElem? fun j => ?_
      rw [getElem?_lanes_setLane, getElem?_lanes_setLane]
      by_cases same : k = j
      · subst same
        simp [hl, listening]
      · simp [same]
    · rw [accepted, bot]
      rfl
  | help =>
    obtain ⟨lanes, -, -, trace⟩ :=
      accept_job (r.setLane k fun l => { l with mailbox := rest }) k (.inl ⟨kind, rfl, rfl⟩)
    exact steps _ _ (.inr ⟨_, rfl⟩) (lanes.trans (List.modify_modify_eq ..)) alerters cancelled
      (bot ▸ trace)
  | message =>
    obtain ⟨lanes, -, -, trace⟩ :=
      accept_job (r.setLane k fun l => { l with mailbox := rest }) k (.inr ⟨kind, rfl, rfl⟩)
    exact steps _ _ (.inr ⟨_, rfl⟩) (lanes.trans (List.modify_modify_eq ..)) alerters cancelled
      (bot ▸ trace)

theorem stepsLane_intakeStep (hl : r.lanes[k]? = some l) :
    ∃ l' es, r.StepsLane (.act (.intake k)) k l (r.intakeStep k) l' es := by
  have silent : r.trace = r.trace ++ ([] : List (Happening κ)) := (List.append_nil _).symm
  have offers : ∀ (s : Runner κ) (intake : Intake κ),
      (l.intake = .waiting ∨ ∃ job, l.intake = .holding job) →
      (intake = .listening ∨ intake = .waiting) →
      s.lanes = (r.setLane k fun l => { l with intake }).lanes → s.alerters = r.alerters →
      s.isCancelled = r.isCancelled → s.trace = r.trace →
      ∃ l' es, r.StepsLane (.act (.intake k)) k l s l' es :=
    fun s intake busy after lanes alerters cancelled trace =>
      stepsLane_of_setLane hl lanes alerters cancelled (trace.trans silent) (by simp)
        (.offers intake busy after)
  unfold intakeStep
  rw [hl]
  dsimp only
  split
  · exact stepsLane_refl hl
  · next job holding =>
    unfold offer
    split
    · next closed => exact stepsLane_setLane hl (.intakeEnds (.inl closed))
    · split
      · exact offers _ .listening (.inr ⟨job, holding⟩) (.inl rfl) rfl rfl rfl rfl
      · exact offers _ .waiting (.inr ⟨job, holding⟩) (.inr rfl) rfl rfl rfl rfl
  · next waits =>
    unfold enter
    dsimp only
    split
    · next closed =>
      exact stepsLane_of_setLane hl rfl rfl rfl silent (by simp) (.intakeEnds (.inl closed))
    · split
      · exact stepsLane_refl hl
      · exact offers _ .listening (.inl waits) (.inl rfl) rfl rfl rfl rfl
  · next listening =>
    split
    · next ends => exact stepsLane_setLane hl (.intakeEnds (.inr ends))
    · split
      · exact stepsLane_refl hl
      · next i rest mail => exact stepsLane_accept hl listening mail

/-! ## All moves -/

/-- A lane that is changed outside of its steps. -/
theorem isAside_or_stepsLane_setLane (m : Move) {f : Lane κ → Lane κ}
    (told : ∀ l, ∃ loop isHungUp, f l = { l with loop, isHungUp }) :
    r.IsAside (r.setLane k f) ∨
      ∃ l l' es, r.lanes[k]? = some l ∧ r.StepsLane m k l (r.setLane k f) l' es := by
  cases hl : r.lanes[k]? with
  | none =>
    refine .inl ⟨?_, rfl, rfl, [], (List.append_nil _).symm, by simp⟩
    refine List.ext_getElem? fun j => ?_
    rw [getElem?_lanes_setLane]
    by_cases same : k = j
    · subst same
      simp [hl]
    · simp [same]
  | some l =>
    obtain ⟨loop, isHungUp, eq⟩ := told l
    have done : LaneMove r k l m (f l) [] := by
      rw [eq]
      exact .aside loop isHungUp
    obtain ⟨l', es, steps⟩ := stepsLane_setLane hl done
    exact .inr ⟨l, l', es, rfl, steps⟩

/-- What an actor does is one lane's move, or none of a lane's. -/
theorem isAside_or_stepsLane_step {a : Actor} (able : Runner.able a r = true) :
    r.IsAside (step a r) ∨
      ∃ k l l' es, r.lanes[k]? = some l ∧ r.StepsLane (.act a) k l (step a r) l' es := by
  have refl := IsAside.refl r
  cases a with
  | supervisor k =>
    obtain ⟨l, hl, able⟩ := (Option.any_eq_true ..).mp able
    obtain ⟨l', es, steps⟩ := stepsLane_supervisorStep hl able
    exact .inr ⟨k, l, l', es, hl, steps⟩
  | runLoop k =>
    obtain ⟨l, hl, able⟩ := (Option.any_eq_true ..).mp able
    have done := laneMove_runStep able
    obtain ⟨l', es, steps⟩ :=
      stepsLane_setLane (f := fun l => l.runStep (r.isStopped k)) hl done
    exact .inr ⟨k, l, l', es, hl, steps⟩
  | errorLoop k =>
    obtain ⟨l, hl, able⟩ := (Option.any_eq_true ..).mp able
    obtain ⟨l', es, steps⟩ := stepsLane_errorStep hl able
    exact .inr ⟨k, l, l', es, hl, steps⟩
  | intake k =>
    cases hl : r.lanes[k]? with
    | none =>
      change r.intakeIsAble k = true at able
      rw [intakeIsAble, hl] at able
      cases able
    | some l =>
      obtain ⟨l', es, steps⟩ := stepsLane_intakeStep hl
      exact .inr ⟨k, l, l', es, hl, steps⟩
  | course =>
    refine .inl ?_
    show r.IsAside r.courseStep
    unfold courseStep
    split
    all_goals exact refl.update rfl rfl rfl rfl
  | planner =>
    refine .inl ?_
    show r.IsAside r.plannerStep
    unfold plannerStep
    split
    · exact refl
    · exact refl.update rfl rfl rfl rfl
  | worker n => exact .inl (isAside_workerStep r n)
  | timer n => exact .inl (isAside_timerStep r n)
  | watcher => exact .inl (isAside_watch r)
  | timerExit n => exact .inl (refl.update rfl rfl rfl rfl)
  | plannerExit => exact .inl (refl.update rfl rfl rfl rfl)
  | sweeperExit => exact .inl (refl.update rfl rfl rfl rfl)
  | sweeper => exact .inl (refl.update rfl rfl rfl rfl)
  | gaugeExit => exact .inl (refl.update rfl rfl rfl rfl)
  | gauge => exact .inl (refl.update rfl rfl rfl rfl)

/-- Every move is one lane's move, or none of a lane's. -/
theorem isAside_or_stepsLane (r : Runner κ) {m : Move} (going : m ≠ .cancel) :
    r.IsAside (r.move m) ∨
      ∃ k l l' es, r.lanes[k]? = some l ∧ r.StepsLane m k l (r.move m) l' es := by
  have refl := IsAside.refl r
  cases m with
  | act a =>
    unfold move
    dsimp only
    split
    · next able => exact isAside_or_stepsLane_step able
    · exact .inl refl
  | cancel => exact absurd rfl going
  | pass ms => exact .inl (refl.update rfl rfl rfl rfl)
  | edit files => exact .inl (refl.update rfl rfl rfl rfl)
  | report x => exact .inl (refl.update rfl rfl rfl rfl)
  | tell k i =>
    refine (isAside_or_stepsLane_setLane _ fun l => ?_).imp id fun h => ⟨k, h⟩
    unfold Lane.tell
    split
    · exact ⟨_, _, rfl⟩
    · exact ⟨l.loop, l.isHungUp, rfl⟩
  | raise k e =>
    refine (isAside_or_stepsLane_setLane _ fun l => ?_).imp id fun h => ⟨k, h⟩
    unfold Lane.tellError
    split
    · exact ⟨_, _, rfl⟩
    · exact ⟨l.loop, l.isHungUp, rfl⟩
  | hangUp k =>
    refine (isAside_or_stepsLane_setLane _ fun l => ?_).imp id fun h => ⟨k, h⟩
    exact ⟨l.loop, true, rfl⟩

theorem orders_move (r : Runner κ) {m : Move} (going : m ≠ .cancel) :
    (r.move m).isCancelled = r.isCancelled ∧ (r.move m).alerters = r.alerters := by
  rcases isAside_or_stepsLane r going with aside | ⟨k, l, l', es, -, steps⟩
  · exact ⟨aside.cancelled, aside.alerters⟩
  · exact ⟨steps.cancelled, steps.alerters⟩

/-- What any move does to a lane, as long as no two lanes have one bot type. -/
theorem laneMove (apart : (r.lanes.map Lane.botType).Nodup) {m : Move} (going : m ≠ .cancel)
    (hl : r.lanes[k]? = some l) :
    ∃ l' es, (r.move m).lanes[k]? = some l' ∧ (r.move m).trace = r.trace ++ es ∧
      r.LaneMove k l m l' (es.filter (Happening.isOfBot l.botType)) := by
  rcases isAside_or_stepsLane r going with aside | ⟨j, l₁, l₁', es, hl₁, steps⟩
  · obtain ⟨es, trace, silent⟩ := aside.trace
    have none : es.filter (Happening.isOfBot l.botType) = [] :=
      List.filter_eq_nil_iff.mpr fun e he => by
        simp [Happening.isOfBot_of_not_isOfLane (silent e he)]
    refine ⟨l, es, by rw [aside.lanes, hl], trace, ?_⟩
    rw [none]
    exact .aside l.loop l.isHungUp
  · by_cases same : j = k
    · subst same
      obtain rfl := Option.some_inj.mp (hl₁.symm.trans hl)
      exact ⟨l₁', es, by simp [steps.lanes], steps.trace, steps.done⟩
    · -- It is another lane's move, and done in the name of another bot.
      have other : l.botType ≠ l₁.botType := by
        intro equal
        have bots : (r.lanes.map Lane.botType)[k]? = (r.lanes.map Lane.botType)[j]? := by
          rw [List.getElem?_map, List.getElem?_map, hl, hl₁, Option.map_some, Option.map_some,
            equal]
        have bound : k < (r.lanes.map Lane.botType).length := by
          rw [List.length_map]
          exact (List.getElem?_eq_some_iff.mp hl).1
        exact same ((List.getElem?_inj bound apart).mp bots).symm
      refine ⟨l, es, by simp [steps.lanes, same, hl], steps.trace, ?_⟩
      rw [steps.others _ other]
      exact .aside l.loop l.isHungUp

end Runner

/-! ## Runs -/

namespace RunnerPlan

variable {κ α : Type} (p : RunnerPlan κ) (schedule : Nat → Runner.Move)

/-- What a box of a lane was given before move `n`, in order. -/
def putInto (box : Lane κ → List α) (k n : Nat) : List α :=
  (List.range n).flatMap fun m =>
    (((p.start.after schedule (m + 1)).lanes[k]?.map box).getD []).drop
      (((p.start.after schedule m).lanes[k]?.map box).getD []).length

theorem start_lane {k : Nat} {l : Lane κ} (hl : p.start.lanes[k]? = some l) :
    ∃ bot, l = .ofBot bot := by
  have mem := List.mem_of_getElem? hl
  rcases p.start_spec.1 with lanes | lanes
  · rw [lanes] at mem
    obtain ⟨bot, -, rfl⟩ := List.mem_map.mp mem
    exact ⟨bot, rfl⟩
  · rw [lanes] at mem
    cases mem

theorem isOfLane_of_start : ∀ e ∈ p.start.trace, e.isOfLane = false := by
  unfold start
  split
  · simp [runner]
  · dsimp only
    split
    · simp [launch, Happening.isOfLane]
    · simp [Happening.isOfLane]

theorem start_orders : p.start.isCancelled = false ∧ p.start.alerters = p.alerters := by
  unfold start
  split
  · exact ⟨rfl, rfl⟩
  · dsimp only
    split <;> exact ⟨rfl, rfl⟩

variable {p schedule} {n k : Nat} {l l' : Lane κ} {notes : List Note}

theorem putInto_succ (box : Lane κ → List α) (hl : (p.start.after schedule n).lanes[k]? = some l)
    (hl' : (p.start.after schedule (n + 1)).lanes[k]? = some l') :
    p.putInto schedule box k (n + 1) =
      p.putInto schedule box k n ++ (box l').drop (box l).length := by
  rw [putInto, putInto, List.range_succ, List.flatMap_append]
  simp [hl, hl']

/-- No two lanes have one bot type. -/
theorem nodup_botTypes_after (checked : p.check = .ok notes) (schedule : Nat → Runner.Move)
    (n : Nat) : ((p.start.after schedule n).lanes.map Lane.botType).Nodup := by
  have of_bots : ∀ r : Runner κ,
      r.lanes.map Lane.botType = (r.lanes.map Lane.bot).map Bot.botType := by
    intro r
    rw [List.map_map]
    rfl
  rw [of_bots, (Runner.isLater_after p.start schedule n.zero_le).bots, Runner.after, ← of_bots]
  rcases p.start_spec.1 with lanes | lanes
  · rw [lanes, List.map_map]
    exact nodup_botTypes checked
  · rw [lanes]
    exact List.nodup_nil

/-- Every move of a run is one of a lane's moves, for every lane. -/
theorem laneMove_after (checked : p.check = .ok notes) (going : schedule n ≠ .cancel)
    (hl : (p.start.after schedule n).lanes[k]? = some l) :
    ∃ l', (p.start.after schedule (n + 1)).lanes[k]? = some l' ∧
      (p.start.after schedule n).LaneMove k l (schedule n) l'
        ((p.start.happens schedule n).filter (Happening.isOfBot l.botType)) := by
  obtain ⟨l', es, hl', trace, done⟩ :=
    Runner.laneMove (nodup_botTypes_after checked schedule n) going hl
  have happens : p.start.happens schedule n = es := by
    show ((p.start.after schedule n).move (schedule n)).trace.drop _ = es
    rw [trace, List.drop_left]
  exact ⟨l', hl', happens ▸ done⟩

theorem orders_after (p : RunnerPlan κ) (going : ∀ m < n, schedule m ≠ .cancel) :
    (p.start.after schedule n).isCancelled = false ∧
      (p.start.after schedule n).alerters = p.alerters := by
  induction n with
  | zero => exact p.start_orders
  | succ n ih =>
    obtain ⟨cancelled, alerters⟩ := ih fun m hm => going m (hm.trans n.lt_succ_self)
    have orders := (p.start.after schedule n).orders_move (going n n.lt_succ_self)
    exact ⟨orders.1.trans cancelled, orders.2.trans alerters⟩

/-- A lane of a run that nobody stops is told to stop by itself only. -/
theorem isStopped_after (going : ∀ m < n, schedule m ≠ .cancel)
    (hl : (p.start.after schedule n).lanes[k]? = some l) :
    (p.start.after schedule n).isStopped k = l.isStopped := by
  rw [Runner.isStopped, (p.orders_after going).1, hl]
  rfl

/-- What a lane's moves preserve is true of the lane as long as nobody stops the run. -/
theorem lane_induction (checked : p.check = .ok notes) (holds : Nat → Lane κ → Prop)
    (start : ∀ bot, p.start.lanes[k]? = some (.ofBot bot) → holds 0 (.ofBot bot))
    (step : ∀ n l l', (∀ m < n, schedule m ≠ .cancel) →
      (p.start.after schedule n).lanes[k]? = some l →
      (p.start.after schedule (n + 1)).lanes[k]? = some l' →
      (p.start.after schedule n).LaneMove k l (schedule n) l'
        ((p.start.happens schedule n).filter (Happening.isOfBot l.botType)) →
      holds n l → holds (n + 1) l')
    (going : ∀ m < n, schedule m ≠ .cancel)
    (hl : (p.start.after schedule n).lanes[k]? = some l) : holds n l := by
  induction n generalizing l with
  | zero =>
    obtain ⟨bot, rfl⟩ := p.start_lane hl
    exact start bot hl
  | succ n ih =>
    have before := fun m (hm : m < n) => going m (hm.trans n.lt_succ_self)
    have bound : k < (p.start.after schedule n).lanes.length := by
      rw [← (Runner.isLater_move _ (schedule n)).length]
      exact (List.getElem?_eq_some_iff.mp hl).1
    obtain ⟨l', hl', done⟩ := laneMove_after checked (going n n.lt_succ_self)
      (List.getElem?_eq_getElem bound)
    obtain rfl := Option.some_inj.mp (hl'.symm.trans hl)
    exact step n _ _ before (List.getElem?_eq_getElem bound) hl done
      (ih before (List.getElem?_eq_getElem bound))

end RunnerPlan

end Switchboard
