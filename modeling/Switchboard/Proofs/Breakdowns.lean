import Switchboard.Proofs.LaneMoves

/-!
# Bots that break down

A bot that raises a critical error breaks down: its error loop calls all alerters, one after
another, and then stops the lane. Errors that can be lived with never call anybody, and never stop a
lane.

The supervisor stops the lane too, once the run loop has ended, and an error loop that has been told
to stop reads no more errors. So a critical error of a run loop that ends is passed on only if the
error loop has read it before the supervisor sees the end (`RunnerPlan.IsInTime`). If it has not,
nobody is called.
-/

namespace Switchboard

/-- What happens when an alerter is called for an error of a bot. -/
def Alerter.called {κ : Type} (bot : BotType) (e : BotError) (a : Alerter) : Happening κ :=
  .alerted a.name bot e (a.alert bot e)

/-- Whether an alerter is called for a bot. -/
def Happening.isAlertOf {κ : Type} (bot : BotType) : Happening κ → Bool
  | alerted _ b _ _ => b == bot
  | _ => false

namespace RunnerPlan

variable {κ : Type} (p : RunnerPlan κ) (schedule : Nat → Runner.Move)

/-- The errors that the run loop of a lane has raised before move `n`. -/
def raised (k n : Nat) : List BotError := p.putInto schedule Lane.errorBox k n

/-- The first critical one of these. -/
def firstCritical? (k n : Nat) : Option BotError := (p.raised schedule k n).find? BotError.critical

/-- The calls of alerters for a bot before move `n`. -/
def alertsOf (bot : BotType) (n : Nat) : List (Happening κ) :=
  (p.start.after schedule n).trace.filter (Happening.isAlertOf bot)

/-- Whenever the supervisor of a lane stops it before move `n` although a critical error was raised,
the error loop has read one: it is calling the alerters, or has called them and stopped the lane. -/
def IsInTime (k n : Nat) : Prop :=
  ∀ q < n, ∀ l l', (p.start.after schedule q).lanes[k]? = some l →
    (p.start.after schedule (q + 1)).lanes[k]? = some l' →
    l.supervisor = .watching → l'.supervisor = .closing →
    ∀ e, p.firstCritical? schedule k q = some e →
      l.isStopped = true ∨ ∃ e rest, l.errorLoop = .alerting e rest

/-- What a lane and its alerters make of the errors that were raised. -/
inductive Alarm (bot : BotType) (k n : Nat) (l : Lane κ) (alerts : List (Happening κ)) : Prop
  /-- The error loop has read nothing that is critical. -/
  | calm (heard : List BotError) (all : p.raised schedule k n = heard ++ l.errorBox)
    (mild : heard.find? BotError.critical = none) (listening : l.errorLoop = .listening)
    (going : l.isStopped = false) (silent : alerts = []) (timely : p.IsInTime schedule k n)
  /-- It calls the alerters for the first critical error. -/
  | calling (e : BotError) (first : p.firstCritical? schedule k n = some e)
    (called left : List Alerter) (all : p.alerters = called ++ left)
    (alerting : l.errorLoop = .alerting e left) (calls : alerts = called.map (Alerter.called bot e))
    (timely : p.IsInTime schedule k n)
  /-- It has called them, and the lane is told to stop. -/
  | broken (e : BotError) (first : p.firstCritical? schedule k n = some e)
    (told : l.isStopped = true) (idle : l.errorLoop = .listening ∨ l.errorLoop = .over)
    (calls : alerts = p.alerters.map (Alerter.called bot e)) (timely : p.IsInTime schedule k n)
  /-- The supervisor has stopped the lane first. -/
  | overtaken (told : l.isStopped = true) (ended : l.runEnd.isSome = true)
    (idle : l.errorLoop = .listening ∨ l.errorLoop = .over) (silent : alerts = [])
    (missed : ∀ e, p.firstCritical? schedule k n = some e → ¬ p.IsInTime schedule k n)
  /-- The run loop has ended without a critical error, and the error loop has read all errors. -/
  | quiet (mild : p.firstCritical? schedule k n = none) (ended : l.runEnd.isSome = true)
    (ceased : l.errorLoop = .over) (silent : alerts = []) (timely : p.IsInTime schedule k n)

variable {p schedule} {k n : Nat} {l l' : Lane κ} {bot : BotType} {alerts : List (Happening κ)}

/-! ## One move -/

theorem isInTime_succ (hl : (p.start.after schedule n).lanes[k]? = some l)
    (hl' : (p.start.after schedule (n + 1)).lanes[k]? = some l') :
    p.IsInTime schedule k (n + 1) ↔ p.IsInTime schedule k n ∧
      (l.supervisor = .watching → l'.supervisor = .closing →
        ∀ e, p.firstCritical? schedule k n = some e →
          l.isStopped = true ∨ ∃ e rest, l.errorLoop = .alerting e rest) := by
  constructor
  · intro h
    exact ⟨fun q hq => h q (hq.trans n.lt_succ_self), h n n.lt_succ_self l l' hl hl'⟩
  · rintro ⟨before, now⟩ q hq l₁ l₁' hl₁ hl₁'
    rcases Nat.lt_succ_iff_lt_or_eq.mp hq with earlier | rfl
    · exact before q earlier l₁ l₁' hl₁ hl₁'
    · obtain rfl := Option.some_inj.mp (hl.symm.trans hl₁)
      obtain rfl := Option.some_inj.mp (hl'.symm.trans hl₁')
      exact now

theorem raised_succ (hl : (p.start.after schedule n).lanes[k]? = some l)
    (hl' : (p.start.after schedule (n + 1)).lanes[k]? = some l') :
    p.raised schedule k (n + 1) =
      p.raised schedule k n ++ l'.errorBox.drop l.errorBox.length :=
  putInto_succ _ hl hl'

/-- A move that is not about errors. -/
theorem Alarm.keep (h : p.Alarm schedule bot k n l alerts)
    (hl : (p.start.after schedule n).lanes[k]? = some l)
    (hl' : (p.start.after schedule (n + 1)).lanes[k]? = some l')
    (box : l'.errorBox = l.errorBox) (loop : l'.errorLoop = l.errorLoop)
    (stopped : l'.isStopped = l.isStopped) (ended : l.runEnd.isSome = true → l'.runEnd.isSome = true)
    (elsewhere : l.supervisor = .watching → l'.supervisor ≠ .closing) :
    p.Alarm schedule bot k (n + 1) l' alerts := by
  have raised : p.raised schedule k (n + 1) = p.raised schedule k n := by
    rw [raised_succ hl hl', box, List.drop_length, List.append_nil]
  have first : p.firstCritical? schedule k (n + 1) = p.firstCritical? schedule k n := by
    rw [firstCritical?, raised, firstCritical?]
  have timely : p.IsInTime schedule k (n + 1) ↔ p.IsInTime schedule k n := by
    rw [isInTime_succ hl hl']
    exact and_iff_left fun watching closing => absurd closing (elsewhere watching)
  cases h with
  | calm heard all mild listening going silent time =>
    exact .calm heard (by rw [raised, box, all]) mild (loop.trans listening)
      (stopped.trans going) silent (timely.mpr time)
  | calling e firstly called left all alerting calls time =>
    exact .calling e (first.trans firstly) called left all (loop.trans alerting) calls
      (timely.mpr time)
  | broken e firstly told idle calls time =>
    exact .broken e (first.trans firstly) (stopped.trans told) (loop ▸ idle) calls
      (timely.mpr time)
  | overtaken told done idle silent missed =>
    refine .overtaken (stopped.trans told) (ended done) (loop ▸ idle) silent ?_
    rwa [first, timely]
  | quiet mild done ceased silent time =>
    exact .quiet (first.trans mild) (ended done) (loop.trans ceased) silent (timely.mpr time)

/-- What a move about errors has in common with one that is not: as long as the supervisor does not
stop the lane, the error loop is as much in time as before. -/
theorem isInTime_succ_of_same (hl : (p.start.after schedule n).lanes[k]? = some l)
    (hl' : (p.start.after schedule (n + 1)).lanes[k]? = some l')
    (same : l'.supervisor = l.supervisor) :
    p.IsInTime schedule k (n + 1) ↔ p.IsInTime schedule k n := by
  rw [isInTime_succ hl hl', same]
  refine and_iff_left fun watching closing => ?_
  rw [watching] at closing
  cases closing

section Errors

variable (h : p.Alarm schedule bot k n l alerts)
  (hl : (p.start.after schedule n).lanes[k]? = some l)
include h hl

theorem Alarm.raises {e : BotError} {loop : RunLoop}
    (hl' : (p.start.after schedule (n + 1)).lanes[k]? =
      some { l with errorBox := l.errorBox ++ [e], loop })
    (running : l.runEnd = none) :
    p.Alarm schedule bot k (n + 1) { l with errorBox := l.errorBox ++ [e], loop } alerts := by
  have raised : p.raised schedule k (n + 1) = p.raised schedule k n ++ [e] := by
    rw [raised_succ hl hl', List.drop_left]
  have timely := isInTime_succ_of_same hl hl' rfl
  have first : ∀ c, p.firstCritical? schedule k n = some c →
      p.firstCritical? schedule k (n + 1) = some c := by
    intro c found
    rw [firstCritical?] at found ⊢
    rw [raised, List.find?_append, found]
    rfl
  cases h with
  | calm heard all mild listening going silent time =>
    refine .calm heard ?_ mild listening going silent (timely.mpr time)
    rw [raised, all, List.append_assoc]
  | calling c firstly called left all alerting calls time =>
    exact .calling c (first c firstly) called left all alerting calls (timely.mpr time)
  | broken c firstly told idle calls time =>
    exact .broken c (first c firstly) told idle calls (timely.mpr time)
  | overtaken told ended =>
    rw [running] at ended
    cases ended
  | quiet mild ended =>
    rw [running] at ended
    cases ended

theorem Alarm.hears {e : BotError} {rest : List BotError}
    (hl' : (p.start.after schedule (n + 1)).lanes[k]? = some { l with
      errorBox := rest, errorLoop := if e.critical then .alerting e p.alerters else .listening })
    (listening : l.errorLoop = .listening) (going : l.isStopped = false)
    (box : l.errorBox = e :: rest) :
    p.Alarm schedule bot k (n + 1) { l with
      errorBox := rest, errorLoop := if e.critical then .alerting e p.alerters else .listening }
      alerts := by
  have raised : p.raised schedule k (n + 1) = p.raised schedule k n := by
    rw [raised_succ hl hl', box]
    simp
  have timely := isInTime_succ_of_same hl hl' rfl
  cases h with
  | calm heard all mild _ _ silent time =>
    rw [box] at all
    cases critical : e.critical with
    | true =>
      refine .calling e ?_ [] p.alerters rfl rfl silent (timely.mpr time)
      rw [firstCritical?, raised, all, List.find?_append, mild,
        List.find?_cons_of_pos critical]
      rfl
    | false =>
      refine .calm (heard ++ [e]) ?_ ?_ rfl going silent (timely.mpr time)
      · rw [raised, all, List.append_assoc]
        rfl
      · rw [List.find?_append, mild, List.find?_cons_of_neg (by simp [critical])]
        rfl
  | calling _ _ _ _ _ alerting =>
    rw [listening] at alerting
    cases alerting
  | broken _ _ told =>
    rw [going] at told
    cases told
  | overtaken told =>
    rw [going] at told
    cases told
  | quiet _ _ ceased =>
    rw [listening] at ceased
    cases ceased

theorem Alarm.callsNext {e : BotError} {a : Alerter} {rest : List Alerter}
    (hl' : (p.start.after schedule (n + 1)).lanes[k]? =
      some { l with errorLoop := .alerting e rest })
    (alerting : l.errorLoop = .alerting e (a :: rest)) :
    p.Alarm schedule bot k (n + 1) { l with errorLoop := .alerting e rest }
      (alerts ++ [a.called bot e]) := by
  have raised : p.raised schedule k (n + 1) = p.raised schedule k n := by
    rw [raised_succ hl hl', List.drop_length, List.append_nil]
  have timely := isInTime_succ_of_same hl hl' rfl
  cases h with
  | calling c firstly called left all phase calls time =>
    rw [alerting] at phase
    cases phase
    refine .calling e ?_ (called ++ [a]) rest ?_ rfl ?_ (timely.mpr time)
    · rwa [firstCritical?, raised]
    · rw [all, List.append_assoc]
      rfl
    · rw [calls, List.map_append]
      rfl
  | calm _ _ _ listening =>
    rw [alerting] at listening
    cases listening
  | broken _ _ _ idle => rcases idle with idle | idle <;> rw [alerting] at idle <;> cases idle
  | overtaken _ _ idle => rcases idle with idle | idle <;> rw [alerting] at idle <;> cases idle
  | quiet _ _ ceased =>
    rw [alerting] at ceased
    cases ceased

theorem Alarm.breaksDown {e : BotError}
    (hl' : (p.start.after schedule (n + 1)).lanes[k]? =
      some { l with errorLoop := .listening, isStopped := true })
    (alerting : l.errorLoop = .alerting e []) :
    p.Alarm schedule bot k (n + 1) { l with errorLoop := .listening, isStopped := true }
      alerts := by
  have raised : p.raised schedule k (n + 1) = p.raised schedule k n := by
    rw [raised_succ hl hl', List.drop_length, List.append_nil]
  have timely := isInTime_succ_of_same hl hl' rfl
  cases h with
  | calling c firstly called left all phase calls time =>
    rw [alerting] at phase
    cases phase
    refine .broken e ?_ rfl (.inl rfl) ?_ (timely.mpr time)
    · rwa [firstCritical?, raised]
    · rw [all, List.append_nil]
      exact calls
  | calm _ _ _ listening =>
    rw [alerting] at listening
    cases listening
  | broken _ _ _ idle => rcases idle with idle | idle <;> rw [alerting] at idle <;> cases idle
  | overtaken _ _ idle => rcases idle with idle | idle <;> rw [alerting] at idle <;> cases idle
  | quiet _ _ ceased =>
    rw [alerting] at ceased
    cases ceased

theorem Alarm.errorLoopEnds (hl' : (p.start.after schedule (n + 1)).lanes[k]? = some l.endErrorLoop)
    (listening : l.errorLoop = .listening)
    (why : l.isStopped = true ∨ l.errorBox = [] ∧ l.runEnd.isSome = true) :
    p.Alarm schedule bot k (n + 1) l.endErrorLoop alerts := by
  have raised : p.raised schedule k (n + 1) = p.raised schedule k n := by
    rw [raised_succ hl hl']
    simp [Lane.endErrorLoop]
  have first : p.firstCritical? schedule k (n + 1) = p.firstCritical? schedule k n := by
    rw [firstCritical?, raised, firstCritical?]
  have timely := isInTime_succ_of_same hl hl' rfl
  cases h with
  | calm heard all mild _ going silent time =>
    rcases why with told | ⟨empty, ended⟩
    · rw [going] at told
      cases told
    · refine .quiet ?_ ended rfl silent (timely.mpr time)
      rw [first, firstCritical?, all, empty, List.append_nil, mild]
  | calling _ _ _ _ _ alerting =>
    rw [listening] at alerting
    cases alerting
  | broken c firstly told _ calls time =>
    exact .broken c (first.trans firstly) told (.inr rfl) calls (timely.mpr time)
  | overtaken told ended _ silent missed =>
    refine .overtaken told ended (.inr rfl) silent ?_
    rwa [first, timely]
  | quiet _ _ ceased =>
    rw [listening] at ceased
    cases ceased

/-- The supervisor stops the lane. -/
theorem Alarm.closes
    (hl' : (p.start.after schedule (n + 1)).lanes[k]? =
      some { l with supervisor := .closing, isStopped := true })
    (watching : l.supervisor = .watching) (ended : l.runEnd.isSome = true) :
    p.Alarm schedule bot k (n + 1) { l with supervisor := .closing, isStopped := true }
      alerts := by
  have raised : p.raised schedule k (n + 1) = p.raised schedule k n := by
    rw [raised_succ hl hl', List.drop_length, List.append_nil]
  have first : p.firstCritical? schedule k (n + 1) = p.firstCritical? schedule k n := by
    rw [firstCritical?, raised, firstCritical?]
  have timely := isInTime_succ hl hl'
  cases h with
  | calm heard all mild listening going silent time =>
    refine .overtaken rfl ended (.inl listening) silent fun e found inTime => ?_
    rcases (timely.mp inTime).2 watching rfl e (first ▸ found) with told | ⟨c, left, alerting⟩
    · rw [going] at told
      cases told
    · rw [listening] at alerting
      cases alerting
  | calling e firstly called left all alerting calls time =>
    refine .calling e (first.trans firstly) called left all alerting calls (timely.mpr ⟨time, ?_⟩)
    exact fun _ _ _ _ => .inr ⟨e, left, alerting⟩
  | broken e firstly told idle calls time =>
    refine .broken e (first.trans firstly) rfl idle calls (timely.mpr ⟨time, ?_⟩)
    exact fun _ _ _ _ => .inl told
  | overtaken _ _ idle silent missed =>
    refine .overtaken rfl ended idle silent fun e found inTime => ?_
    exact missed e (first ▸ found) (timely.mp inTime).1
  | quiet mild _ ceased silent time =>
    refine .quiet (first.trans mild) ended ceased silent (timely.mpr ⟨time, ?_⟩)
    intro _ _ e found
    rw [mild] at found
    cases found

end Errors

/-- What a lane's move makes of its errors. -/
theorem Alarm.step (h : p.Alarm schedule l.botType k n l alerts) {es : List (Happening κ)}
    (going : ∀ m < n, schedule m ≠ .cancel)
    (hl : (p.start.after schedule n).lanes[k]? = some l)
    (hl' : (p.start.after schedule (n + 1)).lanes[k]? = some l')
    (done : (p.start.after schedule n).LaneMove k l (schedule n) l' es) :
    p.Alarm schedule l.botType k (n + 1) l'
      (alerts ++ es.filter (Happening.isAlertOf l.botType)) := by
  have own := isStopped_after going hl
  have elsewhere : l.supervisor = .watching → l.supervisor ≠ .closing := by
    intro watching
    simp [watching]
  generalize schedule n = move at done
  cases done with
  | alerts e a rest alerting =>
    have call : [Happening.alerted (κ := κ) a.name l.botType e (a.alert l.botType e)].filter
        (Happening.isAlertOf l.botType) = [a.called l.botType e] := by
      simp [Happening.isAlertOf, Alerter.called]
    rw [call]
    exact h.callsNext hl hl' alerting
  | accepts i rest intake =>
    have none : [Happening.accepted (κ := κ) l.botType i].filter
        (Happening.isAlertOf l.botType) = [] := by simp [Happening.isAlertOf]
    rw [none, List.append_nil]
    exact h.keep hl hl' rfl rfl rfl id elsewhere
  | raises e loop running =>
    rw [List.filter_nil, List.append_nil]
    exact h.raises hl hl' running
  | hears e rest listening unstopped box =>
    rw [List.filter_nil, List.append_nil]
    rw [(p.orders_after going).2] at hl' ⊢
    exact h.hears hl hl' listening (own ▸ unstopped) box
  | breaksDown e alerting =>
    rw [List.filter_nil, List.append_nil]
    exact h.breaksDown hl hl' alerting
  | errorLoopEnds listening why =>
    rw [List.filter_nil, List.append_nil]
    exact h.errorLoopEnds hl hl' listening (own ▸ why)
  | closes watching ended =>
    rw [List.filter_nil, List.append_nil]
    exact h.closes hl hl' watching ended
  | runEnds how running =>
    rw [List.filter_nil, List.append_nil]
    exact h.keep hl hl' rfl rfl rfl (fun _ => rfl) elsewhere
  | starts starting =>
    rw [List.filter_nil, List.append_nil]
    exact h.keep hl hl' rfl rfl rfl id (by simp)
  | leaves closing intake errorLoop =>
    rw [List.filter_nil, List.append_nil]
    exact h.keep hl hl' rfl rfl rfl id (by simp)
  | _ =>
    rw [List.filter_nil, List.append_nil]
    exact h.keep hl hl' rfl rfl rfl id elsewhere

/-! ## Runs -/

variable {notes : List Note}

theorem alertsOf_succ (bot : BotType) (n : Nat) :
    p.alertsOf schedule bot (n + 1) = p.alertsOf schedule bot n ++
      ((p.start.happens schedule n).filter (Happening.isOfBot bot)).filter
        (Happening.isAlertOf bot) := by
  rw [alertsOf, (p.effect_after schedule n).1, List.filter_append, alertsOf, List.filter_filter]
  congr 2
  funext e
  cases e <;> simp [Happening.isAlertOf, Happening.isOfBot]

theorem alarm_after (checked : p.check = .ok notes) (going : ∀ m < n, schedule m ≠ .cancel)
    (hl : (p.start.after schedule n).lanes[k]? = some l) :
    p.Alarm schedule l.botType k n l (p.alertsOf schedule l.botType n) := by
  refine lane_induction checked
    (fun n l => p.Alarm schedule l.botType k n l (p.alertsOf schedule l.botType n)) ?_ ?_ going hl
  · intro bot _
    refine .calm [] rfl rfl rfl rfl ?_ fun q hq => absurd hq q.not_lt_zero
    refine List.filter_eq_nil_iff.mpr fun e he => ?_
    have silent := p.isOfLane_of_start e he
    cases e <;> simp_all [Happening.isOfLane, Happening.isAlertOf]
  · intro n l l' going hl hl' done h
    have same : l'.botType = l.botType := congrArg Bot.botType done.bot_eq
    rw [same, alertsOf_succ]
    exact h.step going hl hl' done

/-- Without a critical error nobody is called, and the lane is stopped at the run loop's end
only. -/
theorem Alarm.of_mild (h : p.Alarm schedule bot k n l alerts)
    (mild : p.firstCritical? schedule k n = none) :
    alerts = [] ∧ (l.isStopped = true → l.runEnd.isSome = true) := by
  cases h with
  | calm _ _ _ _ going silent =>
    refine ⟨silent, fun told => ?_⟩
    rw [going] at told
    cases told
  | calling e first =>
    rw [mild] at first
    cases first
  | broken e first =>
    rw [mild] at first
    cases first
  | overtaken _ ended _ silent => exact ⟨silent, fun _ => ended⟩
  | quiet _ ended _ silent => exact ⟨silent, fun _ => ended⟩

/-- A supervisor that has left a lane has stopped it, and has waited for its error loop. -/
theorem closed_after (checked : p.check = .ok notes) (going : ∀ m < n, schedule m ≠ .cancel)
    (hl : (p.start.after schedule n).lanes[k]? = some l) :
    (l.supervisor = .closing ∨ l.supervisor = .over → l.isStopped = true) ∧
      (l.supervisor = .over → l.errorLoop = .over) := by
  refine lane_induction checked (fun _ l =>
    (l.supervisor = .closing ∨ l.supervisor = .over → l.isStopped = true) ∧
      (l.supervisor = .over → l.errorLoop = .over)) ?_ ?_ going hl
  · intro bot _
    simp [Lane.ofBot]
  · rintro n l l' - - - done ⟨stopped, waited⟩
    generalize schedule n = move, List.filter _ _ = es at done
    cases done with
    | hears e rest listening =>
      refine ⟨stopped, fun gone => ?_⟩
      rw [waited gone] at listening
      cases listening
    | alerts e a rest alerting =>
      refine ⟨stopped, fun gone => ?_⟩
      rw [waited gone] at alerting
      cases alerting
    | breaksDown e alerting =>
      refine ⟨fun _ => rfl, fun gone => ?_⟩
      rw [waited gone] at alerting
      cases alerting
    | errorLoopEnds => exact ⟨stopped, fun _ => rfl⟩
    | starts => simp
    | closes => simp
    | leaves closing intake errorLoop =>
      refine ⟨fun _ => stopped (.inl closing), fun _ => ?_⟩
      unfold Lane.errorLoopIsOver at errorLoop
      split at errorLoop
      · assumption
      · cases errorLoop
    | _ => exact ⟨stopped, waited⟩

/-- Errors that can be lived with stop no lane and call nobody. For the first critical error of a
bot the alerters are called in their order, each once: when the supervisor has left the lane, all of
them if the error loop was in time, and else none. -/
theorem first_critical_error_is_passed_on (checked : p.check = .ok notes)
    (going : ∀ m < n, schedule m ≠ .cancel)
    (hl : (p.start.after schedule n).lanes[k]? = some l) :
    (p.firstCritical? schedule k n = none →
      p.alertsOf schedule l.botType n = [] ∧ (l.isStopped = true → l.runEnd.isSome = true)) ∧
    ∀ e, p.firstCritical? schedule k n = some e →
      p.alertsOf schedule l.botType n <+: p.alerters.map (Alerter.called l.botType e) ∧
      (l.supervisor = .over → l.isStopped = true ∧
        (p.IsInTime schedule k n →
          p.alertsOf schedule l.botType n = p.alerters.map (Alerter.called l.botType e)) ∧
        (¬ p.IsInTime schedule k n → p.alertsOf schedule l.botType n = [])) := by
  have alarm := alarm_after checked going hl
  obtain ⟨stopped, waited⟩ := closed_after checked going hl
  refine ⟨alarm.of_mild, fun e found => ?_⟩
  cases alarm with
  | calm heard all mild listening unstopped silent timely =>
    rw [silent]
    refine ⟨List.nil_prefix, fun gone => ?_⟩
    rw [waited gone] at listening
    cases listening
  | calling c first called left all alerting calls timely =>
    obtain rfl := Option.some_inj.mp (first.symm.trans found)
    refine ⟨?_, fun gone => ?_⟩
    · rw [calls, all, List.map_append]
      exact List.prefix_append _ _
    · rw [waited gone] at alerting
      cases alerting
  | broken c first told idle calls timely =>
    obtain rfl := Option.some_inj.mp (first.symm.trans found)
    rw [calls]
    exact ⟨List.prefix_rfl, fun _ => ⟨told, fun _ => rfl, fun late => absurd timely late⟩⟩
  | overtaken told ended idle silent missed =>
    rw [silent]
    refine ⟨List.nil_prefix, fun _ => ?_⟩
    exact ⟨told, fun timely => absurd timely (missed e found), fun _ => rfl⟩
  | quiet mild =>
    rw [mild] at found
    cases found

end RunnerPlan

/-! ## Two bots that break down -/

namespace Alarmed

def chat : BotType := ⟨"chat"⟩

def lost : BotError := ⟨true, ["connection lost"]⟩

/-- The first alerter that is called cannot be reached. -/
def alerters : List Alerter :=
  [{ name := "pager", alert := fun _ _ => some ["pager down"] }, { name := "mail" }]

/-- A runner for a bot with this run loop. -/
def plan (loop : RunLoop) : RunnerPlan Unit where
  language _ _ := .done {}
  origin := default
  bots := [{ botType := chat, loop }]
  alerters

/-- The run loop raises two errors and stays, and the error loop calls the alerters for the second.
-/
def patient : List Runner.Move :=
  [.act (.supervisor 0), .act (.runLoop 0), .act (.errorLoop 0), .act (.runLoop 0),
    .act (.errorLoop 0), .act (.errorLoop 0), .act (.errorLoop 0), .act (.errorLoop 0),
    .act (.runLoop 0), .act (.errorLoop 0), .act (.intake 0), .act (.supervisor 0),
    .act (.supervisor 0)]

def patientSchedule (n : Nat) : Runner.Move := patient[n]?.getD (.pass 0)

def patientPlan : RunnerPlan Unit := plan { errors := [⟨false, ["late reply"]⟩, lost] }

theorem isInTime_patient : patientPlan.IsInTime patientSchedule 0 13 := by
  have table : ∀ q < 13,
      ((patientPlan.start.after patientSchedule q).lanes[0]?.all fun l =>
        l.supervisor != .watching || l.isStopped ||
          (patientPlan.start.after patientSchedule (q + 1)).lanes[0]?.all fun l' =>
            l'.supervisor != .closing) = true := by
    decide +kernel
  intro q hq l l' hl hl' watching closing _ _
  have row := table q hq
  rw [hl, hl'] at row
  exact .inl (by simpa [watching, closing] using row)

/-- Both alerters are called for a lost connection, although the first of them fails, and nobody is
called for the error before. -/
theorem lost_connection_is_passed_on :
    (∀ m < 13, patientSchedule m ≠ .cancel) ∧ ∃ l,
      (patientPlan.start.after patientSchedule 13).lanes[0]? = some l ∧ l.supervisor = .over ∧
      l.isStopped = true ∧
      patientPlan.alertsOf patientSchedule chat 13 =
        [.alerted "pager" chat lost (some ["pager down"]), .alerted "mail" chat lost none] := by
  have going : ∀ m < 13, patientSchedule m ≠ .cancel := by
    have moves : ∀ m ∈ patient, m ≠ .cancel := by simp [patient]
    intro m hm
    rw [patientSchedule, List.getElem?_eq_getElem hm]
    exact moves _ (List.getElem_mem _)
  have checked : patientPlan.check = .ok [] := rfl
  obtain ⟨-, passed⟩ := RunnerPlan.first_critical_error_is_passed_on (k := 0) checked going rfl
  obtain ⟨-, closed⟩ := passed lost rfl
  obtain ⟨told, timely, -⟩ := closed rfl
  exact ⟨going, _, rfl, rfl, told, timely isInTime_patient⟩

/-- The run loop raises an error and returns, and the supervisor sees its end before the error loop
has read the error. -/
def hasty : List Runner.Move :=
  [.act (.supervisor 0), .act (.runLoop 0), .act (.runLoop 0), .act (.supervisor 0),
    .act (.errorLoop 0), .act (.intake 0), .act (.supervisor 0)]

def hastySchedule (n : Nat) : Runner.Move := hasty[n]?.getD (.pass 0)

def hastyPlan : RunnerPlan Unit := plan { errors := [lost], ending := .returns }

/-- A critical error is raised while the run loop goes on and nobody stops the run. When the
supervisor has left the lane, nobody has been called. -/
theorem hasty_error_calls_nobody :
    (∀ m ∈ hasty, m ≠ .cancel) ∧
      hastyPlan.firstCritical? hastySchedule 0 2 = some lost ∧
      (hastyPlan.start.after hastySchedule 2).lanes.map Lane.runEnd = [none] ∧
      (hastyPlan.start.after hastySchedule 7).lanes.map Lane.supervisor = [.over] ∧
      hastyPlan.alerters = alerters ∧ hastyPlan.alertsOf hastySchedule chat 7 = [] :=
  ⟨by simp [hasty], rfl, rfl, rfl, rfl, rfl⟩

end Alarmed

end Switchboard
