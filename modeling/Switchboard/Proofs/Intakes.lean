import Switchboard.Proofs.Breakdowns
import Switchboard.Proofs.PoolRuns
import Switchboard.Proofs.Turns

/-!
# What becomes of the inputs that are handed over

A run loop hands over inputs through the mailbox of its lane, and the intake accepts them in order.
Until the lane is told to stop, every input that was handed over has been accepted once or is in the
mailbox; and the mailbox is emptied unless the pool has no room for the input before
(`RunnerPlan.handed_over_inputs_are_accepted`). So a job that takes long keeps inputs back, and as
an intake that has been told to stop drops what is left in the mailbox, they are lost when the run
loop returns (`Handover.inputs_are_held_up_or_lost`).
-/

namespace Switchboard

/-- The input that is accepted from a bot. -/
def Happening.acceptedFrom? {κ : Type} (bot : BotType) : Happening κ → Option Input
  | accepted b i => if b = bot then some i else none
  | _ => none

/-! ## Intakes that wait -/

namespace Runner

variable {κ : Type} {r : Runner κ} {k : Nat} {l l' : Lane κ}

theorem lane_of_setLane {s : Runner κ} {f : Lane κ → Lane κ} (hl : r.lanes[k]? = some l)
    (lanes : s.lanes = (r.setLane k f).lanes) (hl' : s.lanes[k]? = some l') : l' = f l := by
  rw [lanes, getElem?_lanes_setLane, hl] at hl'
  simpa [eq_comm] using hl'

/-- An intake that is to wait has joined those who wait at the pool. -/
theorem isWaiting_intakeStep (hl : r.lanes[k]? = some l)
    (before : l.intake = .waiting → r.pool.isWaiting (intakeProducer k) = true)
    (hl' : (r.intakeStep k).lanes[k]? = some l') (waits : l'.intake = .waiting) :
    (r.intakeStep k).pool.isWaiting (intakeProducer k) = true := by
  -- Where the intake waits after a step that leaves it as it was, it did so before.
  have stays : r.intakeStep k = r → (r.intakeStep k).pool.isWaiting (intakeProducer k) = true := by
    intro same
    rw [same, hl] at hl'
    rw [same]
    exact before (Option.some_inj.mp hl' ▸ waits)
  -- Most steps leave it at something else.
  have other : ∀ f : Lane κ → Lane κ, (r.intakeStep k).lanes = (r.setLane k f).lanes →
      (f l).intake ≠ .waiting →
      (r.intakeStep k).pool.isWaiting (intakeProducer k) = true := by
    intro f lanes busy
    rw [lane_of_setLane hl lanes hl'] at waits
    exact absurd waits busy
  cases phase : l.intake with
  | «over» => exact stays (by simp only [intakeStep, hl, phase])
  | holding job =>
    have step : r.intakeStep k = r.offer k job := by simp only [intakeStep, hl, phase]
    unfold offer at step
    split at step
    · exact other Lane.endIntake (by rw [step]) (by simp [Lane.endIntake])
    · split at step
      · exact other (fun l => { l with intake := .listening }) (by rw [step]; rfl) (by simp)
      · rw [step]
        simp [setLane, Pool.isWaiting, Pool.keepWaiting]
  | waiting =>
    have step : r.intakeStep k = r.enter k := by simp only [intakeStep, hl, phase]
    unfold enter at step
    dsimp only at step
    split at step
    · exact other Lane.endIntake (by rw [step]; rfl) (by simp [Lane.endIntake])
    · split at step
      · exact stays step
      · exact other (fun l => { l with intake := .listening }) (by rw [step]; rfl) (by simp)
  | listening =>
    by_cases ends : l.intakeCanEnd (r.isStopped k) = true
    · have step : r.intakeStep k = r.setLane k Lane.endIntake := by
        simp only [intakeStep, hl, phase, if_pos ends]
      exact other Lane.endIntake (by rw [step]) (by simp [Lane.endIntake])
    · cases mail : l.mailbox with
      | nil => exact stays (by simp only [intakeStep, hl, phase, if_neg ends, mail])
      | cons i rest =>
        have step : r.intakeStep k =
            (r.setLane k fun l => { l with mailbox := rest }).accept k i := by
          simp only [intakeStep, hl, phase, if_neg ends, mail]
        obtain ⟨l₁, es, steps⟩ := stepsLane_accept hl phase mail
        rw [← step] at steps
        have found := steps.lanes k
        rw [if_pos rfl, hl'] at found
        obtain rfl := Option.some_inj.mp found
        have busy : l'.intake ≠ .waiting := by
          have done := steps.done
          generalize List.filter _ _ = es at done
          cases done with
          | aside => simp [phase]
          | accepts _ _ intake _ _ after => rcases after with rfl | ⟨job, rfl⟩ <;> simp
          | offers _ held => rcases held with held | ⟨job, held⟩ <;> simp [phase] at held
          | intakeEnds => simp [Lane.endIntake]
        exact absurd waits busy

theorem Move.eq_of_producer? {m : Move} (h : m.producer? = some (intakeProducer k)) :
    m = .act (.intake k) := by
  unfold producer? at h
  split at h
  · rw [intakeProducer_inj (Option.some_inj.mp h)]
  · exact absurd (Option.some_inj.mp h).symm (intakeProducer_ne_timerProducer k _)
  · cases h

end Runner

namespace RunnerPlan

variable {κ : Type} (p : RunnerPlan κ) (schedule : Nat → Runner.Move)

/-- The inputs that the run loop of a lane has handed over before move `n`. -/
def handedOver (k n : Nat) : List Input := p.putInto schedule Lane.mailbox k n

/-- The inputs that were accepted from a bot before move `n`. -/
def acceptedFrom (bot : BotType) (n : Nat) : List Input :=
  (p.start.after schedule n).trace.filterMap (Happening.acceptedFrom? bot)

/-- What a lane has made of the inputs that were handed over. -/
structure IsPassedOn (k n : Nat) (l : Lane κ) : Prop where
  first : p.acceptedFrom schedule l.botType n <+: p.handedOver schedule k n
  complete : l.intakeIsOver = false ∨ l.isStopped = false →
    p.handedOver schedule k n = p.acceptedFrom schedule l.botType n ++ l.mailbox
  empty : l.intakeIsOver = true → l.mailbox = []

variable {p schedule} {k n : Nat} {l l' : Lane κ} {notes : List Note}

theorem acceptedFrom_succ (bot : BotType) (n : Nat) :
    p.acceptedFrom schedule bot (n + 1) = p.acceptedFrom schedule bot n ++
      ((p.start.happens schedule n).filter (Happening.isOfBot bot)).filterMap
        (Happening.acceptedFrom? bot) := by
  rw [acceptedFrom, (p.effect_after schedule n).1, List.filterMap_append, acceptedFrom,
    List.filterMap_filter]
  congr 2
  funext e
  cases e <;> simp [Happening.acceptedFrom?, Happening.isOfBot]

theorem handedOver_succ (hl : (p.start.after schedule n).lanes[k]? = some l)
    (hl' : (p.start.after schedule (n + 1)).lanes[k]? = some l') :
    p.handedOver schedule k (n + 1) =
      p.handedOver schedule k n ++ l'.mailbox.drop l.mailbox.length :=
  putInto_succ _ hl hl'

/-- A move that has nothing to do with inputs. -/
theorem IsPassedOn.keep (h : p.IsPassedOn schedule k n l)
    (hl : (p.start.after schedule n).lanes[k]? = some l)
    (hl' : (p.start.after schedule (n + 1)).lanes[k]? = some l')
    (accepted : p.acceptedFrom schedule l'.botType (n + 1) = p.acceptedFrom schedule l.botType n)
    (mail : l'.mailbox = l.mailbox) (same : l'.intakeIsOver = l.intakeIsOver)
    (stopped : l'.isStopped = false → l.isStopped = false) :
    p.IsPassedOn schedule k (n + 1) l' := by
  have handed : p.handedOver schedule k (n + 1) = p.handedOver schedule k n := by
    rw [handedOver_succ hl hl', mail, List.drop_length, List.append_nil]
  refine ⟨?_, fun going => ?_, fun ended => ?_⟩
  · rw [accepted, handed]
    exact h.first
  · rw [accepted, handed, mail]
    exact h.complete (going.imp (fun on => same ▸ on) stopped)
  · rw [mail]
    exact h.empty (same ▸ ended)

/-- What a lane's move makes of the inputs. -/
theorem IsPassedOn.step (h : p.IsPassedOn schedule k n l)
    (going' : ∀ m < n, schedule m ≠ .cancel)
    (hl : (p.start.after schedule n).lanes[k]? = some l)
    (hl' : (p.start.after schedule (n + 1)).lanes[k]? = some l')
    (done : (p.start.after schedule n).LaneMove k l (schedule n) l'
      ((p.start.happens schedule n).filter (Happening.isOfBot l.botType))) :
    p.IsPassedOn schedule k (n + 1) l' := by
  have own := isStopped_after going' hl
  have accepted : p.acceptedFrom schedule l.botType (n + 1) = _ := acceptedFrom_succ l.botType n
  generalize schedule n = move, List.filter _ _ = es at done accepted
  have same : es = [] → p.acceptedFrom schedule l.botType (n + 1) =
      p.acceptedFrom schedule l.botType n := by
    rintro rfl
    rw [accepted, List.filterMap_nil, List.append_nil]
  cases done with
  | handsOver i loop running heard =>
    have handed : p.handedOver schedule k (n + 1) = p.handedOver schedule k n ++ [i] := by
      rw [handedOver_succ hl hl', List.drop_left]
    have complete := h.complete (.inl heard)
    refine ⟨?_, fun _ => ?_, fun ended => ?_⟩
    · rw [handed]
      exact (same rfl ▸ h.first).trans (List.prefix_append _ _)
    · rw [handed, complete, List.append_assoc]
      exact congrArg (· ++ _) (same rfl).symm
    · exact absurd (ended.symm.trans heard) (by simp)
  | accepts i rest intake mail listening after =>
    have handed : p.handedOver schedule k (n + 1) = p.handedOver schedule k n := by
      rw [handedOver_succ hl hl', mail]
      simp
    have new : p.acceptedFrom schedule l.botType (n + 1) =
        p.acceptedFrom schedule l.botType n ++ [i] := by
      rw [accepted]
      simp [Happening.acceptedFrom?]
    have complete : p.handedOver schedule k (n + 1) =
        p.acceptedFrom schedule l.botType (n + 1) ++ rest := by
      rw [handed, h.complete (.inl (by simp [Lane.intakeIsOver, listening])), new, mail,
        List.append_assoc]
      rfl
    refine ⟨complete ▸ List.prefix_append _ _, fun _ => complete, fun ended => ?_⟩
    rcases after with rfl | ⟨job, rfl⟩ <;> cases ended
  | offers intake busy after =>
    refine h.keep hl hl' (same rfl) rfl ?_ id
    have before : l.intakeIsOver = false := by
      rcases busy with busy | ⟨job, busy⟩ <;> simp [Lane.intakeIsOver, busy]
    rw [before]
    rcases after with rfl | rfl <;> rfl
  | intakeEnds why =>
    have handed : p.handedOver schedule k (n + 1) = p.handedOver schedule k n := by
      rw [handedOver_succ hl hl']
      simp [Lane.endIntake]
    refine ⟨?_, fun going => ?_, fun _ => rfl⟩
    · rw [handed]
      exact same rfl ▸ h.first
    · -- The intake ends by itself only when its mailbox is empty.
      have unstopped : l.isStopped = false := by
        rcases going with on | on
        · cases on
        · exact on
      have open_pool : (p.start.after schedule n).pool.closed = false := by
        rw [Runner.closed_after p.start going', p.start_spec.2.1]
        rfl
      have drained : l.mailbox = [] := by
        rcases why with closed | ends
        · exact absurd (closed.symm.trans open_pool) (by simp)
        · rw [Lane.intakeCanEnd, own, unstopped, Bool.false_or, Bool.and_eq_true,
            List.isEmpty_iff] at ends
          exact ends.2
      rw [handed, h.complete (.inr unstopped), drained]
      exact congrArg (· ++ _) (same rfl).symm
  | alerts e a rest alerting =>
    refine h.keep hl hl' (accepted.trans ?_) rfl rfl id
    simp [Happening.acceptedFrom?]
  | closes => exact h.keep hl hl' (same rfl) rfl rfl (by simp)
  | breaksDown => exact h.keep hl hl' (same rfl) rfl rfl (by simp)
  | _ => exact h.keep hl hl' (same rfl) rfl rfl id

theorem isPassedOn_after (checked : p.check = .ok notes) (going : ∀ m < n, schedule m ≠ .cancel)
    (hl : (p.start.after schedule n).lanes[k]? = some l) : p.IsPassedOn schedule k n l := by
  refine lane_induction checked (p.IsPassedOn schedule k) ?_ ?_ going hl
  · intro bot _
    have none : p.acceptedFrom schedule bot.botType 0 = [] :=
      List.filterMap_eq_nil_iff.mpr fun e he => by
        have silent := p.isOfLane_of_start e he
        cases e <;> simp_all [Happening.isOfLane, Happening.acceptedFrom?]
    refine ⟨?_, fun _ => ?_, fun _ => rfl⟩
    · exact none ▸ List.nil_prefix
    · exact (congrArg (· ++ []) none).symm
  · exact fun n l l' going hl hl' done h => h.step going hl hl' done

/-- An intake that waits has its job at the pool. -/
theorem isWaiting_after (checked : p.check = .ok notes) (going : ∀ m < n, schedule m ≠ .cancel)
    (hl : (p.start.after schedule n).lanes[k]? = some l) (waits : l.intake = .waiting) :
    (p.start.after schedule n).pool.isWaiting (Runner.intakeProducer k) = true := by
  refine lane_induction checked (fun n l => l.intake = .waiting →
    (p.start.after schedule n).pool.isWaiting (Runner.intakeProducer k) = true) ?_ ?_ going hl waits
  · intro bot _ waits
    cases waits
  · intro n l l' _ hl hl' done before waits
    by_cases own : schedule n = .act (.intake k)
    · have next : p.start.after schedule (n + 1) = (p.start.after schedule n).move (schedule n) :=
        rfl
      rw [own, Runner.move] at next
      split at next
      · rw [next] at hl' ⊢
        exact Runner.isWaiting_intakeStep hl before hl' waits
      · rw [next, hl] at hl'
        rw [next]
        exact before (Option.some_inj.mp hl' ▸ waits)
    · have same : l'.intake = l.intake := by
        generalize schedule n = move, List.filter _ _ = es at done own
        cases done with
        | accepts => exact absurd rfl own
        | offers => exact absurd rfl own
        | intakeEnds => exact absurd rfl own
        | _ => rfl
      obtain ⟨orderly, fit⟩ := p.isOrderly_after schedule n
      obtain ⟨e, he, producer⟩ := List.any_eq_true.mp (before (same ▸ waits))
      refine List.any_eq_true.mpr ⟨e, ?_, producer⟩
      refine Runner.mem_waiting_move orderly fit he fun stepped => own ?_
      rw [beq_iff_eq.mp producer] at stepped
      exact Runner.Move.eq_of_producer? stepped

/-- Inputs are accepted in the order in which they are handed over, each once. Until its lane is
told to stop, none is lost: those that are not accepted are in the mailbox, and there they stay only
while the pool has no room for the job of the input before. And as long as the run loop goes on and
raises no critical error, the lane is not told to stop. -/
theorem handed_over_inputs_are_accepted (checked : p.check = .ok notes)
    (going : ∀ m < n, schedule m ≠ .cancel)
    (hl : (p.start.after schedule n).lanes[k]? = some l) :
    p.acceptedFrom schedule l.botType n <+: p.handedOver schedule k n ∧
      (l.isStopped = false →
        p.handedOver schedule k n = p.acceptedFrom schedule l.botType n ++ l.mailbox ∧
        (l.supervisor ≠ .starting → (p.start.after schedule n).able (.intake k) = false →
          l.mailbox = [] ∨
            l.intake = .waiting ∧ (p.start.after schedule n).pool.hasRoom = false)) ∧
      (l.runEnd = none → p.firstCritical? schedule k n = none → l.isStopped = false) := by
  have passed := isPassedOn_after checked going hl
  refine ⟨passed.first, fun unstopped => ⟨passed.complete (.inr unstopped), ?_⟩, ?_⟩
  · intro started idle
    cases phase : l.intake with
    | «over» => exact .inl (passed.empty (by rw [Lane.intakeIsOver, phase]))
    | holding job =>
      change Runner.intakeIsAble _ k = false at idle
      simp [Runner.intakeIsAble, hl, phase, started] at idle
    | waiting =>
      have waits := isWaiting_after checked going hl phase
      refine .inr ⟨rfl, Pool.hasRoom_eq_false waits ?_⟩
      change Runner.intakeIsAble _ k = false at idle
      have unanswered : (p.start.after schedule n).pool.closed = false ∧
          (p.start.after schedule n).pool.admitted? (Runner.intakeProducer k) = none := by
        simpa [Runner.intakeIsAble, hl, phase, started, Runner.poolAnswers, waits] using idle
      exact unanswered.2
    | listening =>
      change Runner.intakeIsAble _ k = false at idle
      have unread : l.intakeCanEnd ((p.start.after schedule n).isStopped k) = false ∧
          l.mailbox = [] := by
        simpa [Runner.intakeIsAble, hl, phase, started] using idle
      exact .inl unread.2
  · intro running mild
    have ended := ((alarm_after checked going hl).of_mild mild).2
    by_contra told
    rw [running] at ended
    cases ended (by simpa using told)

end RunnerPlan

/-! ## Two bots that hand over inputs -/

namespace Handover

def line (words : String) : Input := ⟨"ann", words, ⟨"ann"⟩, .message, default⟩

/-- A runner with one worker and room for one job, for a bot with this run loop. -/
def plan (loop : RunLoop) (commands : List (CommandTemplate Unit)) : RunnerPlan Unit where
  language _ _ := .done {}
  origin := default
  settings :=
    { worker := { workers := 1, queueSize := 1, superviseSeconds := 0 }
      conversation := { sweepSeconds := 0 } }
  bots := [{ botType := ⟨"chat"⟩, loop }]
  registry := .ofTemplates commands []

def busyPlan : RunnerPlan Unit := plan { inputs := [line "one", line "two", line "three"] } []

/-- The run loop hands over three inputs, and no worker takes a job. -/
def busy : List Runner.Move :=
  [.act (.supervisor 0), .act (.runLoop 0), .act (.runLoop 0), .act (.runLoop 0), .act (.runLoop 0),
    .act (.runLoop 0), .act (.runLoop 0), .act (.intake 0), .act (.intake 0), .act (.intake 0),
    .act (.intake 0)]

def busySchedule (n : Nat) : Runner.Move := busy[n]?.getD (.pass 0)

/-- The job of the first input is queued, the intake waits with that of the second, and the third is
in the mailbox. -/
theorem full_pool_holds_up_third_input :
    (∀ m < 11, busySchedule m ≠ .cancel) ∧ ∃ l,
      (busyPlan.start.after busySchedule 11).lanes[0]? = some l ∧
      l.mailbox = [line "three"] ∧
      busyPlan.acceptedFrom busySchedule l.botType 11 = [line "one", line "two"] ∧
      busyPlan.handedOver busySchedule 0 11 =
        busyPlan.acceptedFrom busySchedule l.botType 11 ++ l.mailbox ∧
      (busyPlan.start.after busySchedule 11).pool.hasRoom = false := by
  have going : ∀ m < 11, busySchedule m ≠ .cancel := by
    have moves : ∀ m ∈ busy, m ≠ .cancel := by simp [busy]
    intro m hm
    rw [busySchedule, List.getElem?_eq_getElem hm]
    exact moves _ (List.getElem_mem _)
  have checked : busyPlan.check = .ok [] := rfl
  obtain ⟨l, hl, watching, running, mail, bot⟩ :
      ∃ l, (busyPlan.start.after busySchedule 11).lanes[0]? = some l ∧
        l.supervisor = .watching ∧ l.runEnd = none ∧ l.mailbox = [line "three"] ∧
        l.botType = ⟨"chat"⟩ :=
    ⟨_, rfl, rfl, rfl, rfl, rfl⟩
  obtain ⟨-, kept, unstopped⟩ := RunnerPlan.handed_over_inputs_are_accepted checked going hl
  obtain ⟨complete, idle⟩ := kept (unstopped running rfl)
  refine ⟨going, l, hl, mail, by rw [bot]; rfl, complete, ?_⟩
  rcases idle (by simp [watching]) rfl with empty | ⟨-, full⟩
  · rw [mail] at empty
    cases empty
  · exact full

/-- A command that takes a day. -/
def slow : CommandTemplate Unit where
  botType := ⟨"chat"⟩
  identifier := "slow"
  matcher := .word ".slow"
  executor := .fixed fun _ => .sleep 86400000 (.done {})

def slowPlan : RunnerPlan Unit := plan { inputs := List.replicate 5 (line ".slow") } [slow]

/-- The run loop hands over five inputs. The worker begins with the first, the job of the second is
queued, the intake waits with that of the third, and an hour passes. -/
def crowding : List Runner.Move :=
  [.act (.supervisor 0)] ++ List.replicate 10 (.act (.runLoop 0)) ++
    List.replicate 2 (.act (.intake 0)) ++ List.replicate 2 (.act (.worker 0)) ++
    List.replicate 4 (.act (.intake 0)) ++ [.pass 3600000]

def crowdingSchedule (n : Nat) : Runner.Move := crowding[n]?.getD (.pass 0)

def leavingPlan : RunnerPlan Unit := plan { inputs := [line "bye"], ending := .returns } []

/-- The run loop hands over an input and returns, and the supervisor sees its end before the intake
has read the input. -/
def leaving : List Runner.Move :=
  [.act (.supervisor 0), .act (.runLoop 0), .act (.runLoop 0), .act (.runLoop 0),
    .act (.supervisor 0), .act (.intake 0), .act (.errorLoop 0), .act (.supervisor 0)]

def leavingSchedule (n : Nat) : Runner.Move := leaving[n]?.getD (.pass 0)

/-- Nobody stops these runs, and no error is raised. In the first the run loop goes on, and an hour
after it has handed over five inputs three have been accepted, the others are in the mailbox, and
nobody can go on: the intake waits for room in the pool. In the second the run loop returns; when
the supervisor has left the lane, the input that was handed over has not been accepted and is
nowhere. -/
theorem inputs_are_held_up_or_lost :
    (let r := slowPlan.start.after crowdingSchedule 20
     (∀ m ∈ crowding, m ≠ .cancel) ∧ r.now = 3600000 ∧
      slowPlan.raised crowdingSchedule 0 20 = [] ∧
      (slowPlan.handedOver crowdingSchedule 0 20).length = 5 ∧
      (slowPlan.acceptedFrom crowdingSchedule ⟨"chat"⟩ 20).length = 3 ∧
      (r.lanes.map fun l => (l.runEnd.isNone, l.intake matches .waiting, l.mailbox.length)) =
        [(true, true, 2)] ∧
      Runner.processes.isQuiet r = true ∧ r.pool.hasRoom = false) ∧
    (let r := leavingPlan.start.after leavingSchedule 8
     (∀ m ∈ leaving, m ≠ .cancel) ∧
      leavingPlan.raised leavingSchedule 0 8 = [] ∧
      leavingPlan.handedOver leavingSchedule 0 8 = [line "bye"] ∧
      leavingPlan.acceptedFrom leavingSchedule ⟨"chat"⟩ 8 = [] ∧
      (r.lanes.map fun l => (l.runEnd, l.supervisor, l.intakeIsOver, l.mailbox)) =
        [(some .returned, .over, true, [])]) := by
  refine ⟨⟨by simp [crowding], ?_, rfl, ?_, ?_, ?_, ?_, ?_⟩, by simp [leaving], rfl, rfl, rfl, rfl⟩
  all_goals decide +kernel

end Handover

end Switchboard
