import Switchboard.Proofs.Moves

/-!
# What workers do with jobs

What a worker does next with the job of an input is said by `Runner.Labour`, one case for each stage
(`carryOn_spec`). What it does with the job of a task has nothing to do with inputs
(`carryOn_task`).
-/

namespace Switchboard

namespace Runner

variable {κ : Type}

/-! ## A worker and its job -/

/-- What a command or a step is executed with for an input of a lane. -/
def callOf (r : Runner κ) (k : Nat) (i : Input) : Call :=
  { botType := r.botTypeOf k, input := i, clock := r.clock }

/-- What happens when a job panics. -/
def panicOf (sender : Option String) : Outcome Unit → List (Happening κ)
  | .panicked m => [.panicked sender m]
  | _ => []

/-- What a worker does next with the job of an input: what becomes of the job, if it is not
finished, what becomes of the conversations, and what happens. -/
inductive Labour (r : Runner κ) :
    Work κ → Option (Work κ) → Conversations κ → List (Happening κ) → Prop
  | deliver (k : Nat) (sender : String) (o : Output) :
    Labour r ⟨.deliver k sender o, .ready⟩ (some ⟨.deliver k sender o, .sending [o]⟩)
      r.conversations []
  | resume (k : Nat) (i : Input) (step : Step κ) :
    Labour r ⟨.converse k i (some step), .ready⟩
      (some ⟨.converse k i (some step),
        .talking stepLabel r.now (.start r.now (r.language step.code (r.callOf k i)))⟩)
      r.conversations [.resumed (r.botTypeOf k) i step]
  | execute (k : Nat) (i : Input) (c : Command κ)
    (matched : (r.workshop.registry.commandsOf (r.botTypeOf k)).search i = .ok (some c)) :
    Labour r ⟨.converse k i none, .ready⟩
      (some ⟨.converse k i none,
        .talking c.identifier r.now (.start r.now (c.run (r.callOf k i)))⟩)
      r.conversations [.executed (r.botTypeOf k) c.identifier i]
  | respond (k : Nat) (i : Input) (l : Lane κ) (lane : r.lanes[k]? = some l)
    (unmatched : (r.workshop.registry.commandsOf (r.botTypeOf k)).search i = .ok none) :
    Labour r ⟨.converse k i none, .ready⟩ none r.conversations
      (.responded l.botType i (l.bot.respond i) :: panicOf (some i.sender) (l.bot.respond i))
  | searchPanics (k : Nat) (i : Input) (m : String)
    (broken : (r.workshop.registry.commandsOf (r.botTypeOf k)).search i = .error m) :
    Labour r ⟨.converse k i none, .ready⟩ none r.conversations [.panicked (some i.sender) m]
  | wait (k : Nat) (i : Input) (pending : Option (Step κ)) (label : String) (since : Nat)
    (e : Execution (Turn κ)) (going : e.outcome? = none) :
    Labour r ⟨.converse k i pending, .talking label since e⟩
      (some ⟨.converse k i pending, .talking label since (e.goOn r.now (r.isStopped k))⟩)
      r.conversations []
  | conclude (k : Nat) (i : Input) (pending : Option (Step κ)) (label : String) (since : Nat)
    (e : Execution (Turn κ)) (t : Turn κ) (ended : e.outcome? = some (.done t))
    (last : t.next = none) :
    Labour r ⟨.converse k i pending, .talking label since e⟩
      (some ⟨.converse k i pending, .sending (turnOutputs i t)⟩) r.conversations []
  | store (k : Nat) (i : Input) (pending : Option (Step κ)) (label : String) (since : Nat)
    (e : Execution (Turn κ)) (t : Turn κ) (step : Step κ) (ended : e.outcome? = some (.done t))
    (next : t.next = some step) :
    Labour r ⟨.converse k i pending, .talking label since e⟩
      (some ⟨.converse k i pending, .sending (turnOutputs i t)⟩)
      (r.conversations.insert r.now i.sender step) [.stored i.sender step]
  | fail (k : Nat) (i : Input) (pending : Option (Step κ)) (label : String) (since : Nat)
    (e : Execution (Turn κ)) (c : Chain) (ended : e.outcome? = some (.failed c)) :
    Labour r ⟨.converse k i pending, .talking label since e⟩ none r.conversations
      [.failed (r.botTypeOf k) label i c]
  | panic (k : Nat) (i : Input) (pending : Option (Step κ)) (label : String) (since : Nat)
    (e : Execution (Turn κ)) (m : String) (ended : e.outcome? = some (.panicked m)) :
    Labour r ⟨.converse k i pending, .talking label since e⟩ none r.conversations
      [.panicked (some i.sender) m]
  | send (job : Job κ) (o : Output) (rest : List Output) (l : Lane κ)
    (lane : r.lanes[job.lane]? = some l) (kept : ∀ m, l.bot.send o ≠ .panicked m) :
    Labour r ⟨job, .sending (o :: rest)⟩ (some ⟨job, .sending rest⟩) r.conversations
      [.sent l.botType job.sender? o (l.send o)]
  | sendPanics (job : Job κ) (o : Output) (rest : List Output) (l : Lane κ)
    (lane : r.lanes[job.lane]? = some l) (m : String) (lost : l.bot.send o = .panicked m) :
    Labour r ⟨job, .sending (o :: rest)⟩ none r.conversations
      [.sent l.botType job.sender? o (l.send o), .panicked job.sender? m]
  | finish (job : Job κ) :
    Labour r ⟨job, .sending []⟩ none r.conversations []

theorem Labour.job_eq {r : Runner κ} {w v : Work κ} {conversations : Conversations κ}
    {es : List (Happening κ)} (h : Labour r w (some v) conversations es) : v.job = w.job := by
  cases h <;> rfl

theorem Labour.not_accepted {r : Runner κ} {w : Work κ} {next : Option (Work κ)}
    {conversations : Conversations κ} {es : List (Happening κ)}
    (h : Labour r w next conversations es) (bot : BotType) (i : Input) : .accepted bot i ∉ es := by
  cases h with
  | respond k j l => cases outcome : l.bot.respond j <;> simp [panicOf]
  | _ => simp

/-- A worker puts down its job, or goes on with it as it is now. -/
def putDown (p : Pool (Work κ)) (n : Nat) : Option (Work κ) → Pool (Work κ)
  | none => p.finish n
  | some w => p.setJob n w

end Runner

/-- A job of an input is at a stage of such a job. -/
def Work.IsFit {κ : Type} (w : Work κ) : Prop :=
  match w.job, w.stage with
  | .deliver .., .talking .. => False
  | .deliver .., .working _ => False
  | .converse .., .working _ => False
  | _, _ => True

theorem Lane.send_eq_panicked {κ : Type} {l : Lane κ} {o : Output} {m : String} :
    l.send o = .panicked m ↔ l.bot.send o = .panicked m := by
  unfold Lane.send
  cases h : l.bot.send o with
  | done u =>
    dsimp only
    split <;> simp
  | failed c => simp
  | panicked m' => simp

namespace Runner

variable {κ : Type} {r : Runner κ} {n : Nat} {w : Work κ}

theorem giveUp_emit (r : Runner κ) (h : Happening κ) (n : Nat) (job : Job κ) (m : String) :
    (r.emit h).giveUp n job m = { r with
      metrics := r.metrics.increment Pool.panicCounter 1, pool := r.pool.finish n
      trace := r.trace ++ [h, .panicked job.sender? m] } := by
  simp [giveUp, emit, finish]

theorem respond_spec {l : Lane κ} {job : Job κ} (lane : r.lanes[job.lane]? = some l) (i : Input) :
    ∃ metrics, r.respond n job i = { r with
      metrics, pool := r.pool.finish n
      trace := r.trace ++
        .responded l.botType i (l.bot.respond i) :: panicOf job.sender? (l.bot.respond i) } := by
  simp only [respond, lane]
  cases l.bot.respond i with
  | done u => exact ⟨_, rfl⟩
  | failed c => exact ⟨_, rfl⟩
  | panicked m => exact ⟨_, giveUp_emit ..⟩

theorem begin_spec (own : w.ofLane = true) (ready : w.stage = .ready) {l : Lane κ}
    (lane : r.lanes[w.job.lane]? = some l) :
    ∃ next conversations es metrics, Labour r w next conversations es ∧
      r.begin n w = { r with
        metrics, pool := putDown r.pool n next, conversations, trace := r.trace ++ es } := by
  obtain ⟨job, stage⟩ := w
  subst ready
  cases job with
  | deliver k sender o =>
    exact ⟨_, _, _, r.metrics, .deliver k sender o, by simp [begin, setStage, putDown]⟩
  | perform k t => cases own
  | converse k i pending =>
    cases pending with
    | some step => exact ⟨_, _, _, r.metrics, .resume k i step, rfl⟩
    | none =>
      cases hc : (r.workshop.registry.commandsOf (r.botTypeOf k)).search i with
      | error m =>
        refine ⟨_, _, _, r.metrics.increment Pool.panicCounter 1, .searchPanics k i m hc, ?_⟩
        simp only [begin, Job.lane, hc]
        rfl
      | ok found =>
        cases found with
        | some c =>
          refine ⟨_, _, _, r.metrics, .execute k i c hc, ?_⟩
          simp [begin, hc, setStage, putDown, emit, callOf, Job.lane, now]
        | none =>
          obtain ⟨metrics, responded⟩ := respond_spec (n := n) lane i
          refine ⟨_, _, _, metrics, .respond k i l lane hc, ?_⟩
          simpa [begin, hc, putDown, Job.lane, Job.sender?] using responded

/-- What a worker does with the job of an input. -/
theorem carryOn_spec (own : w.ofLane = true) (fit : w.IsFit) {l : Lane κ}
    (lane : r.lanes[w.job.lane]? = some l) :
    ∃ next conversations es metrics, Labour r w next conversations es ∧
      r.carryOn n w = { r with
        metrics, pool := putDown r.pool n next, conversations, trace := r.trace ++ es } := by
  obtain ⟨job, stage⟩ := w
  cases stage with
  | ready => exact begin_spec own rfl lane
  | working e =>
    cases job with
    | deliver k sender o => cases fit
    | converse k i pending => cases fit
    | perform k t => cases own
  | talking label since e =>
    cases job with
    | deliver k sender o => cases fit
    | perform k t => cases own
    | converse k i pending =>
      simp only [carryOn]
      cases he : e.outcome? with
      | none =>
        refine ⟨_, _, _, r.metrics, .wait k i pending label since e he, ?_⟩
        simp [setStage, putDown, jobIsCancelled, Job.isOfLane, Job.lane]
      | some outcome =>
        cases outcome with
        | panicked m => exact ⟨_, _, _, _, .panic k i pending label since e m he, rfl⟩
        | failed c => exact ⟨_, _, _, _, .fail k i pending label since e c he, rfl⟩
        | done t =>
          cases ht : t.next with
          | none =>
            refine ⟨_, _, _, (r.countExecution (r.botTypeOf k) label since).metrics,
              .conclude k i pending label since e t he ht, ?_⟩
            simp [concludeTalk, ht, keep, setStage, putDown, countExecution, Job.lane]
          | some step =>
            refine ⟨_, _, _, (r.countExecution (r.botTypeOf k) label since).metrics,
              .store k i pending label since e t step he ht, ?_⟩
            simp [concludeTalk, ht, keep, setStage, putDown, countExecution, Job.lane, emit, now]
  | sending outputs =>
    cases outputs with
    | nil =>
      refine ⟨_, _, _, r.metrics, .finish job, ?_⟩
      cases job <;> simp [carryOn, finish, putDown]
    | cons o rest =>
      have sending : r.carryOn n ⟨job, .sending (o :: rest)⟩ =
          r.sendNext n ⟨job, .sending (o :: rest)⟩ o rest := by cases job <;> rfl
      rw [sending]
      simp only [sendNext, lane]
      cases ho : l.send o with
      | panicked m =>
        have labour := Labour.sendPanics job o rest l lane m (Lane.send_eq_panicked.mp ho)
        rw [ho] at labour
        exact ⟨_, _, _, r.metrics.increment Pool.panicCounter 1, labour, giveUp_emit ..⟩
      | done u =>
        have labour := Labour.send job o rest l lane fun m hm => by
          rw [Lane.send_eq_panicked.mpr hm] at ho
          cases ho
        rw [ho] at labour
        exact ⟨_, _, _, r.metrics, labour, rfl⟩
      | failed c =>
        have labour := Labour.send job o rest l lane fun m hm => by
          rw [Lane.send_eq_panicked.mpr hm] at ho
          cases ho
        rw [ho] at labour
        exact ⟨_, _, _, r.metrics, labour, rfl⟩

theorem foldl_note (r : Runner κ) (notes : List Note) :
    notes.foldl note r = { r with trace := r.trace ++ notes.map .noted } := by
  induction notes generalizing r with
  | nil => simp
  | cons x rest ih => simp [ih, note, emit]

/-- What a worker does with the job of a task has nothing to do with inputs. -/
theorem carryOn_task (task : w.ofLane = false) :
    ∃ next es, (∀ v, next = some v → v.ofLane = false) ∧
      (∀ e ∈ es, Happening.isTalk e = false) ∧
      (r.carryOn n w).trace = r.trace ++ es ∧ (r.carryOn n w).pool = putDown r.pool n next ∧
      (r.carryOn n w).conversations = r.conversations ∧ (r.carryOn n w).lanes = r.lanes := by
  obtain ⟨job, stage⟩ := w
  cases job with
  | deliver k sender o => cases task
  | converse k i pending => cases task
  | perform k t =>
    cases stage with
    | ready =>
      refine ⟨some ⟨.perform k t, .working _⟩, [.performed t.key], ?_, ?_, rfl, rfl, rfl, rfl⟩
      · rintro v ⟨⟩
        rfl
      · simp [Happening.isTalk]
    | talking label since e =>
      simp only [carryOn]
      exact ⟨none, [], by simp, by simp, (List.append_nil _).symm, rfl, rfl, rfl⟩
    | working e =>
      simp only [carryOn]
      cases he : e.outcome? with
      | none =>
        refine ⟨some ⟨.perform k t, .working _⟩, [], ?_, by simp, by simp [setStage], rfl, rfl, rfl⟩
        rintro v ⟨⟩
        rfl
      | some outcome =>
        cases outcome with
        | panicked m =>
          refine ⟨none, [.panicked none m], by simp, ?_, rfl, rfl, rfl, rfl⟩
          simp [Happening.isTalk]
        | failed c =>
          refine ⟨none, [.taskFailed t.key c], by simp, ?_, rfl, rfl, rfl, rfl⟩
          simp [Happening.isTalk]
        | done results =>
          simp only [concludeTask, foldl_note]
          refine ⟨some ⟨.perform k t, .sending (t.outputs results)⟩, _, ?_, ?_, rfl, rfl, rfl, rfl⟩
          · rintro v ⟨⟩
            rfl
          · intro e he
            obtain ⟨x, -, rfl⟩ := List.mem_map.mp he
            rfl
    | sending outputs =>
      cases outputs with
      | nil =>
        simp only [carryOn]
        exact ⟨none, [], by simp, by simp, (List.append_nil _).symm, rfl, rfl, rfl⟩
      | cons o rest =>
        simp only [carryOn, sendNext]
        cases hl : r.lanes[(Job.perform k t : Job κ).lane]? with
        | none => exact ⟨none, [], by simp, by simp, (List.append_nil _).symm, rfl, rfl, rfl⟩
        | some l =>
          dsimp only
          cases ho : l.send o with
          | panicked m =>
            dsimp only
            rw [giveUp_emit]
            refine ⟨none, _, by simp, ?_, rfl, rfl, rfl, rfl⟩
            simp [Happening.isTalk, Job.sender?]
          | done u =>
            refine ⟨some ⟨.perform k t, .sending rest⟩, [.sent l.botType none o (.done u)], ?_, ?_,
              rfl, rfl, rfl, rfl⟩
            · rintro v ⟨⟩
              rfl
            · simp [Happening.isTalk]
          | failed c =>
            refine ⟨some ⟨.perform k t, .sending rest⟩, [.sent l.botType none o (.failed c)],
              ?_, ?_, rfl, rfl, rfl, rfl⟩
            · rintro v ⟨⟩
              rfl
            · simp [Happening.isTalk]

end Runner

end Switchboard
