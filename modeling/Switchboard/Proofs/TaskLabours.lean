import Switchboard.Proofs.Dialogue

/-!
# What workers do with the jobs of tasks

A worker that begins the job of a task executes the task; when the execution has returned results,
it sends what is to be sent of them, one output after another. What it does next is said by
`Runner.TaskLabour`, one case for each stage (`carryOn_perform`).

What happens by a whole execution is said by `ScheduledTask.Story`, given how the execution ends.
What is left of a story is owed at each stage (`ScheduledTask.Owes`): a worker that goes on tells
some of it and owes the rest (`TaskLabour.owes`).
-/

namespace Switchboard

/-! ## Where results go -/

namespace ScheduledTask

/-- The outputs of the results of a task, in order. A result goes to its own destination, else to
that of the task; one that has neither is left out. -/
inductive Addresses (t : ScheduledTask) : List TaskResult → List Output → Prop
  | nil : Addresses t [] []
  | own {r : TaskResult} {d : Destination} {results : List TaskResult} {outputs : List Output}
    (own : r.destination = some d) (h : Addresses t results outputs) :
    Addresses t (r :: results) (⟨d, r.content⟩ :: outputs)
  | byDefault {r : TaskResult} {d : Destination} {results : List TaskResult}
    {outputs : List Output} (unnamed : r.destination = none) (default : t.destination = some d)
    (h : Addresses t results outputs) : Addresses t (r :: results) (⟨d, r.content⟩ :: outputs)
  | nowhere {r : TaskResult} {results : List TaskResult} {outputs : List Output}
    (unnamed : r.destination = none) (noDefault : t.destination = none)
    (h : Addresses t results outputs) : Addresses t (r :: results) outputs

theorem addresses_outputs (t : ScheduledTask) (results : List TaskResult) :
    t.Addresses results (t.outputs results) := by
  induction results with
  | nil => exact .nil
  | cons r rest ih =>
    cases own : r.destination with
    | some d => simpa [outputs, destinationOf, own] using ih.own own
    | none =>
      cases default : t.destination with
      | some d => simpa [outputs, destinationOf, own, default] using ih.byDefault own default
      | none => simpa [outputs, destinationOf, own, default] using ih.nowhere own default

/-- The results that are left out are those without an output. -/
theorem dropped_add_length_outputs (t : ScheduledTask) (results : List TaskResult) :
    t.dropped results + (t.outputs results).length = results.length := by
  induction results with
  | nil => rfl
  | cons r rest ih =>
    cases place : t.destinationOf r with
    | some d => simpa [dropped, outputs, place, ← Nat.add_assoc] using ih
    | none => simpa [dropped, outputs, place, Nat.add_right_comm _ 1] using ih

end ScheduledTask

/-! ## Stories -/

/-- What happens while outputs of a task are sent through a bot, one after another. A send that
fails is followed by the next; one that panics is the last, since its job is given up. -/
inductive Bot.Sends {κ : Type} (bot : Bot) : List Output → List (Happening κ) → Prop
  | nil : Sends bot [] []
  | next {o : Output} {rest : List Output} {es : List (Happening κ)} (l : Lane κ)
    (own : l.bot = bot) (kept : ∀ m, bot.send o ≠ .panicked m) (h : Sends bot rest es) :
    Sends bot (o :: rest) (.sent bot.botType none o (l.send o) :: es)
  | panics {o : Output} {m : String} (rest : List Output) (lost : bot.send o = .panicked m) :
    Sends bot (o :: rest) [.sent bot.botType none o (.panicked m), .panicked none m]

/-- What has been sent of outputs when there is nothing left to send of them: all, or those up to
the first whose send panics. -/
structure Bot.SentOf (bot : Bot) (outputs sent : List Output) : Prop where
  first : sent <+: outputs
  kept : ∀ o ∈ sent.dropLast, ∀ m, bot.send o ≠ .panicked m
  ends : sent = outputs ∨ ∃ o m, sent.getLast? = some o ∧ bot.send o = .panicked m

/-- What happens by the execution of a task after its begin, by how the execution ends. -/
inductive ScheduledTask.Story {κ : Type} (t : ScheduledTask) (bot : Bot) :
    Outcome (List TaskResult) → List (Happening κ) → Prop
  | done {results : List TaskResult} {outputs : List Output} {es : List (Happening κ)}
    (addressed : t.Addresses results outputs) (sent : bot.Sends outputs es) :
    Story t bot (.done results)
      (List.replicate (results.length - outputs.length) (.noted .destinationMissing) ++ es)
  | failed (c : Chain) : Story t bot (.failed c) [.taskFailed t.key c]
  | panicked (m : String) : Story t bot (.panicked m) [.panicked none m]

/-- What may be left of a story at a stage of a job that has begun, or when it is finished. -/
def ScheduledTask.Owes {κ : Type} (t : ScheduledTask) (bot : Bot) :
    Option (Stage κ) → List (Happening κ) → Prop
  | some (.working e), es => t.Story bot e.rest.outcome es
  | some (.sending outputs), es => bot.Sends outputs es
  | some _, _ => False
  | none, es => es = []

/-- A stage of the job of a task. -/
def Stage.ofTask {κ : Type} : Stage κ → Bool
  | .talking .. => false
  | _ => true

/-- The output of a task that is sent. -/
def Happening.taskOutput? {κ : Type} : Happening κ → Option Output
  | .sent _ none o _ => some o
  | _ => none

section Stories

variable {κ : Type} {t : ScheduledTask} {bot : Bot} {outputs : List Output}
  {results : List TaskResult} {es : List (Happening κ)}

theorem Bot.exists_sends (bot : Bot) (outputs : List Output) :
    ∃ es : List (Happening κ), bot.Sends outputs es := by
  induction outputs with
  | nil => exact ⟨[], .nil⟩
  | cons o rest ih =>
    obtain ⟨es, h⟩ := ih
    by_cases lost : ∃ m, bot.send o = .panicked m
    · obtain ⟨m, lost⟩ := lost
      exact ⟨_, .panics rest lost⟩
    · exact ⟨_, .next (.ofBot bot) rfl (not_exists.mp lost) h⟩

theorem ScheduledTask.exists_story (t : ScheduledTask) (bot : Bot)
    (outcome : Outcome (List TaskResult)) : ∃ es : List (Happening κ), t.Story bot outcome es := by
  cases outcome with
  | done results =>
    obtain ⟨es, sent⟩ := @Bot.exists_sends κ bot (t.outputs results)
    exact ⟨_, .done (t.addresses_outputs results) sent⟩
  | failed c => exact ⟨_, .failed c⟩
  | panicked m => exact ⟨_, .panicked m⟩

/-- From each stage on some end of the story can be told. -/
theorem ScheduledTask.exists_owes (t : ScheduledTask) (bot : Bot) {s : Stage κ}
    (fit : s.ofTask = true) (begun : s ≠ .ready) : ∃ later, t.Owes bot (some s) later := by
  cases s with
  | ready => exact absurd rfl begun
  | talking => cases fit
  | working e => exact t.exists_story bot e.rest.outcome
  | sending outputs => exact bot.exists_sends outputs

/-- Outputs are sent in order, up to the first whose send panics. -/
theorem Bot.Sends.sentOf (h : bot.Sends outputs es) :
    bot.SentOf outputs (es.filterMap Happening.taskOutput?) := by
  induction h with
  | nil => exact ⟨List.nil_prefix, by simp, .inl rfl⟩
  | @next o rest es l own kept _ ih =>
    have sent : (Happening.sent bot.botType none o (l.send o) :: es).filterMap
        Happening.taskOutput? = o :: es.filterMap Happening.taskOutput? := rfl
    rw [sent]
    generalize es.filterMap Happening.taskOutput? = sent at ih
    refine ⟨List.cons_prefix_cons.mpr ⟨rfl, ih.first⟩, ?_, ?_⟩
    · cases sent with
      | nil => simp
      | cons o' sent =>
        rw [List.dropLast_cons_cons]
        exact List.forall_mem_cons.mpr ⟨kept, ih.kept⟩
    · rcases ih.ends with all | ⟨o', m, last, lost⟩
      · exact .inl (by rw [all])
      · exact .inr ⟨o', m, by rw [List.getLast?_cons, last, Option.getD_some], lost⟩
  | @panics o m rest lost =>
    have sent : [Happening.sent bot.botType none o (.panicked m), .panicked none m].filterMap
        (Happening.taskOutput? (κ := κ)) = [o] := rfl
    rw [sent]
    exact ⟨List.cons_prefix_cons.mpr ⟨rfl, List.nil_prefix⟩, by simp, .inr ⟨o, m, rfl, lost⟩⟩

/-- What is sent in the story of an execution that has returned results are their outputs. -/
theorem ScheduledTask.Story.sentOf (h : t.Story bot (.done results) es) :
    ∃ outputs, t.Addresses results outputs ∧
      bot.SentOf outputs (es.filterMap Happening.taskOutput?) := by
  cases h with
  | @done _ outputs es addressed sent =>
    have missing : ∀ n, (List.replicate n (Happening.noted (κ := κ) .destinationMissing)).filterMap
        Happening.taskOutput? = [] := by simp [Happening.taskOutput?]
    refine ⟨outputs, addressed, ?_⟩
    rw [List.filterMap_append, missing, List.nil_append]
    exact sent.sentOf

/-- In the story of an execution that fails or panics nothing is sent. -/
theorem ScheduledTask.Story.sent_eq_nil {outcome : Outcome (List TaskResult)}
    (h : t.Story bot outcome es) (none : ∀ results, outcome ≠ .done results) :
    es.filterMap Happening.taskOutput? = [] := by
  cases h with
  | done => exact absurd rfl (none _)
  | failed => rfl
  | panicked => rfl

end Stories

/-! ## Executions that are not cancelled -/

namespace Execution

variable {α : Type} {e : Execution α} {o : Outcome α}

theorem outcome_goOn (e : Execution α) (now : Nat) :
    (e.goOn now false).rest.outcome = e.rest.outcome := by
  unfold goOn
  split
  · next rest => rw [rest, rest_start, Activity.outcome]
  · next ms limit finished givenUp rest =>
    rw [rest, rest_start, Activity.outcome]
    by_cases inTime : ms ≤ limit
    · simp [inTime, Nat.not_lt.mpr inTime]
    · simp [inTime, Nat.lt_of_not_le inTime]
  · rfl

theorem outcome_of_outcome? (h : e.outcome? = some o) : e.rest.outcome = o := by
  unfold outcome? at h
  split at h
  · next rest =>
    cases h
    rw [rest, Activity.outcome]
  · next rest =>
    cases h
    rw [rest, Activity.outcome]
  · next rest =>
    cases h
    rw [rest, Activity.outcome]
  · cases h

end Execution

/-! ## Steps -/

namespace Runner

variable {κ : Type} {r : Runner κ} {n k : Nat} {t : ScheduledTask} {s : Stage κ}
  {next : Option (Stage κ)} {es : List (Happening κ)}

/-- What a task is executed with. -/
def taskCallOf (r : Runner κ) (t : ScheduledTask) : TaskCall where
  botType := t.botType
  count := (r.workshop.registry.countExecution t.key).executionsOf t.key
  clock := r.clock

/-- What a worker does next with the job of a task: to which stage the job comes, if it is not
finished, and what happens. -/
inductive TaskLabour (r : Runner κ) (k : Nat) (t : ScheduledTask) :
    Stage κ → Option (Stage κ) → List (Happening κ) → Prop
  | begins :
    TaskLabour r k t .ready (some (.working (.start r.now (t.run (r.taskCallOf t)))))
      [.performed t.key]
  | waits (e : Execution (List TaskResult)) (going : e.outcome? = none) :
    TaskLabour r k t (.working e) (some (.working (e.goOn r.now r.isCancelled))) []
  | returns (e : Execution (List TaskResult)) (results : List TaskResult)
    (ended : e.outcome? = some (.done results)) :
    TaskLabour r k t (.working e) (some (.sending (t.outputs results)))
      (List.replicate (t.dropped results) (.noted .destinationMissing))
  | fails (e : Execution (List TaskResult)) (c : Chain) (ended : e.outcome? = some (.failed c)) :
    TaskLabour r k t (.working e) none [.taskFailed t.key c]
  | panics (e : Execution (List TaskResult)) (m : String)
    (ended : e.outcome? = some (.panicked m)) :
    TaskLabour r k t (.working e) none [.panicked none m]
  | sends (o : Output) (rest : List Output) (l : Lane κ) (lane : r.lanes[k]? = some l)
    (kept : ∀ m, l.bot.send o ≠ .panicked m) :
    TaskLabour r k t (.sending (o :: rest)) (some (.sending rest))
      [.sent l.botType none o (l.send o)]
  | sendPanics (o : Output) (rest : List Output) (l : Lane κ) (lane : r.lanes[k]? = some l)
    (m : String) (lost : l.bot.send o = .panicked m) :
    TaskLabour r k t (.sending (o :: rest)) none
      [.sent l.botType none o (.panicked m), .panicked none m]
  | finishes : TaskLabour r k t (.sending []) none []

/-- What a worker does with the job of a task. -/
theorem carryOn_perform (fit : s.ofTask = true) {l : Lane κ} (lane : r.lanes[k]? = some l) :
    ∃ next es, TaskLabour r k t s next es ∧
      (r.carryOn n ⟨.perform k t, s⟩).trace = r.trace ++ es ∧
      (r.carryOn n ⟨.perform k t, s⟩).pool =
        putDown r.pool n (next.map fun s => ⟨.perform k t, s⟩) ∧
      (r.carryOn n ⟨.perform k t, s⟩).lanes = r.lanes := by
  cases s with
  | ready => exact ⟨_, _, .begins, rfl, rfl, rfl⟩
  | talking label since e => cases fit
  | working e =>
    simp only [carryOn]
    cases he : e.outcome? with
    | none => exact ⟨_, _, .waits e he, (List.append_nil _).symm, rfl, rfl⟩
    | some outcome =>
      cases outcome with
      | panicked m => exact ⟨_, _, .panics e m he, rfl, rfl, rfl⟩
      | failed c => exact ⟨_, _, .fails e c he, rfl, rfl, rfl⟩
      | done results =>
        simp only [concludeTask, foldl_note, List.map_replicate]
        exact ⟨_, _, .returns e results he, rfl, rfl, rfl⟩
  | sending outputs =>
    cases outputs with
    | nil => exact ⟨_, _, .finishes, (List.append_nil _).symm, rfl, rfl⟩
    | cons o rest =>
      simp only [carryOn, sendNext, Job.lane, lane]
      cases ho : l.send o with
      | panicked m =>
        dsimp only
        rw [giveUp_emit]
        exact ⟨_, _, .sendPanics o rest l lane m (Lane.send_eq_panicked.mp ho), rfl, rfl, rfl⟩
      | done u =>
        have labour : TaskLabour r k t _ _ _ := .sends o rest l lane fun m hm => by
          rw [Lane.send_eq_panicked.mpr hm] at ho
          cases ho
        rw [ho] at labour
        exact ⟨_, _, labour, rfl, rfl, rfl⟩
      | failed c =>
        have labour : TaskLabour r k t _ _ _ := .sends o rest l lane fun m hm => by
          rw [Lane.send_eq_panicked.mpr hm] at ho
          cases ho
        rw [ho] at labour
        exact ⟨_, _, labour, rfl, rfl, rfl⟩

namespace TaskLabour

theorem ofTask {s' : Stage κ} (h : TaskLabour r k t s (some s') es) : s'.ofTask = true := by
  cases h <;> rfl

/-- A job that has begun does not begin again. -/
theorem ne_ready {s' : Stage κ} (h : TaskLabour r k t s (some s') es) : s' ≠ .ready := by
  cases h <;> simp

/-- By the first step of a job its task is executed, as the runner has it then. -/
theorem of_ready (h : TaskLabour r k t .ready next es) :
    next = some (.working (.start r.now (t.run (r.taskCallOf t)))) ∧ es = [.performed t.key] := by
  cases h
  exact ⟨rfl, rfl⟩

/-- A worker that goes on with a job that has begun tells some of the story and owes the rest. -/
theorem owes (h : TaskLabour r k t s next es) (begun : s ≠ .ready) {l : Lane κ}
    (lane : r.lanes[k]? = some l) (going : r.isCancelled = false) {later : List (Happening κ)}
    (owed : t.Owes l.bot next later) : t.Owes l.bot (some s) (es ++ later) := by
  cases h with
  | begins => exact absurd rfl begun
  | waits e =>
    rw [ScheduledTask.Owes, going, Execution.outcome_goOn] at owed
    exact owed
  | returns e results ended =>
    have missing : t.dropped results = results.length - (t.outputs results).length := by
      have all := t.dropped_add_length_outputs results
      omega
    rw [ScheduledTask.Owes, Execution.outcome_of_outcome? ended, missing]
    exact .done (t.addresses_outputs results) owed
  | fails e c ended =>
    rw [show later = [] from owed, ScheduledTask.Owes, Execution.outcome_of_outcome? ended]
    exact .failed c
  | panics e m ended =>
    rw [show later = [] from owed, ScheduledTask.Owes, Execution.outcome_of_outcome? ended]
    exact .panicked m
  | sends o rest l' lane' kept =>
    rw [lane] at lane'
    cases lane'
    exact .next l rfl kept owed
  | sendPanics o rest l' lane' m lost =>
    rw [lane] at lane'
    cases lane'
    rw [show later = [] from owed]
    exact .panics rest lost
  | finishes =>
    rw [show later = [] from owed]
    exact .nil

end TaskLabour

end Runner

end Switchboard
