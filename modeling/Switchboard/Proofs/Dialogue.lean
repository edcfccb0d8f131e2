import Switchboard.Proofs.StoredSteps

/-!
# Dialogues

A dialogue answers the messages of one sender one after another, and remembers nothing but the step
that the last message has left (`Dialogue.exchange`). This is what a sender is to be told by a
runner in which many lanes and workers serve many senders at once.

`Dialogue.Owes` says what is still to come of a job of the runner, given where it has got, and
`Owes.labour` that a worker who goes on with it gives some of that and owes the rest.
-/

namespace Switchboard

/-! ## Steady executors -/

/-- How an activity may end, whichever of its guarded waits are given up. -/
inductive Activity.Ends {α : Type} : Activity α → Outcome α → Prop
  | done (a : α) : Ends (.done a) (.done a)
  | fail (c : Chain) : Ends (.fail c) (.failed c)
  | panic (m : String) : Ends (.panic m) (.panicked m)
  | sleep {ms : Nat} {after : Activity α} {o : Outcome α} (h : Ends after o) :
    Ends (.sleep ms after) o
  | finished {ms limit : Nat} {finished givenUp : Activity α} {o : Outcome α}
    (h : Ends finished o) : Ends (.guarded ms limit finished givenUp) o
  | givenUp {ms limit : Nat} {finished givenUp : Activity α} {o : Outcome α}
    (h : Ends givenUp o) : Ends (.guarded ms limit finished givenUp) o

/-- An executor whose result depends on the bot type and the input alone: not on the time of day,
and not on waits that are given up. -/
def IsSteady {κ : Type} (f : Executor κ) : Prop :=
  ∀ bot i clock clock' o, (f ⟨bot, i, clock⟩).Ends o → o = (f ⟨bot, i, clock'⟩).outcome

theorem isSteady_done {κ : Type} (turn : BotType → Input → Turn κ) :
    IsSteady fun c => .done (turn c.botType c.input) := by
  intro bot i clock clock' o h
  cases h
  rfl

namespace Execution

variable {α : Type}

@[simp] theorem rest_start (now : Nat) (a : Activity α) : (start now a).rest = a := by
  cases a <;> rfl

/-- An execution that goes on ends as it may have ended before. -/
theorem ends_of_goOn {e : Execution α} {now : Nat} {cancelled : Bool} {o : Outcome α}
    (h : (e.goOn now cancelled).rest.Ends o) : e.rest.Ends o := by
  unfold goOn at h
  split at h
  · next ms after rest =>
    rw [rest_start] at h
    exact rest ▸ .sleep h
  · next ms limit finished givenUp rest =>
    rw [rest_start] at h
    rw [rest]
    split at h
    · exact .givenUp h
    · exact .finished h
  · exact h

theorem ends_of_outcome? {e : Execution α} {o : Outcome α} (h : e.outcome? = some o) :
    e.rest.Ends o := by
  unfold outcome? at h
  split at h
  · next a rest =>
    cases h
    exact rest ▸ .done a
  · next c rest =>
    cases h
    exact rest ▸ .fail c
  · next m rest =>
    cases h
    exact rest ▸ .panic m
  · cases h

end Execution

/-! ## Answers -/

/-- What a sender gets. -/
inductive Answer where
  /-- A content is sent. -/
  | reply (bot : BotType) (output : Output)
  /-- The bot responds. -/
  | respond (bot : BotType) (input : Input)
  | failure (bot : BotType) (label : String) (input : Input) (cause : Chain)
  | panic (message : String)

namespace Happening

variable {κ : Type}

/-- What a sender gets by a happening. -/
def answer? (x : String) : Happening κ → Option Answer
  | sent bot sender o _ => if sender = some x then some (.reply bot o) else none
  | responded bot i _ => if i.sender = x then some (.respond bot i) else none
  | failed bot label i c => if i.sender = x then some (.failure bot label i c) else none
  | panicked sender m => if sender = some x then some (.panic m) else none
  | _ => none

/-- The input of a sender that is accepted. -/
def input? (x : String) : Happening κ → Option Input
  | accepted _ i => if i.sender = x then some i else none
  | _ => none

theorem answer?_of_not_isTalk {e : Happening κ} (silent : e.isTalk = false) (x : String) :
    e.answer? x = none ∧ e.input? x = none := by
  cases e with
  | sent bot sender o outcome =>
    cases sender with
    | none => exact ⟨rfl, rfl⟩
    | some y => cases silent
  | panicked sender m =>
    cases sender with
    | none => exact ⟨rfl, rfl⟩
    | some y => cases silent
  | _ => first | exact ⟨rfl, rfl⟩ | cases silent

end Happening

/-- A bot, its commands, and the language of its steps: all that the answers of a dialogue come
from. -/
structure Dialogue (κ : Type) where
  bot : Bot
  commands : LiveSet κ
  language : Language κ
  /-- A time of day, for executors that do not care about it. -/
  clock : Timestamp

namespace Dialogue

variable {κ : Type} (d : Dialogue κ)

/-- What is executed for a message, under which name, and how it ends; nothing if no command accepts
the message. A matcher that panics ends the job as an execution that panics does, under no name. -/
def execute? (pending : Option (Step κ)) (i : Input) : Option (String × Outcome (Turn κ)) :=
  let call : Call := { botType := d.bot.botType, input := i, clock := d.clock }
  match pending with
  | some step => some (Runner.stepLabel, (d.language step.code call).outcome)
  | none =>
    match d.commands.search i with
    | .ok found => found.map fun c => (c.identifier, (c.run call).outcome)
    | .error m => some ("", .panicked m)

/-- What is left by an execution for the next message. -/
def next? : Option (String × Outcome (Turn κ)) → Option (Step κ)
  | some (_, .done t) => t.next
  | _ => none

/-- A panic of the bot. -/
def panics : Outcome Unit → List Answer
  | .panicked m => [.panic m]
  | _ => []

def reply (o : Output) : List Answer := .reply d.bot.botType o :: panics (d.bot.send o)

/-- The answers to a message, given what is executed for it. -/
def answers (i : Input) : Option (String × Outcome (Turn κ)) → List Answer
  | none => .respond d.bot.botType i :: panics (d.bot.respond i)
  | some (_, .done t) => (Runner.turnOutputs i t).flatMap d.reply
  | some (label, .failed c) => [.failure d.bot.botType label i c]
  | some (_, .panicked m) => [.panic m]

/-- The answers so far and the pending step, after one more message. -/
def exchange (s : List Answer × Option (Step κ)) (i : Input) : List Answer × Option (Step κ) :=
  (s.1 ++ d.answers i (d.execute? s.2 i), next? (d.execute? s.2 i))

/-- The answers to messages, and the step that is pending after them. -/
def hold (messages : List Input) : List Answer × Option (Step κ) :=
  messages.foldl d.exchange ([], none)

theorem hold_concat (messages : List Input) (i : Input) :
    d.hold (messages ++ [i]) = d.exchange (d.hold messages) i := by
  rw [hold, List.foldl_append]
  rfl

/-- Later messages take no answers back. -/
theorem hold_dropLast_prefix (messages : List Input) :
    (d.hold messages.dropLast).1 <+: (d.hold messages).1 := by
  induction messages using List.reverseRecOn with
  | nil => exact List.prefix_rfl
  | append_singleton messages i _ =>
    rw [List.dropLast_concat, hold_concat]
    exact List.prefix_append _ _

/-! ## Jobs -/

/-- What is still to come of the job of a message at a stage: which step it has stored already, and
which answers it still owes. -/
inductive Owes (pending : Option (Step κ)) (i : Input) :
    Stage κ → Option (Step κ) → List Answer → Prop
  | ready : Owes pending i .ready none (d.answers i (d.execute? pending i))
  | talking (label : String) (since : Nat) (e : Execution (Turn κ)) (o : Outcome (Turn κ))
    (runs : d.execute? pending i = some (label, o)) (ends : ∀ o', e.rest.Ends o' → o' = o) :
    Owes pending i (.talking label since e) none (d.answers i (some (label, o)))
  | sending (os : List Output) (few : os.length ≤ 1) :
    Owes pending i (.sending os) (next? (d.execute? pending i)) (os.flatMap d.reply)

variable {d}

theorem length_turnOutputs_le (i : Input) (t : Turn κ) :
    (Runner.turnOutputs i t).length ≤ 1 := by
  unfold Runner.turnOutputs
  cases t.content <;> simp

/-- Whether what a worker does for a message is a dialogue's business. -/
structure Fits (d : Dialogue κ) (r : Runner κ) (k : Nat) : Prop where
  bot : ∃ l, r.lanes[k]? = some l ∧ l.bot = d.bot
  commands : r.workshop.registry.commandsOf d.bot.botType = d.commands
  language : r.language = d.language
  steadyCommands : ∀ c ∈ d.commands.commands, IsSteady c.run
  steadySteps : ∀ code, IsSteady (d.language code)

theorem Fits.botTypeOf {r : Runner κ} {k : Nat} (h : d.Fits r k) :
    r.botTypeOf k = d.bot.botType := by
  obtain ⟨l, lane, bot⟩ := h.bot
  rw [Runner.botTypeOf, lane, ← bot]
  rfl

theorem Fits.callOf {r : Runner κ} {k : Nat} (h : d.Fits r k) (i : Input) :
    r.callOf k i = ⟨d.bot.botType, i, r.clock⟩ := by
  rw [Runner.callOf, h.botTypeOf]

/-- What a worker leaves of the job of a message: the stage at which it is, unless it is finished,
the step that it has stored, and the answers that it owes. -/
def Leaves (d : Dialogue κ) (k : Nat) (i : Input) (pending : Option (Step κ))
    (next : Option (Work κ)) (stored : Option (Step κ)) (owed : List Answer) : Prop :=
  (∃ stage, next = some ⟨.converse k i pending, stage⟩ ∧ d.Owes pending i stage stored owed) ∨
    next = none ∧ stored = next? (d.execute? pending i) ∧ owed = []

/-- The part of a job that begins an execution. -/
theorem Owes.begin {k : Nat} {i : Input} {pending : Option (Step κ)} {label : String}
    {since now : Nat} {a : Activity (Turn κ)} {o : Outcome (Turn κ)}
    (runs : d.execute? pending i = some (label, o)) (ends : ∀ o', a.Ends o' → o' = o) :
    d.Leaves k i pending (some ⟨.converse k i pending, .talking label since (.start now a)⟩) none
      (d.answers i (d.execute? pending i)) := by
  refine .inl ⟨_, rfl, ?_⟩
  rw [runs]
  exact .talking label since _ o runs fun o' h => ends o' (by rwa [Execution.rest_start] at h)

/-- The answers that come of an attempt to respond or to send. -/
theorem filterMap_panicOf (x : String) (outcome : Outcome Unit) :
    (Runner.panicOf (some x) outcome : List (Happening κ)).filterMap (Happening.answer? x) =
      panics outcome := by
  cases outcome with
  | panicked m => simp [Runner.panicOf, panics, Happening.answer?]
  | _ => rfl

/-- A worker that goes on with the job of a message gives some of the answers that the job owes, and
stores the step that the message leaves before it sends anything. -/
theorem Owes.labour {r : Runner κ} {k : Nat} {i : Input} {pending stored : Option (Step κ)}
    {stage : Stage κ} {owed : List Answer} {next : Option (Work κ)}
    {conversations : Conversations κ} {es : List (Happening κ)}
    (h : d.Owes pending i stage stored owed) (fits : d.Fits r k)
    (labour : r.Labour ⟨.converse k i pending, stage⟩ next conversations es) :
    ∃ stored' owed', es.filterMap (Happening.answer? i.sender) ++ owed' = owed ∧
      d.Leaves k i pending next stored' owed' ∧
      (stored' = stored ∧ (∀ x step, .stored x step ∉ es) ∨
        ∃ step, stored' = some step ∧ es = [.stored i.sender step]) := by
  cases h with
  | ready =>
    cases labour with
    | resume _ _ step =>
      refine ⟨none, _, rfl, Owes.begin rfl ?_, .inl ⟨rfl, by simp⟩⟩
      rw [fits.callOf, fits.language]
      exact fun o' h => fits.steadySteps step.code _ _ _ _ _ h
    | execute _ _ c matched =>
      rw [fits.botTypeOf, fits.commands] at matched
      have runs : d.execute? none i =
          some (c.identifier, (c.run ⟨d.bot.botType, i, d.clock⟩).outcome) := by
        simp [execute?, matched]
      refine ⟨none, _, rfl, Owes.begin runs ?_, .inl ⟨rfl, by simp⟩⟩
      rw [fits.callOf]
      exact fun o' h => fits.steadyCommands c (LiveSet.mem_of_search matched) _ _ _ _ _ h
    | respond _ _ l lane unmatched =>
      rw [fits.botTypeOf, fits.commands] at unmatched
      have runs : d.execute? none i = none := by simp [execute?, unmatched]
      obtain ⟨l', lane', bot⟩ := fits.bot
      rw [lane] at lane'
      cases lane'
      refine ⟨none, [], ?_, .inr ⟨rfl, by rw [runs]; rfl, rfl⟩, .inl ⟨rfl, ?_⟩⟩
      · rw [runs, List.append_nil, answers, Lane.botType, bot]
        simp [Happening.answer?, filterMap_panicOf]
      · intro x step
        cases outcome : l.bot.respond i <;> simp [Runner.panicOf]
    | searchPanics _ _ m broken =>
      rw [fits.botTypeOf, fits.commands] at broken
      have runs : d.execute? none i = some ("", .panicked m) := by simp [execute?, broken]
      refine ⟨none, [], ?_, .inr ⟨rfl, by rw [runs]; rfl, rfl⟩, .inl ⟨rfl, by simp⟩⟩
      simp [runs, Happening.answer?, answers]
  | talking label since e o runs ends =>
    cases labour with
    | wait _ _ _ _ _ _ going =>
      refine ⟨none, _, rfl, .inl ⟨_, rfl, .talking label since _ o runs ?_⟩, .inl ⟨rfl, by simp⟩⟩
      exact fun o' h => ends o' (Execution.ends_of_goOn h)
    | conclude _ _ _ _ _ _ t ended last =>
      have outcome := ends _ (Execution.ends_of_outcome? ended)
      rw [← outcome] at runs ⊢
      refine ⟨none, _, rfl, .inl ⟨_, rfl, ?_⟩, .inl ⟨rfl, by simp⟩⟩
      have sending : d.Owes pending i _ _ _ :=
        .sending (Runner.turnOutputs i t) (length_turnOutputs_le i t)
      rwa [runs, next?, last] at sending
    | store _ _ _ _ _ _ t step ended next =>
      have outcome := ends _ (Execution.ends_of_outcome? ended)
      rw [← outcome] at runs ⊢
      refine ⟨some step, _, rfl, .inl ⟨_, rfl, ?_⟩, .inr ⟨step, rfl, rfl⟩⟩
      have sending : d.Owes pending i _ _ _ :=
        .sending (Runner.turnOutputs i t) (length_turnOutputs_le i t)
      rwa [runs, next?, next] at sending
    | fail _ _ _ _ _ _ c ended =>
      have outcome := ends _ (Execution.ends_of_outcome? ended)
      rw [← outcome] at runs ⊢
      refine ⟨none, [], ?_, .inr ⟨rfl, by rw [runs]; rfl, rfl⟩, .inl ⟨rfl, by simp⟩⟩
      simp [Happening.answer?, answers, fits.botTypeOf]
    | panic _ _ _ _ _ _ m ended =>
      have outcome := ends _ (Execution.ends_of_outcome? ended)
      rw [← outcome] at runs ⊢
      refine ⟨none, [], ?_, .inr ⟨rfl, by rw [runs]; rfl, rfl⟩, .inl ⟨rfl, by simp⟩⟩
      simp [Happening.answer?, answers]
  | sending os few =>
    cases labour with
    | send _ o rest l lane kept =>
      obtain rfl : rest = [] := by simpa using few
      obtain ⟨l', lane', bot⟩ := fits.bot
      rw [Job.lane, lane'] at lane
      cases lane
      refine ⟨_, [], ?_, .inl ⟨_, rfl, .sending [] (by simp)⟩, .inl ⟨rfl, by simp⟩⟩
      have calm : panics (d.bot.send o) = [] := by
        cases outcome : d.bot.send o with
        | panicked m => exact absurd (bot ▸ outcome) (kept m)
        | _ => rfl
      simp [Happening.answer?, reply, calm, Job.sender?, Lane.botType, bot]
    | sendPanics _ o rest l lane m lost =>
      obtain rfl : rest = [] := by simpa using few
      obtain ⟨l', lane', bot⟩ := fits.bot
      rw [Job.lane, lane'] at lane
      cases lane
      refine ⟨_, [], ?_, .inr ⟨rfl, rfl, rfl⟩, .inl ⟨rfl, by simp⟩⟩
      rw [bot] at lost
      simp [Happening.answer?, reply, panics, lost, Job.sender?, Lane.botType, bot]
    | finish => exact ⟨_, [], rfl, .inr ⟨rfl, rfl, rfl⟩, .inl ⟨rfl, by simp⟩⟩

end Dialogue

end Switchboard
