import Switchboard.Proofs.Dialogue

/-!
# Closed loops

A sender in a closed loop writes a message only when the one before has been dealt with. Whatever
else the runner does in between, for other senders and other bots, such a sender gets what a
dialogue of its own would answer (`closed_loop_is_dialogue`).

The invariant is `RunnerPlan.Follows`: either nothing is on its way for the sender, and the answers
so far are those of the dialogue; or the job of its last message is, and owes the rest of them.
-/

namespace Switchboard

/-! ## The jobs of one sender -/

def Stage.isDone {κ : Type} : Stage κ → Bool
  | .sending [] => true
  | _ => false

/-- Whether a job is due to a sender and not done. -/
def Work.isOpenFor {κ : Type} (x : String) (w : Work κ) : Bool :=
  w.job.sender? == some x && !w.stage.isDone

theorem Dialogue.Owes.of_isDone {κ : Type} {d : Dialogue κ} {pending stored : Option (Step κ)}
    {i : Input} {stage : Stage κ} {owed : List Answer} (h : d.Owes pending i stage stored owed)
    (ended : stage.isDone = true) : stored = next? (d.execute? pending i) ∧ owed = [] := by
  cases h with
  | sending os =>
    cases os with
    | nil => exact ⟨rfl, rfl⟩
    | cons o rest => cases ended
  | _ => cases ended

namespace Runner

variable {κ : Type} {r r' : Runner κ} {m : Move} {es : List (Happening κ)} {x : String}

/-- The jobs that are due to a sender and not done. -/
def openWorks (r : Runner κ) (x : String) : Multiset (Work κ) :=
  r.works.filter fun w => w.isOpenFor x = true

/-- What a worker does with a job that is not due to a sender does not concern that sender. -/
theorem Labour.others {w : Work κ} {next : Option (Work κ)} {conversations : Conversations κ}
    (h : Labour r w next conversations es) (other : w.job.sender? ≠ some x) :
    es.filterMap (Happening.answer? x) = [] ∧ ∀ step, .stored x step ∉ es := by
  cases h with
  | respond k i l =>
    have apart : i.sender ≠ x := by simpa [Job.sender?] using other
    cases outcome : l.bot.respond i <;> simp [panicOf, Happening.answer?, apart]
  | store k i =>
    have apart : i.sender ≠ x := by simpa [Job.sender?] using other
    simp [Happening.answer?, apart.symm]
  | fail k i =>
    have apart : i.sender ≠ x := by simpa [Job.sender?] using other
    simp [Happening.answer?, apart]
  | panic k i =>
    have apart : i.sender ≠ x := by simpa [Job.sender?] using other
    simp [Happening.answer?, apart]
  | searchPanics k i =>
    have apart : i.sender ≠ x := by simpa [Job.sender?] using other
    simp [Happening.answer?, apart]
  | send job => simp [Happening.answer?, other]
  | sendPanics job => simp [Happening.answer?, other]
  | _ => simp [Happening.answer?]

theorem Labour.input?_eq_none {w : Work κ} {next : Option (Work κ)}
    {conversations : Conversations κ} (h : Labour r w next conversations es) :
    ∀ e ∈ es, e.input? x = none := by
  intro e he
  cases e with
  | accepted bot i => exact absurd he (h.not_accepted bot i)
  | _ => rfl

/-- What a move is to a sender, as long as the pool is open. -/
inductive Concerns (r : Runner κ) (x : String) (r' : Runner κ) (es : List (Happening κ)) : Prop
  /-- Nothing. -/
  | nothing (works : r'.openWorks x = r.openWorks x)
    (answers : es.filterMap (Happening.answer? x) = []) (inputs : ∀ e ∈ es, e.input? x = none)
    (stored : ∀ step, .stored x step ∉ es)
  /-- An input of the sender is accepted. -/
  | input (k : Nat) (i : Input) (sender : i.sender = x)
    (happens : es = [.accepted (r.botTypeOf k) i])
    (job : i.kind = .message → k < r.lanes.length ∧
      r'.openWorks x = ⟨.converse k i (r.conversations.take r.now x).1, .ready⟩ ::ₘ r.openWorks x ∧
      r'.conversations = r.conversations.remove x)
  /-- A worker goes on with a job that is due to the sender. -/
  | labour (w : Work κ) (next : Option (Work κ)) (conversations : Conversations κ)
    (rest : Multiset (Work κ)) (due : w.isOpenFor x = true)
    (done : Labour r w next conversations es)
    (before : r.openWorks x = w ::ₘ rest)
    (after : r'.openWorks x =
      Multiset.filter (fun w => w.isOpenFor x = true) (next.elim 0 ({·})) + rest)
    (stored : r'.conversations = conversations)

theorem filter_isOpenFor_of_ne {w : Work κ} {s : Multiset (Work κ)} (h : w.isOpenFor x = false) :
    (w ::ₘ s).filter (fun w => w.isOpenFor x = true) = s.filter fun w => w.isOpenFor x = true :=
  Multiset.filter_cons_of_neg _ (by simp [h])

theorem Effect.concerns (h : r.Effect m r' es) (x : String) (going : r.pool.closed = false) :
    r.Concerns x r' es := by
  have same : r'.works = r.works → r'.openWorks x = r.openWorks x := fun works => by
    rw [openWorks, openWorks, works]
  cases h with
  | quiet silent works =>
    refine .nothing (same works) ?_ ?_ ?_
    · exact List.filterMap_eq_nil_iff.mpr fun e he =>
        (Happening.answer?_of_not_isTalk (silent e he) x).1
    · exact fun e he => (Happening.answer?_of_not_isTalk (silent e he) x).2
    · exact fun step he => absurd (silent _ he) (by simp [Happening.isTalk])
  | drop closed =>
    rw [going] at closed
    cases closed
  | sweep works => exact .nothing (same works) rfl (by simp) (by simp)
  | abort k i kind works =>
    by_cases sender : i.sender = x
    · refine .input k i sender rfl fun message => ?_
      rw [kind] at message
      cases message
    · exact .nothing (same works) rfl (by simp [Happening.input?, sender]) (by simp)
  | help k i kind lane works =>
    by_cases sender : i.sender = x
    · refine .input k i sender rfl fun message => ?_
      rw [kind] at message
      cases message
    · refine .nothing ?_ rfl (by simp [Happening.input?, sender]) (by simp)
      rw [openWorks, works]
      exact filter_isOpenFor_of_ne (by simp [Work.isOpenFor, helpJob, Job.sender?, sender])
  | message k i kind lane works conversations =>
    by_cases sender : i.sender = x
    · subst sender
      refine .input k i rfl rfl fun _ => ⟨lane, ?_, conversations⟩
      rw [openWorks, works]
      refine Multiset.filter_cons_of_pos _ ?_
      simp [Work.isOpenFor, Job.sender?, Stage.isDone]
    · refine .nothing ?_ rfl (by simp [Happening.input?, sender]) (by simp)
      rw [openWorks, works]
      exact filter_isOpenFor_of_ne (by simp [Work.isOpenFor, Job.sender?, sender])
  | @labour _ n w next conversations _ rest hands done before after stored =>
    cases due : w.isOpenFor x with
    | true =>
      refine .labour w next conversations (rest.filter fun w => w.isOpenFor x = true) due done
        ?_ ?_ stored
      · rw [openWorks, before]
        exact Multiset.filter_cons_of_pos _ due
      · rw [openWorks, after, Multiset.filter_add]
    | false =>
      -- Either the job is due to somebody else, or nothing is left to be done.
      have closed : Multiset.filter (fun w => w.isOpenFor x = true) (next.elim 0 ({·})) = 0 ∧
          es.filterMap (Happening.answer? x) = [] ∧ ∀ step, .stored x step ∉ es := by
        by_cases sender : w.job.sender? = some x
        · obtain ⟨job, stage⟩ := w
          have finished : stage.isDone = true := by simpa [Work.isOpenFor, sender] using due
          unfold Stage.isDone at finished
          split at finished
          · cases done
            exact ⟨rfl, rfl, by simp⟩
          · cases finished
        · obtain ⟨answers, stored⟩ := done.others sender
          refine ⟨?_, answers, stored⟩
          cases next with
          | none => rfl
          | some v =>
            rw [Option.elim_some, Multiset.filter_singleton, if_neg]
            · rfl
            · rw [Work.isOpenFor, done.job_eq]
              simp [sender]
      refine .nothing ?_ closed.2.1 done.input?_eq_none closed.2.2
      rw [openWorks, openWorks, before, after, Multiset.filter_add, closed.1, zero_add]
      exact (filter_isOpenFor_of_ne due).symm

end Runner

/-! ## Closed loops -/

namespace RunnerPlan

variable {κ : Type} (p : RunnerPlan κ) (schedule : Nat → Runner.Move) (x : String)

/-- The inputs of a sender that were accepted before move `n`. -/
def inputsOf (n : Nat) : List Input :=
  (p.start.after schedule n).trace.filterMap (Happening.input? x)

/-- What a sender got before move `n`. -/
def answersTo (n : Nat) : List Answer :=
  (p.start.after schedule n).trace.filterMap (Happening.answer? x)

/-- Dialogues with a bot of a plan, by the commands that are live at the start. -/
def dialogue (bot : Bot) : Dialogue κ where
  bot
  commands := p.start.workshop.registry.commandsOf bot.botType
  language := p.language
  clock := p.origin

/-- Before move `n` a sender is in a closed loop with a bot. -/
structure IsClosedLoop (bot : Bot) (n : Nat) : Prop where
  checked : ∃ notes, p.check = .ok notes
  member : bot ∈ p.bots
  /-- Nobody stops the run. -/
  going : ∀ m < n, schedule m ≠ .cancel
  steadyCommands :
    ∀ c ∈ (p.start.workshop.registry.commandsOf bot.botType).commands, IsSteady c.run
  steadySteps : ∀ code, IsSteady (p.language code)
  /-- The commands of the bot stay as they are at the start. -/
  live : ∀ m < n, (p.start.after schedule m).workshop.registry.commandsOf bot.botType =
    p.start.workshop.registry.commandsOf bot.botType
  /-- The sender writes to this bot, and nothing but messages. -/
  messages : ∀ m < n, ∀ b i, .accepted b i ∈ p.start.happens schedule m → i.sender = x →
    b = bot.botType ∧ i.kind = .message
  /-- A message comes when the one before has been dealt with. -/
  handled : ∀ m < n, ∀ b i, .accepted b i ∈ p.start.happens schedule m → i.sender = x →
    (p.start.after schedule m).openWorks x = 0
  /-- A message comes before a step that the one before has left expires. -/
  inTime : ∀ m < n, ∀ b i, .accepted b i ∈ p.start.happens schedule m → i.sender = x →
    ∀ s < m, ∀ step, .stored x step ∈ p.start.happens schedule s →
      (∀ j, s < j → j < m → ∀ e ∈ p.start.happens schedule j, e.input? x = none) →
      (p.start.after schedule m).now < (p.start.after schedule s).now + p.lifetimeOf step
  /-- To make room for other senders, the step of this one is not dropped before it expires. -/
  roomy : ∀ m < n, ∀ y step, .stored y step ∈ p.start.happens schedule m → y ≠ x →
    ∀ c, (p.start.after schedule m).conversations.stored? x = some c →
      c.isExpired (p.start.after schedule m).now = false →
      ((p.start.after schedule m).conversations.makeRoom
        (p.start.after schedule m).now y).stored? x = some c

/-- What is pending for a sender before move `n`: nothing, or a step that was stored after the last
input of the sender, which is still there or has expired. -/
def Pends (n : Nat) : Option (Step κ) → Prop
  | none => (p.start.after schedule n).conversations.stored? x = none
  | some step => ∃ s < n, .stored x step ∈ p.start.happens schedule s ∧
      (∀ j, s < j → j < n → ∀ e ∈ p.start.happens schedule j, e.input? x = none) ∧
      ((p.start.after schedule n).conversations.stored? x =
          some ⟨x, step, (p.start.after schedule s).now, p.lifetimeOf step⟩ ∨
        (p.start.after schedule n).conversations.stored? x = none ∧
          (p.start.after schedule s).now + p.lifetimeOf step ≤ (p.start.after schedule n).now)

/-- A sender follows its dialogue before move `n`. -/
inductive Follows (bot : Bot) (n : Nat) : Prop
  /-- All its inputs are dealt with. -/
  | idle (none_open : (p.start.after schedule n).openWorks x = 0)
    (answers : p.answersTo schedule x n = ((p.dialogue bot).hold (p.inputsOf schedule x n)).1)
    (pends : p.Pends schedule x n ((p.dialogue bot).hold (p.inputsOf schedule x n)).2)
  /-- The job of its last input is on its way. -/
  | busy (past : List Input) (i : Input) (k : Nat) (stage : Stage κ) (stored : Option (Step κ))
    (owed : List Answer) (inputs : p.inputsOf schedule x n = past ++ [i]) (sender : i.sender = x)
    (lane : p.start.lanes[k]?.map Lane.bot = some bot)
    (one_open : (p.start.after schedule n).openWorks x =
      {⟨.converse k i ((p.dialogue bot).hold past).2, stage⟩})
    (owes : (p.dialogue bot).Owes ((p.dialogue bot).hold past).2 i stage stored owed)
    (given : ((p.dialogue bot).hold past).1 <+: p.answersTo schedule x n)
    (answers : p.answersTo schedule x n ++ owed = ((p.dialogue bot).hold (past ++ [i])).1)
    (pends : p.Pends schedule x n stored)

variable {p schedule x} {bot : Bot} {n : Nat}

theorem inputsOf_succ (n : Nat) : p.inputsOf schedule x (n + 1) =
    p.inputsOf schedule x n ++ (p.start.happens schedule n).filterMap (Happening.input? x) := by
  rw [inputsOf, (p.effect_after schedule n).1, List.filterMap_append]
  rfl

theorem answersTo_succ (n : Nat) : p.answersTo schedule x (n + 1) =
    p.answersTo schedule x n ++ (p.start.happens schedule n).filterMap (Happening.answer? x) := by
  rw [answersTo, (p.effect_after schedule n).1, List.filterMap_append]
  rfl

/-- What is pending stays so when the sender is not concerned. -/
theorem Pends.succ {pending : Option (Step κ)} (h : p.Pends schedule x n pending)
    (inputs : ∀ e ∈ p.start.happens schedule n, e.input? x = none)
    (unstored : ∀ step, .stored x step ∉ p.start.happens schedule n)
    (roomy : ∀ y step, .stored y step ∈ p.start.happens schedule n → y ≠ x →
      ∀ c, (p.start.after schedule n).conversations.stored? x = some c →
        c.isExpired (p.start.after schedule n).now = false →
        ((p.start.after schedule n).conversations.makeRoom
          (p.start.after schedule n).now y).stored? x = some c) :
    p.Pends schedule x (n + 1) pending := by
  have effect := (p.effect_after schedule n).2
  have keyed := (p.isKeyed_after schedule n).1
  -- Nothing comes to the store from nowhere.
  have absent : (p.start.after schedule n).conversations.stored? x = none →
      (p.start.after schedule (n + 1)).conversations.stored? x = none := by
    intro none
    cases found : (p.start.after schedule (n + 1)).conversations.stored? x with
    | none => rfl
    | some c =>
      rcases effect.stored?_or keyed found with ⟨old, -⟩ | ⟨happens, -⟩
      · rw [none] at old
        cases old
      · exact absurd (happens ▸ List.mem_singleton_self _) (unstored c.step)
  cases pending with
  | none => exact absent h
  | some step =>
    obtain ⟨s, earlier, stored, between, place⟩ := h
    have untouched : ∀ e ∈ p.start.happens schedule n, e.touches x = false := by
      intro e he
      cases e with
      | accepted b i =>
        have apart : i.sender ≠ x := by simpa [Happening.input?] using inputs _ he
        simp [Happening.touches, apart]
      | stored y step =>
        have apart : y ≠ x := by
          rintro rfl
          exact unstored step he
        simp [Happening.touches, apart]
      | _ => rfl
    refine ⟨s, earlier.trans n.lt_succ_self, stored, ?_, ?_⟩
    · intro j after before
      rcases Nat.lt_succ_iff_lt_or_eq.mp before with earlier | rfl
      · exact between j after earlier
      · exact inputs
    · have later := (Runner.isLater_after p.start schedule n.le_succ).now
      rcases place with found | ⟨none, ended⟩
      · refine (effect.stored?_eq_or keyed found untouched ?_).imp id ?_
        · intro y step' stores
          refine roomy y step' stores ?_ _ found
          rintro rfl
          exact unstored step' stores
        · rintro ⟨none, expired⟩
          refine ⟨none, le_trans ?_ later⟩
          have upTo : p.lifetimeOf step ≤
              (p.start.after schedule n).now - (p.start.after schedule s).now := by
            simpa [Conversation.isExpired] using expired
          have order := (Runner.isLater_after p.start schedule earlier.le).now
          omega
      · exact .inr ⟨absent none, ended.trans later⟩

theorem nodup_of_repeated? {seen bots : List BotType} (h : repeated? seen bots = none) :
    bots.Nodup ∧ ∀ b ∈ bots, b ∉ seen := by
  induction bots generalizing seen with
  | nil => simp
  | cons b rest ih =>
    unfold repeated? at h
    split at h
    · cases h
    · next new =>
      obtain ⟨nodup, apart⟩ := ih h
      refine ⟨List.nodup_cons.mpr ⟨fun mem => apart b mem (by simp), nodup⟩, ?_⟩
      rintro c (_ | ⟨_, mem⟩)
      · simpa using new
      · exact fun old => apart c mem (List.mem_cons_of_mem _ old)

theorem nodup_botTypes {notes : List Note} (h : p.check = .ok notes) :
    (p.bots.map Bot.botType).Nodup := by
  unfold check at h
  dsimp only at h
  split at h
  · cases h
  · split at h
    · cases h
    · next none => exact (nodup_of_repeated? none).1

namespace IsClosedLoop

variable {N : Nat}

/-- The lane of an input of the sender is that of its bot. -/
theorem lane (h : p.IsClosedLoop schedule x bot N) {k : Nat} (bound : k < p.start.lanes.length)
    (same : p.start.botTypeOf k = bot.botType) : p.start.lanes[k]?.map Lane.bot = some bot := by
  obtain ⟨notes, checked⟩ := h.checked
  obtain ⟨l, lane⟩ : ∃ l, p.start.lanes[k]? = some l := ⟨_, List.getElem?_eq_getElem bound⟩
  rw [Runner.botTypeOf, lane] at same
  rw [lane, Option.map_some, Option.some_inj]
  have mem : l.bot ∈ p.bots := by
    have here := List.mem_of_getElem? lane
    rcases p.start_spec.1 with lanes | lanes
    · rw [lanes] at here
      obtain ⟨b, hb, eq⟩ := List.mem_map.mp here
      rw [← eq]
      exact hb
    · rw [lanes] at here
      cases here
  exact List.inj_on_of_nodup_map (nodup_botTypes checked) mem h.member same

theorem fits (h : p.IsClosedLoop schedule x bot N) {m : Nat} (hm : m < N) {k : Nat}
    (lane : p.start.lanes[k]?.map Lane.bot = some bot) :
    (p.dialogue bot).Fits (p.start.after schedule m) k := by
  have later := Runner.isLater_after p.start schedule m.zero_le
  refine ⟨?_, h.live m hm, later.language.trans p.start_spec.2.2.2.1, h.steadyCommands,
    h.steadySteps⟩
  exact Option.map_eq_some_iff.mp ((later.bot k).trans lane)

/-- A message of the sender is accepted. -/
theorem input (h : p.IsClosedLoop schedule x bot N) (hn : n < N)
    (f : p.Follows schedule x bot n) {k : Nat} {i : Input} (sender : i.sender = x)
    (happens : p.start.happens schedule n = [.accepted ((p.start.after schedule n).botTypeOf k) i])
    (job : i.kind = .message → k < (p.start.after schedule n).lanes.length ∧
      (p.start.after schedule (n + 1)).openWorks x =
        ⟨.converse k i ((p.start.after schedule n).conversations.take
          (p.start.after schedule n).now x).1, .ready⟩ ::ₘ (p.start.after schedule n).openWorks x ∧
      (p.start.after schedule (n + 1)).conversations =
        (p.start.after schedule n).conversations.remove x) :
    p.Follows schedule x bot (n + 1) := by
  have later := Runner.isLater_after p.start schedule n.zero_le
  have accepted := happens ▸ List.mem_singleton_self (Happening.accepted (κ := κ) _ i)
  obtain ⟨same, kind⟩ := h.messages n hn _ i accepted sender
  obtain ⟨bound, opened, conversations⟩ := job kind
  have handled := h.handled n hn _ i accepted sender
  rw [later.length] at bound
  rw [later.botTypeOf] at same
  cases f with
  | busy past i k stage stored owed _ _ _ one_open =>
    rw [handled] at one_open
    exact absurd one_open (Multiset.singleton_ne_zero _).symm
  | idle none_open answers pends =>
    -- What the input takes is what the dialogue would go on with.
    have takes : ((p.start.after schedule n).conversations.take
          (p.start.after schedule n).now x).1 =
        ((p.dialogue bot).hold (p.inputsOf schedule x n)).2 := by
      generalize ((p.dialogue bot).hold (p.inputsOf schedule x n)).2 = pending at pends ⊢
      cases pending with
      | none =>
        have none : (p.start.after schedule n).conversations.stored? x = none := pends
        rw [Conversations.take, none]
        rfl
      | some step =>
        obtain ⟨s, earlier, stored, between, place⟩ := pends
        have inTime := h.inTime n hn _ i accepted sender s earlier step stored between
        rcases place with found | ⟨-, ended⟩
        · have order := (Runner.isLater_after p.start schedule earlier.le).now
          have live : ¬ p.lifetimeOf step ≤
              (p.start.after schedule n).now - (p.start.after schedule s).now := by omega
          rw [Conversations.take, found]
          simp [Conversation.isExpired, live, Option.filter]
        · omega
    have inputs : p.inputsOf schedule x (n + 1) = p.inputsOf schedule x n ++ [i] := by
      rw [inputsOf_succ, happens]
      simp [Happening.input?, sender]
    have given : p.answersTo schedule x (n + 1) = p.answersTo schedule x n := by
      rw [answersTo_succ, happens]
      simp [Happening.answer?]
    refine .busy _ i k _ none _ inputs sender (h.lane bound same) ?_ .ready ?_ ?_ ?_
    · rw [opened, handled, takes]
      rfl
    · rw [given, answers]
    · rw [given, answers, Dialogue.hold_concat]
      rfl
    · show (p.start.after schedule (n + 1)).conversations.stored? x = none
      rw [conversations, Conversations.stored?_remove_self]

/-- A worker goes on with the job of the sender's last message. -/
theorem labour (h : p.IsClosedLoop schedule x bot N) (hn : n < N)
    (f : p.Follows schedule x bot n) {w : Work κ} {next : Option (Work κ)}
    {conversations : Conversations κ} {rest : Multiset (Work κ)}
    (done : (p.start.after schedule n).Labour w next conversations (p.start.happens schedule n))
    (before : (p.start.after schedule n).openWorks x = w ::ₘ rest)
    (after : (p.start.after schedule (n + 1)).openWorks x =
      Multiset.filter (fun w => w.isOpenFor x = true) (next.elim 0 ({·})) + rest)
    (kept : (p.start.after schedule (n + 1)).conversations = conversations) :
    p.Follows schedule x bot (n + 1) := by
  cases f with
  | idle none_open =>
    rw [none_open] at before
    exact absurd before Multiset.zero_ne_cons
  | busy past i k stage stored owed inputs sender lane one_open owes given answers pends =>
    rw [one_open] at before
    obtain ⟨rfl, rfl⟩ := (Multiset.singleton_eq_cons_iff _).mp before
    subst sender
    obtain ⟨stored', owed', gives, leaves, storing⟩ := owes.labour (h.fits hn lane) done
    have silent := done.input?_eq_none (x := i.sender)
    have all : p.inputsOf schedule i.sender (n + 1) = past ++ [i] := by
      rw [inputsOf_succ, List.filterMap_eq_nil_iff.mpr silent, List.append_nil, inputs]
    have complete : p.answersTo schedule i.sender (n + 1) ++ owed' =
        ((p.dialogue bot).hold (past ++ [i])).1 := by
      rw [answersTo_succ, List.append_assoc, gives, answers]
    have pends' : p.Pends schedule i.sender (n + 1) stored' := by
      rcases storing with ⟨rfl, unstored⟩ | ⟨step, rfl, happens⟩
      · exact pends.succ silent (unstored i.sender) (h.roomy n hn)
      · refine ⟨n, n.lt_succ_self, happens ▸ List.mem_singleton_self _, by omega, .inl ?_⟩
        rw [happens] at done
        rcases done.stored_or with ⟨-, untouched⟩ | ⟨y, step', same, inserted⟩
        · exact absurd (untouched i.sender _ (List.mem_singleton_self _))
            (by simp [Happening.touches])
        · simp only [List.cons.injEq, Happening.stored.injEq] at same
          obtain ⟨⟨rfl, rfl⟩, -⟩ := same
          rw [kept, inserted, Conversations.stored?_insert_self, (p.isKeyed_after schedule n).2]
          rfl
    -- With nothing left to be done, the answers are complete.
    have idle (closed : Multiset.filter (fun w => w.isOpenFor i.sender = true)
          (next.elim 0 ({·})) = 0)
        (left : stored' =
          Dialogue.next? ((p.dialogue bot).execute? ((p.dialogue bot).hold past).2 i))
        (paid : owed' = []) : p.Follows schedule i.sender bot (n + 1) := by
      refine .idle (by rw [after, closed, zero_add]) ?_ ?_
      · rw [all, ← complete, paid, List.append_nil]
      · rw [all, Dialogue.hold_concat]
        rw [left] at pends'
        exact pends'
    rcases leaves with ⟨stage', rfl, owes'⟩ | ⟨rfl, left, paid⟩
    · cases ended : stage'.isDone with
      | true =>
        obtain ⟨left, paid⟩ := owes'.of_isDone ended
        refine idle ?_ left paid
        simp [Multiset.filter_singleton, Work.isOpenFor, ended]
      | false =>
        refine .busy past i k stage' stored' owed' all rfl lane ?_ owes' ?_ complete pends'
        · rw [after, add_zero]
          simp [Multiset.filter_singleton, Work.isOpenFor, Job.sender?, ended]
        · rw [answersTo_succ]
          exact given.trans (List.prefix_append _ _)
    · exact idle rfl left paid

end IsClosedLoop

/-- A sender that is in a closed loop goes on to follow its dialogue. -/
theorem Follows.succ {N : Nat} (f : p.Follows schedule x bot n)
    (h : p.IsClosedLoop schedule x bot N) (hn : n < N) : p.Follows schedule x bot (n + 1) := by
  have going : (p.start.after schedule n).pool.closed = false := by
    rw [Runner.closed_after p.start fun m hm => h.going m (hm.trans hn), p.start_spec.2.1]
    rfl
  cases (p.effect_after schedule n).2.concerns x going with
  | nothing works answers inputs stored =>
    have same : p.inputsOf schedule x (n + 1) = p.inputsOf schedule x n := by
      rw [inputsOf_succ, List.filterMap_eq_nil_iff.mpr inputs, List.append_nil]
    have given : p.answersTo schedule x (n + 1) = p.answersTo schedule x n := by
      rw [answersTo_succ, answers, List.append_nil]
    cases f with
    | idle none_open answers pends =>
      refine .idle (works.trans none_open) (by rw [given, same, answers]) ?_
      rw [same]
      exact pends.succ inputs stored (h.roomy n hn)
    | busy past i k stage kept owed all sender lane one_open owes begun answers pends =>
      refine .busy past i k stage kept owed (same.trans all) sender lane (works.trans one_open) owes
        (given ▸ begun) (given ▸ answers) ?_
      exact pends.succ inputs stored (h.roomy n hn)
  | input k i sender happens job => exact h.input hn f sender happens job
  | labour w next conversations rest _ done before after stored =>
    exact h.labour hn f done before after stored

theorem IsClosedLoop.follows (h : p.IsClosedLoop schedule x bot n) :
    p.Follows schedule x bot n := by
  have follows : ∀ m ≤ n, p.Follows schedule x bot m := by
    intro m
    induction m with
    | zero =>
      intro _
      have inputs : p.inputsOf schedule x 0 = [] :=
        List.filterMap_eq_nil_iff.mpr fun e he =>
          (Happening.answer?_of_not_isTalk (p.start_spec.2.2.2.2 e he) x).2
      have answers : p.answersTo schedule x 0 = [] :=
        List.filterMap_eq_nil_iff.mpr fun e he =>
          (Happening.answer?_of_not_isTalk (p.start_spec.2.2.2.2 e he) x).1
      refine .idle ?_ (by rw [answers, inputs]; rfl) ?_
      · show p.start.openWorks x = 0
        rw [Runner.openWorks, p.works_start]
        rfl
      · rw [inputs]
        show p.start.conversations.stored? x = none
        rw [p.start_spec.2.2.1]
        rfl
    | succ m ih => exact fun hm => (ih (Nat.le_of_succ_le hm)).succ h hm
  exact follows n le_rfl

/-- A sender in a closed loop gets what its dialogue answers, in order: the answers to all its
messages when they are dealt with, and before that to all but the last, with a part of those to the
last. -/
theorem closed_loop_is_dialogue (h : p.IsClosedLoop schedule x bot n) :
    p.answersTo schedule x n <+: ((p.dialogue bot).hold (p.inputsOf schedule x n)).1 ∧
      ((p.dialogue bot).hold (p.inputsOf schedule x n).dropLast).1 <+: p.answersTo schedule x n ∧
      ((p.start.after schedule n).openWorks x = 0 →
        p.answersTo schedule x n = ((p.dialogue bot).hold (p.inputsOf schedule x n)).1) := by
  cases h.follows with
  | idle none_open answers =>
    rw [answers]
    exact ⟨List.prefix_rfl, Dialogue.hold_dropLast_prefix _ _, fun _ => rfl⟩
  | busy past i k stage stored owed inputs sender lane one_open owes given answers =>
    rw [inputs, List.dropLast_concat]
    refine ⟨⟨owed, answers⟩, given, fun none_open => ?_⟩
    rw [none_open] at one_open
    exact absurd one_open (Multiset.singleton_ne_zero _).symm

end RunnerPlan

/-! ## Two conversations at once -/

namespace Chat

def chat : BotType := ⟨"chat"⟩

/-- Asks for a name; the next message is taken for it. -/
def opening : CommandTemplate Unit where
  botType := chat
  identifier := "name"
  matcher := .predicate fun i => .ok (i.message = "hello")
  executor := .fixed fun _ =>
    .done { content := some (.text "Who is it?"), next := some { code := () } }

def bot : Bot := { botType := chat }

def plan : RunnerPlan Unit where
  language _ c := .done (.say (c.input.message ++ ", hello."))
  origin := default
  settings := { worker := { workers := 2, queueSize := 1 } }
  bots := [bot]
  registry := { commands := [opening] }

def message (sender text : String) : Input := { sender, message := text, replyTo := ⟨sender⟩ }

/-- The lane takes an input and offers its job to the pool. -/
def hears : List Runner.Move :=
  [.act (.runLoop 0), .act (.runLoop 0), .act (.intake 0), .act (.intake 0)]

def works (n : Nat) : Runner.Move := .act (.worker n)

/-- While one worker is at the first message of a sender, another begins a message of somebody else,
and stores a step before the first one does. -/
def moves : List Runner.Move :=
  [.act (.supervisor 0), .tell 0 (message "ann" "hello"), .tell 0 (message "bob" "hello"),
    .tell 0 (message "ann" "Ann")] ++ hears ++ [works 0, works 0] ++ hears ++
    [works 1, works 1, works 1, works 0, works 0, .pass 500, .act .sweeper, works 0] ++ hears ++
    [works 0, works 0, works 0, works 0]

def schedule (n : Nat) : Runner.Move := moves[n]?.getD (.pass 0)

/-- The bot type and the input of an acceptance. -/
def arrival? : Happening Unit → Option (BotType × Input)
  | .accepted b i => some (b, i)
  | _ => none

/-- The sender and the step of a storing. -/
def storing? : Happening Unit → Option (String × Step Unit)
  | .stored y step => some (y, step)
  | _ => none

theorem isClosedLoop : plan.IsClosedLoop schedule "ann" bot 30 := by
  have arrives : ∀ m < 30, ∀ a ∈ (plan.start.happens schedule m).filterMap arrival?,
      a.2.sender = "ann" → a.1 = chat ∧ a.2.kind = .message ∧
        Multiset.card ((plan.start.after schedule m).openWorks "ann") = 0 ∧
        ∀ s < m, ∀ k ∈ (plan.start.happens schedule s).filterMap storing?,
          (plan.start.after schedule m).now <
            (plan.start.after schedule s).now + plan.lifetimeOf k.2 := by
    decide +kernel
  have arrival : ∀ m b i, .accepted b i ∈ plan.start.happens schedule m →
      (b, i) ∈ (plan.start.happens schedule m).filterMap arrival? :=
    fun m b i h => List.mem_filterMap.mpr ⟨_, h, rfl⟩
  have space : ∀ m < 30, (plan.start.after schedule m).conversations.size <
      (plan.start.after schedule m).conversations.capacity := by
    decide +kernel
  have live : (List.range 30).map (fun m =>
        (plan.start.after schedule m).workshop.registry.commandsOf chat) =
      List.replicate 30 (plan.start.workshop.registry.commandsOf chat) := rfl
  have going : ∀ m ∈ moves, m ≠ .cancel := by simp [moves, hears, works]
  refine ⟨⟨[], rfl⟩, List.mem_singleton_self _, ?_, ?_, ?_, ?_, ?_, ?_, ?_, ?_⟩
  · intro m hm
    rw [schedule, List.getElem?_eq_getElem hm]
    exact going _ (List.getElem_mem _)
  · intro c hc
    obtain rfl := List.mem_singleton.mp hc
    exact isSteady_done fun _ _ => _
  · exact fun _ => isSteady_done fun _ i => .say (i.message ++ ", hello.")
  · intro m hm
    exact List.eq_of_mem_replicate (live ▸ List.mem_map.mpr ⟨m, List.mem_range.mpr hm, rfl⟩)
  · intro m hm b i accepted sender
    obtain ⟨bot, kind, -⟩ := arrives m hm _ (arrival m b i accepted) sender
    exact ⟨bot, kind⟩
  · intro m hm b i accepted sender
    obtain ⟨-, -, none_open, -⟩ := arrives m hm _ (arrival m b i accepted) sender
    exact Multiset.card_eq_zero.mp none_open
  · intro m hm b i accepted sender s hs step stored _
    obtain ⟨-, -, -, inTime⟩ := arrives m hm _ (arrival m b i accepted) sender
    exact inTime s hs ("ann", step) (List.mem_filterMap.mpr ⟨_, stored, rfl⟩)
  · intro m hm y step _ _ c found _
    rw [Conversations.makeRoom, if_pos (by simp [space m hm])]
    exact found

/-- A sender is asked for a name and greeted by it, whatever somebody else does meanwhile. -/
theorem closed_loop_of_ann :
    plan.IsClosedLoop schedule "ann" bot 30 ∧
      plan.answersTo schedule "ann" 30 =
        [.reply chat ⟨⟨"ann"⟩, .text "Who is it?"⟩,
          .reply chat ⟨⟨"ann"⟩, .text "Ann, hello."⟩] := by
  obtain ⟨-, -, complete⟩ := RunnerPlan.closed_loop_is_dialogue isClosedLoop
  have handled : Multiset.card ((plan.start.after schedule 30).openWorks "ann") = 0 := by
    decide +kernel
  have inputs : plan.inputsOf schedule "ann" 30 = [message "ann" "hello", message "ann" "Ann"] := by
    decide +kernel
  refine ⟨isClosedLoop, (complete (Multiset.card_eq_zero.mp handled)).trans ?_⟩
  rw [inputs]
  rfl

end Chat

end Switchboard
