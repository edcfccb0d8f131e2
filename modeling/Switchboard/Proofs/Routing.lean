import Switchboard.Proofs.StoredSteps

/-!
# Routing of messages

Every message whose job is begun goes one way: to the step that its intake took from the store, else
to the first live command that accepts it, else to the bot (`Runner.Routes`). Only a matcher that
panics stops it before. Each job that is begun was made of an input of its own, and each step that is
resumed was stored by a move of its own, which nothing touched until the input took it
(`continuations_and_routing`).

The jobs that no worker has begun are followed by tickets. A ticket is the move that accepted the
input of such a job; a new job brings one with it, and the worker that begins the job takes it.
-/

namespace Switchboard

/-! ## Ways -/

/-- Whether an input goes one of its ways: to a step, to a command or to its bot. -/
def Happening.isRouting {κ : Type} : Happening κ → Bool
  | resumed .. | executed .. | responded .. => true
  | _ => false

/-- Whether a job is one of a message that no worker has begun. -/
def Work.isFresh {κ : Type} : Work κ → Bool
  | ⟨.converse .., .ready⟩ => true
  | _ => false

namespace Runner

variable {κ : Type} {r r' : Runner κ} {m : Move} {es : List (Happening κ)}

/-- The way of a message, given the step that was pending for it: what happens, and what becomes of
its job. -/
inductive Routes (r : Runner κ) (k : Nat) (i : Input) :
    Option (Step κ) → Option (Happening κ) → Option (Work κ) → Prop
  /-- The pending step is executed. -/
  | resume (step : Step κ) :
    Routes r k i (some step) (some (.resumed (r.botTypeOf k) i step))
      (some ⟨.converse k i (some step),
        .talking stepLabel r.now (.start r.now (r.language step.code (r.callOf k i)))⟩)
  /-- The first live command that accepts the message is executed. -/
  | execute (front back : List (Command κ)) (c : Command κ)
    (live : (r.workshop.registry.commandsOf (r.botTypeOf k)).commands = front ++ c :: back)
    (passed : ∀ d ∈ front, d.matcher.answer i = .ok false)
    (accepts : c.matcher.answer i = .ok true) :
    Routes r k i none (some (.executed (r.botTypeOf k) c.identifier i))
      (some ⟨.converse k i none,
        .talking c.identifier r.now (.start r.now (c.run (r.callOf k i)))⟩)
  /-- No live command accepts it, so the bot responds, and nothing is left to do. -/
  | respond (l : Lane κ) (lane : r.lanes[k]? = some l)
    (refused : ∀ c ∈ (r.workshop.registry.commandsOf (r.botTypeOf k)).commands,
      c.matcher.answer i = .ok false) :
    Routes r k i none (some (.responded (r.botTypeOf k) i (l.bot.respond i))) none
  /-- A matcher panics before a live command has accepted the message, and the job is given up. -/
  | searchPanics (front back : List (Command κ)) (c : Command κ) (m : String)
    (live : (r.workshop.registry.commandsOf (r.botTypeOf k)).commands = front ++ c :: back)
    (passed : ∀ d ∈ front, d.matcher.answer i = .ok false)
    (broken : c.matcher.answer i = .error m) :
    Routes r k i none none none

/-- No matcher of a live command panics on a message. -/
def IsCalm (r : Runner κ) (k : Nat) (i : Input) : Prop :=
  ∀ c ∈ (r.workshop.registry.commandsOf (r.botTypeOf k)).commands, ∀ m,
    c.matcher.answer i ≠ .error m

/-- Unless a matcher panics, a message goes one of the ways. -/
theorem Routes.isSome {k : Nat} {i : Input} {pending : Option (Step κ)} {e : Option (Happening κ)}
    {next : Option (Work κ)} (h : r.Routes k i pending e next) (calm : r.IsCalm k i) :
    e.isSome := by
  cases h with
  | searchPanics front back c m live passed broken =>
    exact absurd broken (calm c (live ▸ List.mem_append_right _ List.mem_cons_self) m)
  | _ => rfl

/-- A move begins the job of a message. -/
def Begins (r : Runner κ) (m : Move) (k : Nat) (i : Input) (pending : Option (Step κ)) : Prop :=
  ∃ n, m = .act (.worker n) ∧ r.pool.job? n = some ⟨.converse k i pending, .ready⟩

theorem Labour.routes {k : Nat} {i : Input} {pending : Option (Step κ)} {next : Option (Work κ)}
    {conversations : Conversations κ}
    (h : Labour r ⟨.converse k i pending, .ready⟩ next conversations es) :
    ∃ e, Routes r k i pending e next ∧ es.filter Happening.isRouting = e.toList := by
  have search := (r.workshop.registry.commandsOf (r.botTypeOf k)).search_spec i
  cases h with
  | resume _ _ step => exact ⟨_, .resume step, rfl⟩
  | execute _ _ c matched =>
    rw [matched] at search
    obtain ⟨-, ⟨⟩⟩ | ⟨front, d, back, live, passed, ⟨accepts, ⟨⟩⟩ | ⟨m, -, ⟨⟩⟩⟩ := search
    exact ⟨_, .execute front back c live passed accepts, rfl⟩
  | respond _ _ l lane unmatched =>
    rw [unmatched] at search
    obtain ⟨refused, -⟩ | ⟨front, d, back, -, -, ⟨-, ⟨⟩⟩ | ⟨m, -, ⟨⟩⟩⟩ := search
    have bot : r.botTypeOf k = l.botType := by
      rw [botTypeOf, lane]
      rfl
    refine ⟨_, .respond l lane refused, ?_⟩
    rw [bot]
    cases outcome : l.bot.respond i <;> rfl
  | searchPanics _ _ m broken =>
    rw [broken] at search
    obtain ⟨-, ⟨⟩⟩ | ⟨front, c, back, live, passed, ⟨-, ⟨⟩⟩ | ⟨m, panics, ⟨⟩⟩⟩ := search
    exact ⟨none, .searchPanics front back c m live passed panics, rfl⟩

/-- A job that was begun before goes no way. -/
theorem Labour.filter_isRouting {w : Work κ} {next : Option (Work κ)}
    {conversations : Conversations κ} (h : Labour r w next conversations es)
    (begun : w.isFresh = false) : es.filter Happening.isRouting = [] := by
  cases h <;> first | rfl | cases begun

/-- The job of a listing is sent and finished, and nothing else comes of it. -/
theorem Labour.of_deliver {k : Nat} {sender : String} {o : Output} {stage : Stage κ}
    {next : Option (Work κ)} {conversations : Conversations κ}
    (h : Labour r ⟨.deliver k sender o, stage⟩ next conversations es) :
    es.filter Happening.isRouting = [] ∧ conversations = r.conversations := by
  cases h <;> exact ⟨rfl, rfl⟩

theorem Labour.isFresh_eq_false {w v : Work κ} {conversations : Conversations κ}
    (h : Labour r w (some v) conversations es) : v.isFresh = false := by
  cases h with
  | send job => cases job <;> rfl
  | _ => rfl

/-- The jobs of messages that no worker has begun. -/
def fresh (r : Runner κ) : Multiset (Work κ) := r.works.filter fun w => w.isFresh = true

/-- A worker that is to begin the job of a message does. -/
theorem Begins.labour {k : Nat} {i : Input} {pending : Option (Step κ)}
    (h : r.Begins m k i pending) (orderly : r.IsOrderly) (fit : r.IsFit) :
    ∃ e next rest, Routes r k i pending e next ∧
      ((r.move m).trace.drop r.trace.length).filter Happening.isRouting = e.toList ∧
      r.works = ⟨.converse k i pending, .ready⟩ ::ₘ rest ∧
      (r.move m).works = next.elim 0 ({·}) + rest := by
  obtain ⟨n, rfl, hands⟩ := h
  have stepped : r.move (.act (.worker n)) = r.workerStep n := by
    have ready : able (.worker n) r = true := by
      show r.workerIsAble n = true
      rw [workerIsAble, hands]
      rfl
    rw [move, if_pos ready]
    rfl
  obtain ⟨-, next, conversations, es, rest, trace, labour, before, after, -⟩ :=
    effect_labour orderly fit hands rfl
  obtain ⟨e, routes, routing⟩ := labour.routes
  refine ⟨e, next, rest, routes, ?_, before, by rw [stepped, after]⟩
  rw [stepped, trace, List.drop_left, routing]

/-- What has gone its way has been begun. -/
theorem Routes.filter_isFresh {k : Nat} {i : Input} {pending : Option (Step κ)}
    {e : Option (Happening κ)} {next : Option (Work κ)} (h : r.Routes k i pending e next) :
    Multiset.filter (fun w => w.isFresh = true) (next.elim 0 ({·})) = 0 := by
  cases h <;> rfl

/-- A job that is begun is one less of those that are not. -/
theorem Begins.fresh {k : Nat} {i : Input} {pending : Option (Step κ)}
    (h : r.Begins m k i pending) (orderly : r.IsOrderly) (fit : r.IsFit) :
    r.fresh = ⟨.converse k i pending, .ready⟩ ::ₘ (r.move m).fresh := by
  obtain ⟨e, next, rest, routes, -, before, after⟩ := h.labour orderly fit
  rw [Runner.fresh, Runner.fresh, before, after, Multiset.filter_add, routes.filter_isFresh,
    zero_add]
  refine Multiset.filter_cons_of_pos _ ?_
  rfl

/-- What a move does to the jobs that no worker has begun, if it begins none. -/
theorem Effect.fresh_or (h : r.Effect m r' es)
    (other : ∀ k i pending, ¬ r.Begins m k i pending) :
    es.filter Happening.isRouting = [] ∧
      (r'.fresh ≤ r.fresh ∨ ∃ k i, es = [.accepted (r.botTypeOf k) i] ∧ i.kind = .message ∧
        r'.fresh =
          ⟨.converse k i (r.conversations.take r.now i.sender).1, .ready⟩ ::ₘ r.fresh) := by
  have same : r'.works = r.works → r'.fresh ≤ r.fresh := fun works => by rw [fresh, fresh, works]
  cases h with
  | quiet silent works =>
    refine ⟨List.filter_eq_nil_iff.mpr fun e he => ?_, .inl (same works)⟩
    have talk := silent e he
    cases e <;> simp_all [Happening.isTalk, Happening.isRouting]
  | drop _ works => exact ⟨rfl, .inl (Multiset.filter_le_filter _ works)⟩
  | sweep works => exact ⟨rfl, .inl (same works)⟩
  | abort _ _ _ works => exact ⟨rfl, .inl (same works)⟩
  | help k i _ _ works =>
    refine ⟨rfl, .inl ?_⟩
    rw [fresh, works, Multiset.filter_cons_of_neg _ (by simp [helpJob, Work.isFresh])]
    rfl
  | message k i kind _ works =>
    refine ⟨rfl, .inr ⟨k, i, rfl, kind, ?_⟩⟩
    rw [fresh, works]
    refine Multiset.filter_cons_of_pos _ ?_
    rfl
  | @labour _ n w next conversations _ rest hands done before after =>
    have begun : w.isFresh = false := by
      obtain ⟨job, stage⟩ := w
      cases job with
      | converse k i pending =>
        cases stage with
        | ready => exact absurd ⟨n, rfl, hands⟩ (other k i pending)
        | _ => rfl
      | _ => rfl
    refine ⟨done.filter_isRouting begun, .inl ?_⟩
    rw [fresh, fresh, before, after, Multiset.filter_add,
      Multiset.filter_cons_of_neg _ (by simp [begun])]
    cases next with
    | none => exact le_of_eq (zero_add _)
    | some v =>
      rw [Option.elim_some, Multiset.filter_singleton, done.isFresh_eq_false]
      exact le_of_eq (zero_add _)

end Runner

/-! ## Tickets -/

namespace RunnerPlan

variable {κ : Type} (p : RunnerPlan κ) (schedule : Nat → Runner.Move)

/-- A move accepts a message, and takes from the store what is pending for it. -/
structure AcceptsWith (a k : Nat) (i : Input) (pending : Option (Step κ)) : Prop where
  kind : i.kind = .message
  happens : p.start.happens schedule a = [.accepted (p.start.botTypeOf k) i]
  taken : pending = ((p.start.after schedule a).conversations.take
    (p.start.after schedule a).now i.sender).1

/-- A move begins the job of a message. -/
def Begins (m k : Nat) (i : Input) (pending : Option (Step κ)) : Prop :=
  (p.start.after schedule m).Begins (schedule m) k i pending

variable {p schedule}

/-- A move begins one job at most. -/
theorem Begins.unique {m k k' : Nat} {i i' : Input} {pending pending' : Option (Step κ)}
    (h : p.Begins schedule m k i pending) (h' : p.Begins schedule m k' i' pending') :
    k = k' ∧ i = i' ∧ pending = pending' := by
  obtain ⟨n, move, hands⟩ := h
  obtain ⟨n', move', hands'⟩ := h'
  rw [move] at move'
  cases move'
  rw [hands] at hands'
  cases hands'
  exact ⟨rfl, rfl, rfl⟩

variable (p schedule)

/-- The tickets of the jobs that no worker has begun before move `n`, and those that were taken. -/
structure Tickets (n : Nat) (accepted : Nat → Nat) (unused : Multiset (Nat × Work κ)) : Prop where
  valid : ∀ t ∈ unused, t.1 < n ∧
    ∃ k i pending, t.2 = ⟨.converse k i pending, .ready⟩ ∧ p.AcceptsWith schedule t.1 k i pending
  fresh : (p.start.after schedule n).fresh ≤ unused.map Prod.snd
  apart : (unused.map Prod.fst).Nodup
  taken : ∀ m < n, ∀ k i pending, p.Begins schedule m k i pending →
    accepted m < m ∧ p.AcceptsWith schedule (accepted m) k i pending
  used : ∀ m < n, ∀ k i pending, p.Begins schedule m k i pending →
    accepted m ∉ unused.map Prod.fst
  once : ∀ m < n, ∀ m' < n, ∀ k i pending k' i' pending', p.Begins schedule m k i pending →
    p.Begins schedule m' k' i' pending' → accepted m = accepted m' → m = m'

variable {p schedule} {n : Nat} {accepted : Nat → Nat} {unused : Multiset (Nat × Work κ)}

/-- A move that begins no job takes no ticket. -/
theorem Tickets.of_not_begins (h : p.Tickets schedule n accepted unused)
    (other : ∀ k i pending, ¬ p.Begins schedule n k i pending) :
    ∃ more, p.Tickets schedule (n + 1) accepted more := by
  have old : ∀ {m k i pending}, m < n + 1 → p.Begins schedule m k i pending → m < n := by
    intro m k i pending hm begins
    refine lt_of_le_of_ne (Nat.le_of_lt_succ hm) ?_
    rintro rfl
    exact other k i pending begins
  have taken : ∀ m < n + 1, ∀ k i pending, p.Begins schedule m k i pending →
      accepted m < m ∧ p.AcceptsWith schedule (accepted m) k i pending :=
    fun m hm k i pending begins => h.taken m (old hm begins) k i pending begins
  have once : ∀ m < n + 1, ∀ m' < n + 1, ∀ k i pending k' i' pending',
      p.Begins schedule m k i pending → p.Begins schedule m' k' i' pending' →
      accepted m = accepted m' → m = m' :=
    fun m hm m' hm' k i pending k' i' pending' begins begins' =>
      h.once m (old hm begins) m' (old hm' begins') k i pending k' i' pending' begins begins'
  have later : ∀ t ∈ unused, t.1 < n + 1 ∧ ∃ k i pending,
      t.2 = ⟨.converse k i pending, .ready⟩ ∧ p.AcceptsWith schedule t.1 k i pending :=
    fun t ht => ⟨(h.valid t ht).1.trans n.lt_succ_self, (h.valid t ht).2⟩
  obtain ⟨-, fewer | ⟨k, i, happens, kind, more⟩⟩ :=
    (p.effect_after schedule n).2.fresh_or other
  · exact ⟨unused, later, fewer.trans h.fresh, h.apart, taken,
      fun m hm k i pending begins => h.used m (old hm begins) k i pending begins, once⟩
  · -- The new job has the ticket `n`, which is none of the others.
    have new : ∀ a ∈ unused.map Prod.fst, a < n := by
      intro a ha
      obtain ⟨t, ht, rfl⟩ := Multiset.mem_map.mp ha
      exact (h.valid t ht).1
    rw [(Runner.isLater_after p.start schedule n.zero_le).botTypeOf k] at happens
    generalize pends : ((p.start.after schedule n).conversations.take
      (p.start.after schedule n).now i.sender).1 = pending at more
    refine ⟨(n, ⟨.converse k i pending, .ready⟩) ::ₘ unused, ?_, ?_, ?_, taken, ?_, once⟩
    · rw [Multiset.forall_mem_cons]
      exact ⟨⟨n.lt_succ_self, k, i, pending, rfl, kind, happens, pends.symm⟩, later⟩
    · rw [more, Multiset.map_cons]
      exact Multiset.cons_le_cons _ h.fresh
    · rw [Multiset.map_cons, Multiset.nodup_cons]
      exact ⟨fun mem => (new n mem).ne rfl, h.apart⟩
    · intro m hm k i pending begins
      have before := old hm begins
      rw [Multiset.map_cons, Multiset.mem_cons]
      rintro (same | mem)
      · exact absurd ((h.taken m before k i pending begins).1.trans before) (by simp [same])
      · exact h.used m before k i pending begins mem

/-- A move that begins a job takes its ticket. -/
theorem Tickets.of_begins (h : p.Tickets schedule n accepted unused) {k : Nat} {i : Input}
    {pending : Option (Step κ)} (begins : p.Begins schedule n k i pending) :
    ∃ used more, p.Tickets schedule (n + 1) used more := by
  obtain ⟨orderly, fit⟩ := p.isOrderly_after schedule n
  have fresh := Runner.Begins.fresh begins orderly fit
  have here : ⟨.converse k i pending, .ready⟩ ∈ unused.map Prod.snd :=
    Multiset.mem_of_le h.fresh (fresh ▸ Multiset.mem_cons_self _ _)
  obtain ⟨⟨a, w⟩, ht, rfl⟩ := Multiset.mem_map.mp here
  obtain ⟨rest, rfl⟩ := Multiset.exists_cons_of_mem ht
  obtain ⟨⟨earlier, k', i', pending', same, accepts⟩, valid⟩ := Multiset.forall_mem_cons.mp h.valid
  cases same
  have apart := h.apart
  rw [Multiset.map_cons, Multiset.nodup_cons] at apart
  have old : ∀ {m}, m < n → Function.update accepted n a m = accepted m := fun hm =>
    Function.update_of_ne hm.ne _ _
  -- Tickets that were taken before are not the one that is taken now.
  have differs : ∀ {m k i pending}, m < n → p.Begins schedule m k i pending → accepted m ≠ a := by
    rintro m k i pending hm begins rfl
    exact h.used m hm k i pending begins (by simp)
  refine ⟨Function.update accepted n a, rest, ?_, ?_, apart.2, ?_, ?_, ?_⟩
  · exact fun t ht => ⟨(valid t ht).1.trans n.lt_succ_self, (valid t ht).2⟩
  · have le := h.fresh
    rw [fresh, Multiset.map_cons] at le
    exact (Multiset.cons_le_cons_iff _).mp le
  · intro m hm k' i' pending' begins'
    rcases Nat.lt_succ_iff_lt_or_eq.mp hm with before | rfl
    · rw [old before]
      exact h.taken m before k' i' pending' begins'
    · obtain ⟨rfl, rfl, rfl⟩ := begins.unique begins'
      rw [Function.update_self]
      exact ⟨earlier, accepts⟩
  · intro m hm k' i' pending' begins'
    rcases Nat.lt_succ_iff_lt_or_eq.mp hm with before | rfl
    · rw [old before]
      intro mem
      exact h.used m before k' i' pending' begins' (by rw [Multiset.map_cons]; simp [mem])
    · rw [Function.update_self]
      exact apart.1
  · intro m hm m' hm' k₁ i₁ s₁ k₂ i₂ s₂ b₁ b₂ same
    rcases Nat.lt_succ_iff_lt_or_eq.mp hm with before | rfl
    · rcases Nat.lt_succ_iff_lt_or_eq.mp hm' with before' | rfl
      · rw [old before, old before'] at same
        exact h.once m before m' before' k₁ i₁ s₁ k₂ i₂ s₂ b₁ b₂ same
      · rw [old before, Function.update_self] at same
        exact absurd same (differs before b₁)
    · rcases Nat.lt_succ_iff_lt_or_eq.mp hm' with before' | rfl
      · rw [old before', Function.update_self] at same
        exact absurd same.symm (differs before' b₂)
      · rfl

theorem exists_tickets (p : RunnerPlan κ) (schedule : Nat → Runner.Move) (n : Nat) :
    ∃ accepted unused, p.Tickets schedule n accepted unused := by
  induction n with
  | zero =>
    refine ⟨id, 0, by simp, ?_, by simp, by simp, by simp, by simp⟩
    show p.start.fresh ≤ 0
    rw [Runner.fresh, p.works_start]
    exact le_rfl
  | succ n ih =>
    obtain ⟨accepted, unused, tickets⟩ := ih
    by_cases begins : ∃ k i pending, p.Begins schedule n k i pending
    · obtain ⟨k, i, pending, begins⟩ := begins
      exact tickets.of_begins begins
    · obtain ⟨more, tickets⟩ := tickets.of_not_begins fun k i pending h => begins ⟨k, i, pending, h⟩
      exact ⟨accepted, more, tickets⟩

/-! ## Whole runs -/

variable (p schedule)

/-- How inputs are routed before move `n`. For a move that begins the job of a message, `accepted`
gives the one that accepted the message, and `source` the one that stored the step that is resumed,
if one is. -/
structure IsRouted (n : Nat) (accepted source : Nat → Nat) : Prop where
  /-- A step is resumed for an input of its sender that was accepted after the step was stored and
  before it expired; nothing touched what was stored in between. -/
  resumed : ∀ m < n, ∀ bot i step, .resumed bot i step ∈ p.start.happens schedule m →
    accepted m < m ∧ p.start.happens schedule (accepted m) = [.accepted bot i] ∧
    i.kind = .message ∧
    ∃ c, c.sender = i.sender ∧ c.step = step ∧ p.IsKept schedule c (source m) (accepted m) ∧
      (p.start.after schedule (accepted m)).now <
        (p.start.after schedule (source m)).now + p.lifetimeOf step
  /-- What was stored by one move is resumed by one move at most. -/
  resumed_once : ∀ m < n, ∀ m' < n, ∀ bot i step bot' i' step',
    .resumed bot i step ∈ p.start.happens schedule m →
    .resumed bot' i' step' ∈ p.start.happens schedule m' → source m = source m' → m = m'
  /-- A message whose job is begun goes one way, unless a matcher panics on it, and to the step that
  it took if it took one. -/
  begun : ∀ m < n, ∀ k i pending, p.Begins schedule m k i pending →
    accepted m < m ∧ p.AcceptsWith schedule (accepted m) k i pending ∧
    ∃ e next rest, (p.start.after schedule m).Routes k i pending e next ∧
      (p.start.happens schedule m).filter Happening.isRouting = e.toList ∧
      ((p.start.after schedule m).IsCalm k i → e.isSome) ∧
      (p.start.after schedule m).works = ⟨.converse k i pending, .ready⟩ ::ₘ rest ∧
      (p.start.after schedule (m + 1)).works = next.elim 0 ({·}) + rest
  /-- Each job that is begun is that of another accepted message. -/
  begun_once : ∀ m < n, ∀ m' < n, ∀ k i pending k' i' pending', p.Begins schedule m k i pending →
    p.Begins schedule m' k' i' pending' → accepted m = accepted m' → m = m'
  /-- Nothing else goes any way. -/
  only_begun : ∀ m < n, (∀ k i pending, ¬ p.Begins schedule m k i pending) →
    (p.start.happens schedule m).filter Happening.isRouting = []
  /-- A request for help makes a job that sends the listing, and leaves the store as it is. -/
  help : ∀ m < n, ∀ bot i, .accepted bot i ∈ p.start.happens schedule m → i.kind = .help →
    p.start.happens schedule m = [.accepted bot i] ∧
    (p.start.after schedule (m + 1)).conversations = (p.start.after schedule m).conversations ∧
    ∃ k, (p.start.after schedule (m + 1)).works =
      ⟨(p.start.after schedule m).helpJob k i, .ready⟩ ::ₘ (p.start.after schedule m).works
  /-- Nothing but sending comes of such a job. -/
  listing : ∀ m < n, ∀ w k sender o stage, schedule m = .act (.worker w) →
    (p.start.after schedule m).pool.job? w = some ⟨.deliver k sender o, stage⟩ →
    (p.start.happens schedule m).filter Happening.isRouting = [] ∧
    (p.start.after schedule (m + 1)).conversations = (p.start.after schedule m).conversations
  /-- An abort makes no job. -/
  abort : ∀ m < n, ∀ bot i, .accepted bot i ∈ p.start.happens schedule m → i.kind = .abort →
    p.start.happens schedule m = [.accepted bot i] ∧
    (p.start.after schedule (m + 1)).conversations =
      (p.start.after schedule m).conversations.remove i.sender ∧
    (p.start.after schedule (m + 1)).works = (p.start.after schedule m).works

variable {p schedule}

/-- The step that a message took was stored by a move that comes before, and had not expired. -/
theorem AcceptsWith.exists_isKept {a k : Nat} {i : Input} {step : Step κ}
    (h : p.AcceptsWith schedule a k i (some step)) :
    ∃ s c, c.sender = i.sender ∧ c.step = step ∧ p.IsKept schedule c s a ∧
      (p.start.after schedule a).now < (p.start.after schedule s).now + p.lifetimeOf step := by
  obtain ⟨c, found, rfl⟩ := Option.map_eq_some_iff.mp h.taken.symm
  obtain ⟨stored, live⟩ := Option.filter_eq_some_iff.mp found
  obtain ⟨s, kept⟩ := p.exists_isKept schedule stored
  refine ⟨s, c, Conversations.sender_of_stored? stored, rfl, kept, ?_⟩
  have lasts : ¬ c.lifetime ≤ (p.start.after schedule a).now - c.since := by
    simpa [Conversation.isExpired] using live
  rw [kept.lifetime, kept.since] at lasts
  omega

/-- A step is resumed where a job is begun that took it. -/
theorem begins_of_resumed {m : Nat} {bot : BotType} {i : Input} {step : Step κ}
    (h : .resumed bot i step ∈ p.start.happens schedule m) :
    ∃ k, p.Begins schedule m k i (some step) ∧ bot = p.start.botTypeOf k := by
  have routing : .resumed bot i step ∈ (p.start.happens schedule m).filter Happening.isRouting :=
    List.mem_filter.mpr ⟨h, rfl⟩
  by_cases begins : ∃ k i pending, p.Begins schedule m k i pending
  · obtain ⟨k, i', pending, begins⟩ := begins
    obtain ⟨orderly, fit⟩ := p.isOrderly_after schedule m
    obtain ⟨e, next, rest, routes, alone, -⟩ := Runner.Begins.labour begins orderly fit
    have same : (p.start.happens schedule m).filter Happening.isRouting = e.toList := alone
    rw [same, Option.mem_toList] at routing
    rw [routing] at routes
    cases routes
    exact ⟨k, begins, (Runner.isLater_after p.start schedule m.zero_le).botTypeOf k⟩
  · have none := ((p.effect_after schedule m).2.fresh_or fun k i pending h =>
      begins ⟨k, i, pending, h⟩).1
    rw [none] at routing
    cases routing

/-- Two moves that take what one move has stored are the same. -/
theorem IsKept.unique {c c' : Conversation κ} {s a a' k k' : Nat} {i i' : Input}
    {pending pending' : Option (Step κ)} (kept : p.IsKept schedule c s a)
    (kept' : p.IsKept schedule c' s a') (sender : c.sender = i.sender)
    (sender' : c'.sender = i'.sender) (accepts : p.AcceptsWith schedule a k i pending)
    (accepts' : p.AcceptsWith schedule a' k' i' pending') : a = a' := by
  have same : c.sender = c'.sender := by
    have stored := kept.stored.symm.trans kept'.stored
    simp only [List.cons.injEq, Happening.stored.injEq] at stored
    exact stored.1.1
  -- An accepted message touches what is stored for its sender.
  have touching : ∀ {b k i pending}, p.AcceptsWith schedule b k i pending →
      ∀ {d : Conversation κ} {t : Nat}, p.IsKept schedule d s t → d.sender = i.sender → s < b →
        t ≤ b := by
    intro b k i pending accepts d t kept sender after
    by_contra before
    have untouched := kept.untouched b after (not_le.mp before) (.accepted (p.start.botTypeOf k) i)
      (by rw [accepts.happens]; exact List.mem_singleton_self _)
    simp [Happening.touches, accepts.kind, sender] at untouched
  exact le_antisymm (touching accepts' kept (same.trans sender') kept'.earlier)
    (touching accepts kept' (same.symm.trans sender) kept.earlier)

/-- Accepted inputs that are no messages. -/
theorem accepted_spec {m : Nat} {bot : BotType} {i : Input}
    (h : .accepted bot i ∈ p.start.happens schedule m) (kind : i.kind ≠ .message) :
    p.start.happens schedule m = [.accepted bot i] ∧
      (i.kind = .help →
        (p.start.after schedule (m + 1)).conversations = (p.start.after schedule m).conversations ∧
        ∃ k, (p.start.after schedule (m + 1)).works =
          ⟨(p.start.after schedule m).helpJob k i, .ready⟩ ::ₘ (p.start.after schedule m).works) ∧
      (i.kind = .abort →
        (p.start.after schedule (m + 1)).conversations =
          (p.start.after schedule m).conversations.remove i.sender ∧
        (p.start.after schedule (m + 1)).works = (p.start.after schedule m).works) := by
  have effect := (p.effect_after schedule m).2
  generalize p.start.happens schedule m = es at h effect ⊢
  generalize schedule m = move at effect
  cases effect with
  | quiet silent => exact absurd (silent _ h) (by simp [Happening.isTalk])
  | drop => cases h
  | sweep => cases h
  | abort k j kind' works conversations =>
    cases List.mem_singleton.mp h
    refine ⟨rfl, fun help => ?_, fun _ => ⟨conversations, works⟩⟩
    rw [kind'] at help
    cases help
  | help k j kind' _ works conversations =>
    cases List.mem_singleton.mp h
    refine ⟨rfl, fun _ => ⟨conversations, k, works⟩, fun abort => ?_⟩
    rw [kind'] at abort
    cases abort
  | message k j kind' =>
    cases List.mem_singleton.mp h
    exact absurd kind' kind
  | labour _ _ done =>
    have silent := done.not_accepted bot i
    exact absurd h silent

/-- The job of a listing goes no way and leaves the store as it is. -/
theorem listing_spec {m w k : Nat} {sender : String} {o : Output} {stage : Stage κ}
    (move : schedule m = .act (.worker w))
    (hands : (p.start.after schedule m).pool.job? w = some ⟨.deliver k sender o, stage⟩) :
    (p.start.happens schedule m).filter Happening.isRouting = [] ∧
      (p.start.after schedule (m + 1)).conversations =
        (p.start.after schedule m).conversations := by
  obtain ⟨orderly, fit⟩ := p.isOrderly_after schedule m
  obtain ⟨-, next, conversations, es, rest, trace, labour, -, -, stored⟩ :=
    Runner.effect_labour orderly fit hands rfl
  obtain ⟨silent, same⟩ := labour.of_deliver
  by_cases able : Runner.able (.worker w) (p.start.after schedule m) = true
  · have stepped : p.start.after schedule (m + 1) = (p.start.after schedule m).workerStep w := by
      show (p.start.after schedule m).move (schedule m) = _
      rw [move, Runner.move, if_pos able]
      rfl
    refine ⟨?_, by rw [stepped, stored, same]⟩
    rw [Runner.happens, stepped, trace, List.drop_left, silent]
  · have stayed : p.start.after schedule (m + 1) = p.start.after schedule m := by
      show (p.start.after schedule m).move (schedule m) = _
      rw [move, Runner.move, if_neg able]
    refine ⟨?_, by rw [stayed]⟩
    rw [Runner.happens, stayed, List.drop_length]
    rfl

/-- Each step that is resumed has the move that stored it. -/
theorem Tickets.exists_source (h : p.Tickets schedule n accepted unused) :
    ∃ source : Nat → Nat, ∀ m < n, ∀ bot i step,
      .resumed bot i step ∈ p.start.happens schedule m →
      ∃ c, c.sender = i.sender ∧ c.step = step ∧ p.IsKept schedule c (source m) (accepted m) ∧
        (p.start.after schedule (accepted m)).now <
          (p.start.after schedule (source m)).now + p.lifetimeOf step := by
  have each : ∀ m, ∃ s, m < n → ∀ bot i step,
      .resumed bot i step ∈ p.start.happens schedule m →
      ∃ c, c.sender = i.sender ∧ c.step = step ∧ p.IsKept schedule c s (accepted m) ∧
        (p.start.after schedule (accepted m)).now <
          (p.start.after schedule s).now + p.lifetimeOf step := by
    intro m
    by_cases resumes : m < n ∧ ∃ bot i step, .resumed bot i step ∈ p.start.happens schedule m
    · obtain ⟨hm, bot, i, step, resumed⟩ := resumes
      obtain ⟨k, begins, -⟩ := begins_of_resumed resumed
      obtain ⟨s, c, source⟩ := (h.taken m hm k i _ begins).2.exists_isKept
      refine ⟨s, fun _ bot' i' step' resumed' => ?_⟩
      -- Nothing else is resumed by this move.
      obtain ⟨k', begins', -⟩ := begins_of_resumed resumed'
      obtain ⟨-, rfl, same⟩ := begins.unique begins'
      cases same
      exact ⟨c, source⟩
    · exact ⟨0, fun hm bot i step resumed => absurd ⟨hm, bot, i, step, resumed⟩ resumes⟩
  choose source hsource using each
  exact ⟨source, hsource⟩

/-- In every run, a stored step is resumed at most once, by an input of its sender that came in its
time, and every message whose job is begun goes exactly one way unless a matcher panics on it. -/
theorem continuations_and_routing (p : RunnerPlan κ) (schedule : Nat → Runner.Move) (n : Nat) :
    ∃ accepted source, p.IsRouted schedule n accepted source := by
  obtain ⟨accepted, unused, tickets⟩ := p.exists_tickets schedule n
  obtain ⟨source, hsource⟩ := tickets.exists_source
  refine ⟨accepted, source, ?_, ?_, ?_, tickets.once, ?_, ?_, ?_, ?_⟩
  · intro m hm bot i step resumed
    obtain ⟨k, begins, rfl⟩ := begins_of_resumed resumed
    obtain ⟨earlier, accepts⟩ := tickets.taken m hm k i _ begins
    exact ⟨earlier, accepts.happens, accepts.kind, hsource m hm _ i step resumed⟩
  · intro m hm m' hm' bot i step bot' i' step' resumed resumed' same
    obtain ⟨k, begins, -⟩ := begins_of_resumed resumed
    obtain ⟨k', begins', -⟩ := begins_of_resumed resumed'
    obtain ⟨c, sender, -, kept, -⟩ := hsource m hm bot i step resumed
    obtain ⟨c', sender', -, kept', -⟩ := hsource m' hm' bot' i' step' resumed'
    rw [← same] at kept'
    refine tickets.once m hm m' hm' k i _ k' i' _ begins begins' ?_
    exact kept.unique kept' sender sender' (tickets.taken m hm k i _ begins).2
      (tickets.taken m' hm' k' i' _ begins').2
  · intro m hm k i pending begins
    obtain ⟨orderly, fit⟩ := p.isOrderly_after schedule m
    obtain ⟨earlier, accepts⟩ := tickets.taken m hm k i pending begins
    obtain ⟨e, next, rest, routes, alone, works⟩ := Runner.Begins.labour begins orderly fit
    exact ⟨earlier, accepts, e, next, rest, routes, alone, routes.isSome, works⟩
  · exact fun m _ other => ((p.effect_after schedule m).2.fresh_or other).1
  · intro m _ bot i accepts kind
    obtain ⟨alone, help, -⟩ := accepted_spec accepts (by simp [kind])
    exact ⟨alone, help kind⟩
  · exact fun m _ w k sender o stage move hands => listing_spec move hands
  · intro m _ bot i accepts kind
    obtain ⟨alone, -, abort⟩ := accepted_spec accepts (by simp [kind])
    exact ⟨alone, abort kind⟩

end RunnerPlan

end Switchboard
