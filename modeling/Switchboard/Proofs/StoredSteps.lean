import Switchboard.Proofs.Effects
import Switchboard.Proofs.StoreRoom

/-!
# Stored steps along a run

What is stored for a sender was put there by one move of the run, and since then nothing has touched
it: no input of the sender was accepted that takes or drops it, and no other step was stored in its
place (`RunnerPlan.IsKept`). Every entry of the store is such a one (`exists_isKept`).
-/

namespace Switchboard

/-! ## One move -/

/-- Whether a happening takes, drops or replaces what is stored for a sender. -/
def Happening.touches {κ : Type} (x : String) : Happening κ → Bool
  | accepted _ i => i.sender == x && i.kind != .help
  | stored sender _ => sender == x
  | _ => false

namespace Runner

variable {κ : Type} {r r' : Runner κ} {m : Move} {es : List (Happening κ)}

theorem touches_of_not_isTalk {e : Happening κ} (silent : e.isTalk = false) (x : String) :
    e.touches x = false := by
  cases e <;> first | rfl | cases silent

/-- What a worker does to the store, and to its entries. -/
theorem Labour.stored_or {w : Work κ} {next : Option (Work κ)} {conversations : Conversations κ}
    (h : Labour r w next conversations es) :
    conversations = r.conversations ∧ (∀ x, ∀ e ∈ es, e.touches x = false) ∨
      ∃ x step, es = [.stored x step] ∧ conversations = r.conversations.insert r.now x step := by
  cases h with
  | store k i pending label since e t step ended next => exact .inr ⟨_, _, rfl, rfl⟩
  | respond k i l =>
    refine .inl ⟨rfl, fun x e he => ?_⟩
    rcases List.mem_cons.mp he with rfl | he
    · rfl
    · cases outcome : l.bot.respond i with
      | done u => simp [outcome, panicOf] at he
      | failed c => simp [outcome, panicOf] at he
      | panicked m =>
        rw [outcome] at he
        rw [List.mem_singleton.mp he]
        rfl
  | sendPanics =>
    refine .inl ⟨rfl, fun x e he => ?_⟩
    rcases List.mem_cons.mp he with rfl | he
    · rfl
    · rw [List.mem_singleton.mp he]
      rfl
  | deliver | wait | conclude | finish => exact .inl ⟨rfl, by simp⟩
  | resume | execute | fail | panic | searchPanics | send =>
    refine .inl ⟨rfl, fun x e he => ?_⟩
    rw [List.mem_singleton.mp he]
    rfl

/-- What a move does to the store. -/
theorem Effect.isKeyed (h : r.Effect m r' es) (keyed : r.conversations.IsKeyed) :
    r'.conversations.IsKeyed ∧ r'.conversations.lifetime = r.conversations.lifetime := by
  cases h with
  | quiet _ _ same => exact ⟨same ▸ keyed, by rw [same]⟩
  | drop _ _ same => exact ⟨same ▸ keyed, by rw [same]⟩
  | help _ _ _ _ _ same => exact ⟨same ▸ keyed, by rw [same]⟩
  | sweep _ purged =>
    rw [purged]
    exact ⟨keyed.of_sublist (Conversations.sublist_purge _ _), rfl⟩
  | abort _ _ _ _ removed =>
    rw [removed]
    exact ⟨keyed.of_sublist (Conversations.sublist_remove _ _), rfl⟩
  | message _ _ _ _ _ taken =>
    rw [taken]
    exact ⟨keyed.of_sublist (Conversations.sublist_remove _ _), rfl⟩
  | labour _ _ done _ _ stored =>
    rw [stored]
    rcases done.stored_or with ⟨same, -⟩ | ⟨x, step, -, inserted⟩
    · exact ⟨same ▸ keyed, by rw [same]⟩
    · rw [inserted]
      exact ⟨keyed.insert _ _ _, Conversations.lifetime_insert _ _ _ _⟩

/-- What is stored for a sender after a move was so before, and is untouched, or is stored by it. -/
theorem Effect.stored?_or (h : r.Effect m r' es) (keyed : r.conversations.IsKeyed) {x : String}
    {c : Conversation κ} (found : r'.conversations.stored? x = some c) :
    (r.conversations.stored? x = some c ∧ ∀ e ∈ es, e.touches x = false) ∨
      (es = [.stored x c.step] ∧
        c = ⟨x, c.step, r.now, c.step.ttl.getD r.conversations.lifetime⟩) := by
  cases h with
  | quiet silent _ same =>
    exact .inl ⟨same ▸ found, fun e he => touches_of_not_isTalk (silent e he) x⟩
  | drop _ _ same => exact .inl ⟨same ▸ found, by simp⟩
  | help k i kind _ _ same => exact .inl ⟨same ▸ found, by simp [Happening.touches, kind]⟩
  | sweep _ purged =>
    rw [purged] at found
    exact .inl ⟨keyed.stored?_of_sublist (Conversations.sublist_purge _ _) found, by simp⟩
  | abort k i _ _ removed =>
    rw [removed] at found
    have apart : x ≠ i.sender := by
      rintro rfl
      rw [Conversations.stored?_remove_self] at found
      cases found
    rw [Conversations.stored?_remove_of_ne _ apart] at found
    exact .inl ⟨found, by simp [Happening.touches, apart.symm]⟩
  | message k i _ _ _ taken =>
    rw [taken, Conversations.take] at found
    have apart : x ≠ i.sender := by
      rintro rfl
      rw [Conversations.stored?_remove_self] at found
      cases found
    rw [Conversations.stored?_remove_of_ne _ apart] at found
    exact .inl ⟨found, by simp [Happening.touches, apart.symm]⟩
  | labour _ _ done _ _ stored =>
    rw [stored] at found
    rcases done.stored_or with ⟨same, untouched⟩ | ⟨y, step, rfl, inserted⟩
    · exact .inl ⟨same ▸ found, untouched x⟩
    · rw [inserted] at found
      by_cases same : x = y
      · subst same
        rw [Conversations.stored?_insert_self] at found
        cases found
        exact .inr ⟨rfl, rfl⟩
      · rw [Conversations.stored?_insert_of_ne _ _ same] at found
        refine .inl ⟨keyed.stored?_of_sublist (Conversations.sublist_makeRoom _ _ _) found, ?_⟩
        simp [Happening.touches, Ne.symm same]

/-- What is stored for a sender stays there if it is not touched, unless it has expired. -/
theorem Effect.stored?_eq_or (h : r.Effect m r' es) (keyed : r.conversations.IsKeyed) {x : String}
    {c : Conversation κ} (found : r.conversations.stored? x = some c)
    (untouched : ∀ e ∈ es, e.touches x = false)
    (roomy : ∀ y step, .stored y step ∈ es → c.isExpired r.now = false →
      (r.conversations.makeRoom r.now y).stored? x = some c) :
    r'.conversations.stored? x = some c ∨
      r'.conversations.stored? x = none ∧ c.isExpired r.now = true := by
  cases h with
  | quiet _ _ same => exact .inl (same ▸ found)
  | drop _ _ same => exact .inl (same ▸ found)
  | help _ _ _ _ _ same => exact .inl (same ▸ found)
  | sweep _ purged =>
    rw [purged, Conversations.stored?_purge keyed, found]
    cases expired : c.isExpired r.now with
    | true => exact .inr ⟨by simp [Option.filter, expired], rfl⟩
    | false => exact .inl (by simp [Option.filter, expired])
  | abort k i kind _ removed =>
    have apart : i.sender ≠ x := by simpa [Happening.touches, kind] using untouched
    rw [removed, Conversations.stored?_remove_of_ne _ apart.symm]
    exact .inl found
  | message k i kind _ _ taken =>
    have apart : i.sender ≠ x := by simpa [Happening.touches, kind] using untouched
    rw [taken, Conversations.take, Conversations.stored?_remove_of_ne _ apart.symm]
    exact .inl found
  | labour _ _ done _ _ stored =>
    rw [stored]
    rcases done.stored_or with ⟨same, -⟩ | ⟨y, step, rfl, inserted⟩
    · exact .inl (same ▸ found)
    · have apart : y ≠ x := by simpa [Happening.touches] using untouched
      rw [inserted, Conversations.stored?_insert_of_ne _ _ apart.symm]
      cases expired : c.isExpired r.now with
      | false => exact .inl (roomy y step (List.mem_singleton_self _) expired)
      | true =>
        cases room : (r.conversations.makeRoom r.now y).stored? x with
        | none => exact .inr ⟨rfl, rfl⟩
        | some d =>
          have old := keyed.stored?_of_sublist (Conversations.sublist_makeRoom _ _ _) room
          exact .inl (old.symm.trans found)

end Runner

/-! ## Runs -/

namespace RunnerPlan

variable {κ : Type} (p : RunnerPlan κ) (schedule : Nat → Runner.Move)

/-- How long a step lives. -/
def lifetimeOf (step : Step κ) : Nat :=
  step.ttl.getD (p.settings.conversation.ttlSeconds * 1000)

/-- An entry of the store that was stored by move `s`, and untouched before move `n`. -/
structure IsKept (c : Conversation κ) (s n : Nat) : Prop where
  earlier : s < n
  stored : p.start.happens schedule s = [.stored c.sender c.step]
  since : c.since = (p.start.after schedule s).now
  lifetime : c.lifetime = p.lifetimeOf c.step
  kept : ∀ j, s < j → j ≤ n → (p.start.after schedule j).conversations.stored? c.sender = some c
  untouched : ∀ j, s < j → j < n → ∀ e ∈ p.start.happens schedule j, e.touches c.sender = false

theorem isKeyed_after (n : Nat) :
    (p.start.after schedule n).conversations.IsKeyed ∧
      (p.start.after schedule n).conversations.lifetime =
        p.settings.conversation.ttlSeconds * 1000 := by
  induction n with
  | zero =>
    show p.start.conversations.IsKeyed ∧ p.start.conversations.lifetime = _
    rw [p.start_spec.2.2.1]
    exact ⟨List.nodup_nil, rfl⟩
  | succ n ih =>
    obtain ⟨keyed, lifetime⟩ := (p.effect_after schedule n).2.isKeyed ih.1
    exact ⟨keyed, lifetime.trans ih.2⟩

/-- Every entry of the store was stored by some move and untouched since then. -/
theorem exists_isKept {n : Nat} {x : String} {c : Conversation κ}
    (found : (p.start.after schedule n).conversations.stored? x = some c) :
    ∃ s, p.IsKept schedule c s n := by
  induction n generalizing x c with
  | zero =>
    rw [Runner.after, p.start_spec.2.2.1] at found
    cases found
  | succ n ih =>
    obtain ⟨keyed, lifetime⟩ := p.isKeyed_after schedule n
    obtain rfl := Conversations.sender_of_stored? found
    rcases (p.effect_after schedule n).2.stored?_or keyed found with
      ⟨old, untouched⟩ | ⟨happens, new⟩
    · obtain ⟨s, kept⟩ := ih old
      refine ⟨s, kept.earlier.trans n.lt_succ_self, kept.stored, kept.since, kept.lifetime, ?_, ?_⟩
      · intro j after upTo
        rcases Nat.lt_succ_iff_lt_or_eq.mp (Nat.lt_succ_of_le upTo) with earlier | rfl
        · exact kept.kept j after (Nat.le_of_lt_succ earlier)
        · exact found
      · intro j after before
        rcases Nat.lt_succ_iff_lt_or_eq.mp before with earlier | rfl
        · exact kept.untouched j after earlier
        · exact untouched
    · rw [lifetime] at new
      refine ⟨n, n.lt_succ_self, happens, by rw [new], by rw [new]; rfl, ?_, ?_⟩
      · intro j after upTo
        obtain rfl : j = n + 1 := by omega
        exact found
      · intro j after before
        omega

end RunnerPlan

end Switchboard
