import Switchboard.Proofs.StoreHistories

/-!
# The store is a timed map

What a history leaves for a sender is what its last insertion stored, as long as nothing has ended
it since: no taking, no removing, and no eviction (`IsLeft`). The entries of the store are such ones
(`isLeft_of_mem`), and of such ones the unexpired are there (`stored?_of_isLeft`). So after every
history the store is such a map (`IsTimedMap`): it says which steps can be taken, and what each deed
did to unexpired ones.
-/

namespace Switchboard

namespace Occurrence

variable {κ : Type}

/-- An insertion drops an unexpired step of a sender: it was there before and is not after it. -/
def Evicts (o : Occurrence κ) (x : String) : Prop :=
  o.deed.isInsertion = true ∧ o.after.store.stored? x = none ∧
    ∃ c, o.before.store.stored? x = some c ∧ c.isExpired o.before.now = false

/-- After this, what was stored for a sender before is there no more. -/
def Ends (o : Occurrence κ) (x : String) : Prop :=
  o.deed = .take x ∨ o.deed = .remove x ∨ (∃ step, o.deed = .insert x step) ∨ o.Evicts x

/-- The steps that have not expired before a deed. -/
def live (o : Occurrence κ) : List (Conversation κ) := o.before.store.live o.before.now

/-- What an insertion for a sender does to the unexpired steps of others, where at most so many
steps are kept. -/
structure MakesRoom (o : Occurrence κ) (x : String) (most : Nat) : Prop where
  /-- It loses none of them if it finds a step of the sender, or fewer unexpired ones. -/
  keeps : ¬(o.before.store.stored? x = none ∧ o.live.length = most) →
    ∀ d ∈ o.live, d.sender ≠ x → d ∈ o.after.store.entries
  /-- Otherwise it loses exactly one, which is one of the oldest. -/
  evicts : o.before.store.stored? x = none → o.live.length = most →
    ∃ c ∈ o.live, (∀ d ∈ o.live, c.since ≤ d.since) ∧ c ∉ o.after.store.entries ∧
      ∀ d ∈ o.live, d ≠ c → d ∈ o.after.store.entries

/-- What is taken away by a deed ends by it. -/
theorem ends_of_drops {o : Occurrence κ} {x : String} (h : o.deed.drops x = true) : o.Ends x := by
  unfold Deed.drops at h
  split at h
  · next y deed => exact .inl (by rw [deed, beq_iff_eq.mp h])
  · next y deed => exact .inr (.inl (by rw [deed, beq_iff_eq.mp h]))
  · cases h

end Occurrence

section

variable {κ : Type}

/-- What a history leaves for a sender: the step of its last insertion, which nothing has ended. -/
def IsLeft (past : List (Occurrence κ)) (x : String) (step : Step κ) (since : Nat) : Prop :=
  ∃ earlier o later, past = earlier ++ o :: later ∧ o.deed = .insert x step ∧
    o.before.now = since ∧ ∀ l ∈ later, ¬ l.Ends x

/-- What a history leaves that has not expired. A step that says nothing of its lifetime has that of
the store. -/
def Pends (past : List (Occurrence κ)) (lifetime now : Nat) (x : String) (step : Step κ) : Prop :=
  ∃ since, IsLeft past x step since ∧ now < since + step.ttl.getD lifetime

variable {past : List (Occurrence κ)} {o : Occurrence κ} {x : String} {step : Step κ} {since : Nat}

theorem IsLeft.snoc (h : IsLeft past x step since) (kept : ¬ o.Ends x) :
    IsLeft (past ++ [o]) x step since := by
  obtain ⟨earlier, i, later, rfl, deed, time, quiet⟩ := h
  refine ⟨earlier, i, later ++ [o], by simp, deed, time, fun l hl => ?_⟩
  rcases List.mem_append.mp hl with old | new
  · exact quiet l old
  · rwa [List.mem_singleton.mp new]

/-- What is left after one more deed was inserted by it or is left by the others. -/
theorem IsLeft.of_snoc (h : IsLeft (past ++ [o]) x step since) :
    o.deed = .insert x step ∧ o.before.now = since ∨ ¬ o.Ends x ∧ IsLeft past x step since := by
  obtain ⟨earlier, i, later, split, deed, time, quiet⟩ := h
  rcases List.eq_nil_or_concat later with rfl | ⟨front, l, rfl⟩
  · obtain ⟨-, same⟩ := List.append_inj' split rfl
    cases same
    exact .inl ⟨deed, time⟩
  · rw [List.concat_eq_append, ← List.cons_append, ← List.append_assoc] at split
    obtain ⟨rfl, same⟩ := List.append_inj' split rfl
    cases same
    exact .inr ⟨quiet o (by simp), earlier, i, front, rfl, deed, time,
      fun l hl => quiet l (by simp [hl])⟩

end

namespace History

open SweptConversations

variable {κ : Type} {lifetime limit : Nat} {past : List (Occurrence κ)} {t : SweptConversations κ}

/-- Each entry of the store is what is left for its sender. -/
theorem isLeft_of_mem (h : History (.ofSize lifetime limit) past t) :
    ∀ c ∈ t.store.entries,
      IsLeft past c.sender c.step c.since ∧ c.lifetime = c.step.ttl.getD lifetime := by
  induction h with
  | nil => simp [ofSize]
  | @snoc past s t d h does ih =>
    obtain ⟨sound, -⟩ := h.isSound
    intro c hc
    have stored : t.store.stored? c.sender = some c :=
      (sound.does does).keyed.stored?_eq_some.mpr ⟨hc, rfl⟩
    have spared : ¬ (⟨s, d, t⟩ : Occurrence κ).Evicts c.sender := by
      rintro ⟨-, gone, -⟩
      rw [stored] at gone
      cases gone
    cases does with
    | insertion x step room makes =>
      rcases List.mem_append.mp hc with old | new
      · obtain ⟨kept, apart⟩ := List.mem_filter.mp old
        have apart : c.sender ≠ x := by simpa using apart
        obtain ⟨left, lives⟩ := ih c (makes.sublist.subset kept)
        refine ⟨left.snoc ?_, lives⟩
        simp [Occurrence.Ends, spared, apart.symm]
      · rw [List.mem_singleton.mp new]
        refine ⟨⟨past, _, [], rfl, rfl, rfl, by simp⟩, ?_⟩
        rw [makes.lifetime, sound.lifetime]
    | other _ other =>
      have thinned := s.isThinned_perform other
      obtain ⟨left, lives⟩ := ih c (thinned.sublist.subset hc)
      refine ⟨left.snoc ?_, lives⟩
      have untouched := thinned.gone c hc
      rintro (deed | deed | ⟨step, deed⟩ | evicts)
      · simp [show d = _ from deed, Deed.drops] at untouched
      · simp [show d = _ from deed, Deed.drops] at untouched
      · rw [show d = _ from deed] at other
        cases other
      · exact spared evicts

/-- What is left for a sender is in the store, unless it has expired. -/
theorem stored?_of_isLeft (h : History (.ofSize lifetime limit) past t) {x : String} {step : Step κ}
    {since : Nat} (left : IsLeft past x step since)
    (young : t.now < since + step.ttl.getD lifetime) :
    t.store.stored? x = some ⟨x, step, since, step.ttl.getD lifetime⟩ := by
  induction h with
  | nil =>
    obtain ⟨earlier, o, later, split, -⟩ := left
    simp at split
  | @snoc past s t d h does ih =>
    obtain ⟨sound, -⟩ := h.isSound
    rcases left.of_snoc with ⟨deed, rfl⟩ | ⟨kept, left⟩
    · cases does with
      | insertion y step' room makes =>
        cases deed
        rw [Conversations.stored?_put_self, makes.lifetime, sound.lifetime]
      | other _ other =>
        rw [show d = _ from deed] at other
        cases other
    · have before := ih left (does.now_le.trans_lt young)
      obtain ⟨mem, -⟩ := sound.keyed.stored?_eq_some.mp before
      have sinceLe : since ≤ s.now := sound.past _ mem
      have live : ∀ now, s.now ≤ now → now ≤ t.now →
          (⟨x, step, since, step.ttl.getD lifetime⟩ : Conversation κ).isExpired now = false :=
        fun now from' upTo => (Conversation.isExpired_eq_false (sinceLe.trans from')).mpr
          (upTo.trans_lt young)
      have keyed := (sound.does does).keyed
      cases does with
      | insertion y step' room makes =>
        have apart : x ≠ y := by
          rintro rfl
          exact kept (.inr (.inr (.inl ⟨step', rfl⟩)))
        have after : (room.put s.now y step').stored? x = room.stored? x :=
          Conversations.stored?_put_of_ne _ _ apart _
        show (room.put s.now y step').stored? x = _
        cases found : room.stored? x with
        | none =>
          exact absurd (.inr (.inr (.inr ⟨rfl, after.trans found, _, before,
            live _ le_rfl le_rfl⟩))) kept
        | some c =>
          rw [after, found, ← before]
          exact (sound.keyed.stored?_of_sublist makes.sublist found).symm
      | other _ other =>
        have thinned := s.isThinned_perform other
        have untouched : d.drops x = false := by
          cases drops : d.drops x with
          | false => rfl
          | true => exact absurd (Occurrence.ends_of_drops drops) kept
        have alive : (⟨x, step, since, step.ttl.getD lifetime⟩ : Conversation κ) ∈
            (s.perform d).store.live (s.perform d).now := by
          rw [thinned.live]
          refine List.mem_filter.mpr ⟨?_, by simp [untouched]⟩
          exact Conversations.mem_live.mpr ⟨mem, live _ thinned.now le_rfl⟩
        exact keyed.stored?_eq_some.mpr ⟨(Conversations.mem_live.mp alive).1, rfl⟩

/-- An insertion keeps the unexpired steps of others, but for one of the oldest. -/
theorem makesRoom {s : SweptConversations κ} (sound : s.IsSound lifetime limit) {x : String}
    {step : Step κ} (does : s.Does (.insert x step) t) :
    (⟨s, .insert x step, t⟩ : Occurrence κ).MakesRoom x (max limit 1) := by
  cases does with
  | other _ other => cases other
  | insertion _ _ room makes =>
    have capacity : s.store.capacity = max limit 1 := by
      rw [Conversations.capacity, sound.limit]
    have kept : ∀ d ∈ room.live s.now, d.sender ≠ x → d ∈ (room.put s.now x step).entries := by
      intro d hd apart
      refine List.mem_append_left _ (List.mem_filter.mpr ⟨(Conversations.mem_live.mp hd).1, ?_⟩)
      simpa using apart
    rw [← capacity]
    rcases makes.live_or sound.bounded with ⟨roomy, same⟩ | ⟨crowded, c, mem, oldest, rest⟩
    · refine ⟨fun _ d hd => kept d (same ▸ hd), fun absent full => ?_⟩
      exact absurd ⟨absent, full⟩ roomy
    · refine ⟨fun roomy => absurd crowded roomy, fun absent _ => ⟨c, mem, oldest, ?_, ?_⟩⟩
      · intro there
        rcases List.mem_append.mp there with old | new
        · have alive : c ∈ room.live s.now := Conversations.mem_live.mpr
            ⟨(List.mem_filter.mp old).1, (Conversations.mem_live.mp mem).2⟩
          rw [rest] at alive
          simpa using (List.mem_filter.mp alive).2
        · refine Conversations.stored?_eq_none.mp absent c (Conversations.mem_live.mp mem).1 ?_
          rw [List.mem_singleton.mp new]
      · intro d hd apart
        have others := Conversations.stored?_eq_none.mp absent d (Conversations.mem_live.mp hd).1
        have keyed := List.inj_on_of_nodup_map sound.keyed
          (Conversations.mem_live.mp hd).1 (Conversations.mem_live.mp mem).1
        refine kept d ?_ others
        rw [rest]
        refine List.mem_filter.mpr ⟨hd, ?_⟩
        simpa using fun same => apart (keyed same)

end History

/-- At the end of a history the store is a map that forgets what has expired. Each insertion kept
the unexpired steps of others, but for one of the oldest if there was no other way, and no other
deed lost an unexpired step, but that of the sender whom it was about. -/
structure IsTimedMap {κ : Type} (lifetime limit : Nat) (past : List (Occurrence κ))
    (t : SweptConversations κ) : Prop where
  take : ∀ x step, (t.store.take t.now x).1 = some step ↔ Pends past lifetime t.now x step
  contains : ∀ x, t.store.contains t.now x = true ↔ ∃ step, Pends past lifetime t.now x step
  insert : ∀ o ∈ past, ∀ x step, o.deed = .insert x step → o.MakesRoom x (max limit 1)
  other : ∀ o ∈ past, o.deed.isInsertion = false → ∀ c ∈ o.before.store.entries,
    o.deed ≠ .take c.sender → o.deed ≠ .remove c.sender → c.isExpired o.after.now = false →
    c ∈ o.after.store.entries
  /-- Time alone loses nothing at all. -/
  pass : ∀ o ∈ past, ∀ ms, o.deed = .pass ms → o.before.sweepers = [] →
    o.after.store = o.before.store

/-- The store is a timed map after every history. -/
theorem store_is_timed_map {κ : Type} {lifetime limit : Nat} {past : List (Occurrence κ)}
    {t : SweptConversations κ} (h : History (.ofSize lifetime limit) past t) :
    IsTimedMap lifetime limit past t := by
  obtain ⟨sound, sounds⟩ := h.isSound
  have pends : ∀ x step, Pends past lifetime t.now x step ↔
      ∃ c, t.store.stored? x = some c ∧ c.isExpired t.now = false ∧ c.step = step := by
    intro x step
    constructor
    · rintro ⟨since, left, young⟩
      have stored := h.stored?_of_isLeft left young
      obtain ⟨mem, -⟩ := sound.keyed.stored?_eq_some.mp stored
      exact ⟨_, stored, (Conversation.isExpired_eq_false (sound.past _ mem)).mpr young, rfl⟩
    · rintro ⟨c, stored, live, rfl⟩
      obtain ⟨mem, rfl⟩ := sound.keyed.stored?_eq_some.mp stored
      obtain ⟨left, lives⟩ := h.isLeft_of_mem c mem
      exact ⟨c.since, left,
        lives ▸ (Conversation.isExpired_eq_false (sound.past c mem)).mp live⟩
  refine ⟨fun x step => ?_, fun x => ?_, ?_, ?_, ?_⟩
  · rw [pends]
    simp [Conversations.take, Option.filter_eq_some_iff, and_assoc]
  · simp only [pends]
    rw [Conversations.contains, Option.any_eq_true]
    simp
  · rintro ⟨s, d, u⟩ ho x step rfl
    exact History.makesRoom (sounds _ ho) (h.does _ ho)
  · rintro ⟨s, d, u⟩ ho other c hc untaken unremoved live
    have thinned := (h.does _ ho).isThinned other
    have untouched : d.drops c.sender = false := by
      cases d <;> simp_all [Deed.drops]
    have alive : c ∈ u.store.live u.now := by
      rw [thinned.live]
      exact List.mem_filter.mpr ⟨Conversations.mem_live.mpr ⟨hc, live⟩, by simp [untouched]⟩
    exact (Conversations.mem_live.mp alive).1
  · rintro o ho ms deed none
    have does := h.does o ho
    rw [deed] at does
    rw [does.eq_perform rfl, SweptConversations.perform, SweptConversations.advance,
      SweptConversations.sweepUntil, none]
    rfl

/-! ## A full store -/

namespace FullStore

/-- The step of the first sender expires, and makes room for the third; the second makes room for
the fourth. -/
def deeds : List (Deed String) :=
  [.insert "ann" ⟨some 1000, "a"⟩, .pass 2000, .insert "bob" ⟨none, "b"⟩, .pass 1000,
    .insert "cid" ⟨none, "c"⟩, .pass 1000, .insert "dan" ⟨none, "d"⟩]

def start : SweptConversations String := .ofSize 10000 2

/-- The oldest step is gone when the store is full, and the one after it is there. -/
theorem oldest_step_gives_way :
    History start (start.record deeds) (deeds.foldl .perform start) ∧
      Pends (start.record deeds) 10000 4000 "cid" ⟨none, "c"⟩ ∧
      ¬∃ step, Pends (start.record deeds) 10000 4000 "bob" step := by
  have history := start.history_record deeds
  have map := store_is_timed_map history
  refine ⟨history, (map.take "cid" _).mp (by decide +kernel), fun pends => ?_⟩
  exact absurd ((map.contains "bob").mpr pends) (by decide +kernel)

end FullStore

end Switchboard
