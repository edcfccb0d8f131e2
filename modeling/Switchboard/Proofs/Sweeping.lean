import Switchboard.Proofs.StoreHistories

/-!
# Sweeping is unobservable

Two stores are used in the same way, and one of them is swept besides, by hand or by sweepers, as
often as one likes and whenever. They hold different expired steps, so that an insertion may find
one full and the other not; but their unexpired steps stay the same (`Alike.does`, `Alike.sweeps`),
and nothing else is seen by those who take and ask (`Alike.reply?_eq`).

Which of several steps is evicted that were stored at one moment is left open, so the statement is
about stores in which there are no such steps.
-/

namespace Switchboard

/-- What is answered to those who take a step or ask for one. -/
inductive Reply (κ : Type) where
  | taken (step : Option (Step κ))
  | found (b : Bool)
  deriving DecidableEq, Repr

namespace Occurrence

variable {κ : Type}

/-- The answer to a deed, if it is one of taking or asking. -/
def reply? (o : Occurrence κ) : Option (Reply κ) :=
  match o.deed with
  | .take x => some (.taken (o.before.store.take o.before.now x).1)
  | .contains x => some (.found (o.before.store.contains o.before.now x))
  | _ => none

theorem reply?_of_isSweeping {o : Occurrence κ} (h : o.deed.isSweeping = true) :
    o.reply? = none := by
  unfold reply?
  split
  · next deed => simp [deed, Deed.isSweeping] at h
  · next deed => simp [deed, Deed.isSweeping] at h
  · rfl

/-- The steps that have not expired after a deed. -/
def left (o : Occurrence κ) : List (Conversation κ) := o.after.store.live o.after.now

end Occurrence

namespace Conversations

variable {κ : Type} {s : Conversations κ}

/-- No two steps were stored at the same moment. -/
def IsApart (s : Conversations κ) : Prop := (s.entries.map Conversation.since).Nodup

instance (s : Conversations κ) : Decidable s.IsApart := inferInstanceAs (Decidable (List.Nodup _))

/-- What is taken is seen by the unexpired steps. -/
theorem take_eq_find?_live (h : s.IsKeyed) (now : Nat) (x : String) :
    (s.take now x).1 = ((s.live now).find? fun c => c.sender == x).map Conversation.step := by
  rw [find?_live h]
  rfl

/-- What is found is seen by the unexpired steps. -/
theorem contains_eq_find?_live (h : s.IsKeyed) (now : Nat) (x : String) :
    s.contains now x = ((s.live now).find? fun c => c.sender == x).isSome := by
  rw [find?_live h, contains]
  cases s.stored? x with
  | none => rfl
  | some c => cases expired : c.isExpired now <;> simp [Option.filter, expired]

/-- Of steps that were stored at different moments only one is the oldest. -/
theorem IsApart.eq_of_oldest {now : Nat} {c d : Conversation κ} (h : s.IsApart)
    (hc : c ∈ s.live now) (hd : d ∈ s.live now) (oldest : ∀ e ∈ s.live now, c.since ≤ e.since)
    (oldest' : ∀ e ∈ s.live now, d.since ≤ e.since) : c = d :=
  List.inj_on_of_nodup_map h (mem_live.mp hc).1 (mem_live.mp hd).1
    (le_antisymm (oldest d hd) (oldest' c hc))

end Conversations

namespace SweptConversations

variable {κ : Type} {lifetime limit : Nat} {s s' t t' : SweptConversations κ} {d : Deed κ}

/-- At the same time the same steps have not expired. -/
structure Alike (s t : SweptConversations κ) : Prop where
  now : s.now = t.now
  live : s.store.live s.now = t.store.live t.now

namespace Alike

theorem reply?_eq (h : s.Alike t) (sound : s.store.IsKeyed) (sound' : t.store.IsKeyed) :
    (⟨s, d, s'⟩ : Occurrence κ).reply? = (⟨t, d, t'⟩ : Occurrence κ).reply? := by
  cases d with
  | take x =>
    simp only [Occurrence.reply?, Conversations.take_eq_find?_live sound,
      Conversations.take_eq_find?_live sound', h.live]
  | contains x =>
    simp only [Occurrence.reply?, Conversations.contains_eq_find?_live sound,
      Conversations.contains_eq_find?_live sound', h.live]
  | _ => rfl

/-- The same steps stay unexpired when room is made, however many expired ones there are. -/
theorem room (h : s.Alike t) (sound : s.IsSound lifetime limit) (sound' : t.IsSound lifetime limit)
    (apart : t.store.IsApart) {x : String} {r r' : Conversations κ}
    (makes : s.store.Room s.now x r) (makes' : t.store.Room t.now x r') :
    r.live s.now = r'.live t.now := by
  have capacity : s.store.capacity = t.store.capacity := by
    rw [Conversations.capacity, Conversations.capacity, sound.limit, sound'.limit]
  have crowded : s.store.IsCrowded s.now x ↔ t.store.IsCrowded t.now x := by
    rw [Conversations.isCrowded_iff sound.bounded, Conversations.isCrowded_iff sound'.bounded,
      h.live, capacity]
  rcases makes.live_or sound.bounded with ⟨roomy, same⟩ | ⟨full, c, mem, oldest, rest⟩
  · rcases makes'.live_or sound'.bounded with ⟨-, same'⟩ | ⟨full', -⟩
    · rw [same, same', h.live]
    · exact absurd (crowded.mpr full') roomy
  · rcases makes'.live_or sound'.bounded with ⟨roomy', -⟩ | ⟨-, c', mem', oldest', rest'⟩
    · exact absurd (crowded.mp full) roomy'
    · rw [h.live] at mem oldest
      rw [rest, rest', h.live, apart.eq_of_oldest mem mem' oldest oldest']

/-- The same deed keeps two conversations alike. -/
theorem does (h : s.Alike t) (sound : s.IsSound lifetime limit) (sound' : t.IsSound lifetime limit)
    (apart : t.store.IsApart) (does : s.Does d s') (does' : t.Does d t') : s'.Alike t' := by
  cases insertion : d.isInsertion with
  | true =>
    cases does with
    | other _ other => simp [insertion] at other
    | insertion x step r makes =>
      cases does' with
      | other _ other => cases other
      | insertion _ _ r' makes' =>
        refine ⟨h.now, ?_⟩
        show (r.put s.now x step).live s.now = (r'.put t.now x step).live t.now
        have lifetimes : r.lifetime = r'.lifetime := by
          rw [makes.lifetime, makes'.lifetime, sound.lifetime, sound'.lifetime]
        rw [Conversations.live_put, Conversations.live_put,
          h.room sound sound' apart makes makes', lifetimes, h.now]
  | false =>
    have thinned := does.isThinned insertion
    have thinned' := does'.isThinned insertion
    have now : s'.now = t'.now := by
      rw [does.eq_perform insertion, does'.eq_perform insertion]
      cases d <;> simp [perform, advance, start, sweepUntil, stop, h.now]
    refine ⟨now, ?_⟩
    rw [thinned.live, thinned'.live, s.store.live_later thinned.now,
      t.store.live_later thinned'.now, h.live, now]

/-- Sweeping one of two conversations keeps them alike. -/
theorem sweeps (h : s.Alike t) (sweeping : d.isSweeping = true) (does : s.Does d s') :
    s'.Alike t := by
  have other := Deed.isInsertion_of_isSweeping sweeping
  have now : s'.now = s.now := by
    rw [does.eq_perform other]
    cases d <;> first | rfl | cases sweeping
  refine ⟨now.trans h.now, ?_⟩
  rw [(does.isThinned other).live, now, h.live]
  simp [Deed.drops_of_isSweeping sweeping]

end Alike

end SweptConversations

/-- Two histories of the same deeds, but for sweeping, end alike, and all the way they have the same
unexpired steps and the same answers. -/
theorem History.alike {κ : Type} {lifetime limit : Nat} {swept plain : List (Occurrence κ)}
    {t u : SweptConversations κ} (run : History (.ofSize lifetime limit) swept t)
    (run' : History (.ofSize lifetime limit) plain u)
    (same : plain.map Occurrence.deed =
      (swept.filter fun o => !o.deed.isSweeping).map Occurrence.deed)
    (apart : ∀ o ∈ plain, o.before.store.IsApart) :
    t.Alike u ∧ swept.filterMap Occurrence.reply? = plain.filterMap Occurrence.reply? ∧
      (swept.filter fun o => !o.deed.isSweeping).map Occurrence.left =
        plain.map Occurrence.left := by
  induction run generalizing plain u with
  | nil =>
    cases run' with
    | nil => exact ⟨⟨rfl, rfl⟩, rfl, rfl⟩
    | snoc => simp at same
  | @snoc past s t d h does ih =>
    rw [List.filter_append, List.map_append] at same
    cases sweeping : d.isSweeping with
    | true =>
      obtain ⟨alike, replies, lefts⟩ := ih run' (by simpa [sweeping] using same) apart
      refine ⟨alike.sweeps sweeping does, ?_, ?_⟩
      · have silent : (⟨s, d, t⟩ : Occurrence κ).reply? = none :=
          Occurrence.reply?_of_isSweeping sweeping
        simpa [silent] using replies
      · simpa [sweeping] using lefts
    | false =>
      cases run' with
      | nil => simp [sweeping] at same
      | @snoc past' s' _ d' h' does' =>
        rw [List.map_append] at same
        obtain ⟨front, back⟩ := List.append_inj' same (by simp [sweeping])
        obtain rfl : d' = d := by simpa [sweeping] using back
        obtain ⟨before, last⟩ := List.forall_mem_append.mp apart
        obtain ⟨alike, replies, lefts⟩ := ih h' front before
        obtain ⟨sound, -⟩ := h.isSound
        obtain ⟨sound', -⟩ := h'.isSound
        have after := alike.does sound sound' (last _ (List.mem_singleton_self _)) does does'
        refine ⟨after, ?_, ?_⟩
        · have answer : (⟨s, d', t⟩ : Occurrence κ).reply? = (⟨s', d', u⟩ : Occurrence κ).reply? :=
            alike.reply?_eq sound.keyed sound'.keyed
          rw [List.filterMap_append, List.filterMap_append, replies]
          congr 1
          simp only [List.filterMap_cons, List.filterMap_nil, answer]
        · rw [List.filter_append, List.map_append, List.map_append, lefts]
          congr 1
          simpa [sweeping, Occurrence.left] using after.live

/-- Sweeping changes no answer to those who take a step or ask for one, and nothing of what has not
expired after any deed, so that the same steps are evicted. -/
theorem sweeping_is_unobservable {κ : Type} {lifetime limit : Nat}
    {swept plain : List (Occurrence κ)} {t u : SweptConversations κ}
    (run : History (.ofSize lifetime limit) swept t)
    (run' : History (.ofSize lifetime limit) plain u)
    (same : plain.map Occurrence.deed =
      (swept.filter fun o => !o.deed.isSweeping).map Occurrence.deed)
    (apart : ∀ o ∈ plain, o.before.store.IsApart) :
    swept.filterMap Occurrence.reply? = plain.filterMap Occurrence.reply? ∧
      (swept.filter fun o => !o.deed.isSweeping).map Occurrence.left =
        plain.map Occurrence.left :=
  (run.alike run' same apart).2

/-! ## A store with and without sweeping -/

namespace SweptStore

/-- The first step expires at once. It is still there when the third is stored, unless it is
swept. -/
def used : List (Deed String) :=
  [.insert "ann" ⟨some 1000, "a"⟩, .pass 2000, .insert "bob" ⟨none, "b"⟩, .pass 1000,
    .insert "cid" ⟨none, "c"⟩, .pass 1000, .contains "bob", .insert "dan" ⟨none, "d"⟩,
    .contains "bob", .take "cid", .take "ann"]

def swept : List (Deed String) :=
  [.insert "ann" ⟨some 1000, "a"⟩, .startSweeper 700, .pass 2000, .insert "bob" ⟨none, "b"⟩,
    .pass 1000, .insert "cid" ⟨none, "c"⟩, .purge, .pass 1000, .stopSweepers, .contains "bob",
    .insert "dan" ⟨none, "d"⟩, .contains "bob", .purge, .take "cid", .take "ann"]

def start : SweptConversations String := .ofSize 10000 2

/-- The stores differ in what is expired, and answer alike. -/
theorem swept_store_answers_alike :
    (∀ o ∈ start.record used, o.before.store.IsApart) ∧
      (start.record swept).filterMap Occurrence.reply? =
        (start.record used).filterMap Occurrence.reply? ∧
      (start.record used).filterMap Occurrence.reply? =
        [.found true, .found false, .taken (some ⟨none, "c"⟩), .taken none] ∧
      ((used.take 2).foldl .perform start).store.size = 1 ∧
      ((swept.take 3).foldl .perform start).store.size = 0 := by
  have apart : ∀ o ∈ start.record used, o.before.store.IsApart := by decide +kernel
  have answers := sweeping_is_unobservable (start.history_record swept) (start.history_record used)
    (by decide +kernel) apart
  exact ⟨apart, answers.1, by decide +kernel, by decide +kernel, by decide +kernel⟩

end SweptStore

end Switchboard
