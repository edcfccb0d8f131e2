import Mathlib.Data.List.Nodup
import Mathlib.Order.Nat
import Switchboard.Conversations

/-!
# The room of a store

What a store of conversations keeps. `Conversations.live` are the entries that have not expired;
they alone can be taken. `Conversations.Room` says what making room for a sender may leave of a
store, whichever of several oldest steps is dropped, and `Room.live_or` what of it is live: as long
as the store is not crowded with live steps nothing of them is lost, and otherwise the oldest one.
-/

namespace Switchboard

namespace Conversation

variable {κ : Type} {c : Conversation κ}

/-- What has expired stays so. -/
theorem isExpired_of_le {now later : Nat} (h : now ≤ later) (expired : c.isExpired now = true) :
    c.isExpired later = true := by
  simp only [isExpired, decide_eq_true_eq] at expired ⊢
  omega

theorem isExpired_eq_false {now : Nat} (past : c.since ≤ now) :
    c.isExpired now = false ↔ now < c.since + c.lifetime := by
  simp only [isExpired, decide_eq_false_iff_not]
  omega

theorem oldest?_eq_none {l : List (Conversation κ)} : oldest? l = none ↔ l = [] := by
  cases l with
  | nil => simp [oldest?]
  | cons d rest =>
    simp only [oldest?, reduceCtorEq, iff_false]
    split
    · simp
    · split <;> simp

theorem oldest?_spec {l : List (Conversation κ)} (h : oldest? l = some c) :
    c ∈ l ∧ ∀ d ∈ l, c.since ≤ d.since := by
  induction l generalizing c with
  | nil => cases h
  | cons e rest ih =>
    simp only [oldest?] at h
    split at h
    · next none =>
      cases h
      rw [oldest?_eq_none.mp none]
      simp
    · next f found =>
      obtain ⟨mem, first⟩ := ih found
      split at h
      · next le =>
        cases h
        exact ⟨List.mem_cons_self, List.forall_mem_cons.mpr
          ⟨le_rfl, fun d hd => le.trans (first d hd)⟩⟩
      · next lt =>
        cases h
        exact ⟨List.mem_cons_of_mem _ mem, List.forall_mem_cons.mpr ⟨by omega, first⟩⟩

end Conversation

namespace Conversations

variable {κ : Type} {s r : Conversations κ} {now later : Nat} {x y : String} {c : Conversation κ}

/-! ## One entry for each sender -/

/-- The store has one entry for each sender at most. -/
def IsKeyed (s : Conversations κ) : Prop := (s.entries.map Conversation.sender).Nodup

theorem sender_of_stored? (h : s.stored? x = some c) : c.sender = x := by
  simpa using List.find?_some h

theorem stored?_eq_none : s.stored? x = none ↔ ∀ c ∈ s.entries, c.sender ≠ x := by
  simp [stored?, List.find?_eq_none]

theorem isSome_stored? (h : c ∈ s.entries) : (s.stored? c.sender).isSome :=
  List.find?_isSome.mpr ⟨c, h, by simp⟩

theorem IsKeyed.stored?_eq_some (h : s.IsKeyed) :
    s.stored? x = some c ↔ c ∈ s.entries ∧ c.sender = x := by
  constructor
  · exact fun found => ⟨List.mem_of_find?_eq_some found, sender_of_stored? found⟩
  · rintro ⟨mem, rfl⟩
    cases found : s.stored? c.sender with
    | none =>
      have absent := List.find?_eq_none.mp found c mem
      simp at absent
    | some d =>
      have same := sender_of_stored? found
      rw [List.inj_on_of_nodup_map h (List.mem_of_find?_eq_some found) mem same]

/-- A part of a store. -/
theorem IsKeyed.of_sublist {t : Conversations κ} (h : s.IsKeyed)
    (part : t.entries.Sublist s.entries) : t.IsKeyed :=
  h.sublist (part.map _)

theorem IsKeyed.stored?_of_sublist {t : Conversations κ} (h : s.IsKeyed)
    (part : t.entries.Sublist s.entries) (found : t.stored? x = some c) : s.stored? x = some c := by
  obtain ⟨mem, sender⟩ := (h.of_sublist part).stored?_eq_some.mp found
  exact h.stored?_eq_some.mpr ⟨part.subset mem, sender⟩

theorem sublist_remove (s : Conversations κ) (x : String) :
    (s.remove x).entries.Sublist s.entries := List.filter_sublist

theorem sublist_purge (s : Conversations κ) (now : Nat) :
    (s.purge now).entries.Sublist s.entries := List.filter_sublist

theorem stored?_purge (h : s.IsKeyed) (now : Nat) :
    (s.purge now).stored? x = (s.stored? x).filter fun c => !c.isExpired now := by
  ext c
  rw [(h.of_sublist (s.sublist_purge now)).stored?_eq_some, Option.filter_eq_some_iff,
    h.stored?_eq_some]
  show c ∈ s.entries.filter _ ∧ _ ↔ _
  rw [List.mem_filter]
  tauto

theorem IsKeyed.put (h : s.IsKeyed) (now : Nat) (x : String) (step : Step κ) :
    (s.put now x step).IsKeyed := by
  have rest := h.of_sublist (s.sublist_remove x)
  show (((s.remove x).entries ++ [_]).map Conversation.sender).Nodup
  rw [List.map_append]
  refine List.nodup_append.mpr ⟨rest, by simp, ?_⟩
  intro a ha b hb
  obtain ⟨d, hd, rfl⟩ := List.mem_map.mp ha
  have apart := (List.mem_filter.mp hd).2
  obtain rfl : b = x := by simpa using hb
  simpa using apart

/-! ## Places -/

/-- A step of the sender can be put into the store. -/
def HasPlace (s : Conversations κ) (x : String) : Prop :=
  (s.stored? x).isSome ∨ s.size < s.capacity

theorem one_le_capacity (s : Conversations κ) : 1 ≤ s.capacity := Nat.le_max_right _ _

theorem capacity_congr (h : r.limit = s.limit) : r.capacity = s.capacity := by
  rw [capacity, capacity, h]

theorem size_remove_lt (h : c ∈ s.entries) : (s.remove c.sender).size < s.size :=
  List.length_filter_lt_length_iff_exists.mpr ⟨c, h, by simp⟩

/-- A place stays when entries are lost: if the sender's own is lost, that makes room. -/
theorem HasPlace.of_sublist (h : s.HasPlace x) (bounded : s.size ≤ s.capacity)
    (part : r.entries.Sublist s.entries) (limit : r.limit = s.limit) : r.HasPlace x := by
  rcases part.length_le.lt_or_eq with fewer | same
  · refine .inr ?_
    rw [capacity_congr limit]
    exact fewer.trans_le bounded
  · have all := part.eq_of_length same
    rw [HasPlace, capacity_congr limit]
    simpa only [HasPlace, stored?, size, all] using h

/-- Where a step of the sender can be put, there is room when the sender's is removed. -/
theorem HasPlace.size_remove_lt (h : s.HasPlace x) (bounded : s.size ≤ s.capacity) :
    (s.remove x).size < s.capacity := by
  rcases h with present | less
  · obtain ⟨c, found⟩ := Option.isSome_iff_exists.mp present
    obtain rfl := sender_of_stored? found
    exact (Conversations.size_remove_lt (List.mem_of_find?_eq_some found)).trans_le bounded
  · exact (s.sublist_remove x).length_le.trans_lt less

/-- A step that is put into its place does not crowd the store. -/
theorem HasPlace.size_put_le (h : s.HasPlace x) (bounded : s.size ≤ s.capacity) (now : Nat)
    (step : Step κ) : (s.put now x step).size ≤ s.capacity := by
  have := h.size_remove_lt bounded
  simp only [size, put, List.length_append, List.length_singleton] at this ⊢
  omega

/-! ## Making room -/

/-- What making room for a sender may leave of a store. Of several oldest steps any may be
dropped. -/
inductive Room (s : Conversations κ) (now : Nat) (x : String) : Conversations κ → Prop
  /-- There is room. -/
  | enough (room : s.HasPlace x) : Room s now x s
  /-- There is room when the expired steps are gone. -/
  | purged (absent : s.stored? x = none) (full : s.capacity ≤ s.size)
    (room : (s.purge now).size < s.capacity) : Room s now x (s.purge now)
  /-- One of the oldest steps is dropped. -/
  | dropped (absent : s.stored? x = none) (full : s.capacity ≤ s.size)
    (crowded : s.capacity ≤ (s.purge now).size) (c : Conversation κ)
    (mem : c ∈ (s.purge now).entries) (oldest : ∀ d ∈ (s.purge now).entries, c.since ≤ d.since) :
    Room s now x ((s.purge now).remove c.sender)

theorem room_makeRoom (s : Conversations κ) (now : Nat) (x : String) :
    s.Room now x (s.makeRoom now x) := by
  unfold makeRoom
  split
  · next room => exact .enough (by simpa [HasPlace] using room)
  · next crowd =>
    obtain ⟨absent, full⟩ : s.stored? x = none ∧ s.capacity ≤ s.size := by simpa using crowd
    dsimp only
    split
    · next room => exact .purged absent full room
    · next crowded =>
      have crowded : s.capacity ≤ (s.purge now).size := Nat.le_of_not_lt crowded
      unfold dropOldest
      split
      · next none =>
        have empty : (s.purge now).size = 0 := by
          rw [size, Conversation.oldest?_eq_none.mp none, List.length_nil]
        have := s.one_le_capacity
        omega
      · next c found =>
        obtain ⟨mem, oldest⟩ := Conversation.oldest?_spec found
        exact .dropped absent full crowded c mem oldest

theorem Room.sublist (h : s.Room now x r) : r.entries.Sublist s.entries := by
  cases h with
  | enough => exact .refl _
  | purged => exact s.sublist_purge now
  | dropped => exact (sublist_remove _ _).trans (s.sublist_purge now)

theorem Room.lifetime (h : s.Room now x r) : r.lifetime = s.lifetime := by cases h <;> rfl

theorem Room.limit (h : s.Room now x r) : r.limit = s.limit := by cases h <;> rfl

/-- After room is made, a step of the sender can be put into the store. -/
theorem Room.hasPlace (h : s.Room now x r) (bounded : s.size ≤ s.capacity) :
    r.size ≤ r.capacity ∧ r.HasPlace x := by
  cases h with
  | enough room => exact ⟨bounded, room⟩
  | purged absent full room => exact ⟨room.le, .inr room⟩
  | dropped absent full crowded c mem =>
    have less : ((s.purge now).remove c.sender).size < s.capacity :=
      (size_remove_lt mem).trans_le ((s.sublist_purge now).length_le.trans bounded)
    exact ⟨less.le, .inr less⟩

/-! ## Inserting -/

theorem sublist_makeRoom (s : Conversations κ) (now : Nat) (x : String) :
    (s.makeRoom now x).entries.Sublist s.entries := (s.room_makeRoom now x).sublist

theorem lifetime_makeRoom (s : Conversations κ) (now : Nat) (x : String) :
    (s.makeRoom now x).lifetime = s.lifetime := (s.room_makeRoom now x).lifetime

theorem IsKeyed.insert (h : s.IsKeyed) (now : Nat) (x : String) (step : Step κ) :
    (s.insert now x step).IsKeyed := (h.of_sublist (s.sublist_makeRoom now x)).put now x step

theorem lifetime_insert (s : Conversations κ) (now : Nat) (x : String) (step : Step κ) :
    (s.insert now x step).lifetime = s.lifetime := s.lifetime_makeRoom now x

theorem stored?_insert_self (s : Conversations κ) (now : Nat) (x : String) (step : Step κ) :
    (s.insert now x step).stored? x = some ⟨x, step, now, step.ttl.getD s.lifetime⟩ := by
  rw [insert, stored?_put_self, lifetime_makeRoom]

theorem stored?_insert_of_ne (s : Conversations κ) (now : Nat) (h : y ≠ x) (step : Step κ) :
    (s.insert now x step).stored? y = (s.makeRoom now x).stored? y := stored?_put_of_ne _ _ h step

/-! ## Live entries -/

/-- The entries that have not expired. -/
def live (s : Conversations κ) (now : Nat) : List (Conversation κ) :=
  s.entries.filter fun c => !c.isExpired now

theorem mem_live : c ∈ s.live now ↔ c ∈ s.entries ∧ c.isExpired now = false := by
  simp [live]

theorem length_live_le (s : Conversations κ) (now : Nat) : (s.live now).length ≤ s.size :=
  List.length_filter_le _ _

/-- What is live later is live before. -/
theorem live_later (s : Conversations κ) (h : now ≤ later) :
    s.live later = (s.live now).filter fun c => !c.isExpired later := by
  rw [live, live, List.filter_filter]
  refine List.filter_congr fun c _ => ?_
  cases gone : c.isExpired now with
  | true => simp [Conversation.isExpired_of_le h gone]
  | false => simp

/-- Purging takes nothing that is live, now or later. -/
theorem live_purge (s : Conversations κ) (h : now ≤ later) :
    (s.purge now).live later = s.live later := by
  rw [s.live_later h]
  rfl

theorem live_remove (s : Conversations κ) (now : Nat) (x : String) :
    (s.remove x).live now = (s.live now).filter fun c => c.sender ≠ x := by
  simp only [live, remove, List.filter_filter, Bool.and_comm]

theorem live_put (s : Conversations κ) (now : Nat) (x : String) (step : Step κ) :
    (s.put now x step).live now = ((s.live now).filter fun c => c.sender ≠ x) ++
      [⟨x, step, now, step.ttl.getD s.lifetime⟩].filter fun c => !c.isExpired now := by
  rw [← live_remove]
  simp only [live, put, List.filter_append]

/-- What can be taken is what is live. -/
theorem find?_live (h : s.IsKeyed) :
    ((s.live now).find? fun c => c.sender == x) = (s.stored? x).filter fun c => !c.isExpired now :=
  stored?_purge h now

/-- The store has no entry for a sender, and is full of live ones of others. -/
def IsCrowded (s : Conversations κ) (now : Nat) (x : String) : Prop :=
  s.stored? x = none ∧ (s.live now).length = s.capacity

/-- Whether a store is crowded is seen by its live entries. -/
theorem isCrowded_iff (bounded : s.size ≤ s.capacity) :
    s.IsCrowded now x ↔
      (∀ c ∈ s.live now, c.sender ≠ x) ∧ (s.live now).length = s.capacity := by
  refine and_congr_left fun full => ?_
  have all : s.live now = s.entries := by
    refine List.filter_sublist.eq_of_length_le ?_
    rw [size] at bounded
    exact bounded.trans full.ge
  rw [all, stored?_eq_none]

/-- Making room leaves what is live, except for one of the oldest if the store is crowded. -/
theorem Room.live_or (h : s.Room now x r) (bounded : s.size ≤ s.capacity) :
    ¬ s.IsCrowded now x ∧ r.live now = s.live now ∨
      s.IsCrowded now x ∧ ∃ c ∈ s.live now, (∀ d ∈ s.live now, c.since ≤ d.since) ∧
        r.live now = (s.live now).filter fun d => d.sender ≠ c.sender := by
  cases h with
  | enough room =>
    refine .inl ⟨?_, rfl⟩
    rintro ⟨absent, full⟩
    have := s.length_live_le now
    rcases room with present | less
    · simp [absent] at present
    · omega
  | purged absent full room =>
    refine .inl ⟨?_, s.live_purge le_rfl⟩
    rintro ⟨-, crowded⟩
    exact absurd crowded room.ne
  | dropped absent full crowded c mem oldest =>
    refine .inr ⟨⟨absent, le_antisymm ?_ crowded⟩, c, mem, oldest, ?_⟩
    · exact (s.length_live_le now).trans bounded
    · rw [live_remove, s.live_purge le_rfl]

end Conversations

end Switchboard
