import Switchboard.Conversations.Sweeper
import Switchboard.Proofs.StoreRoom

/-!
# Histories of a store

What is done with conversations on a clock, and what it leads to. A history lists what was done, in
order, each deed with the conversations before and after it. Deeds that are not insertions are the
same in kind: they lose expired steps, and those of the sender whom they are about
(`Does.isThinned`). All deeds keep one entry for each sender and no more than fit
(`IsSound.does`).
-/

namespace Switchboard

/-- What is done with conversations on a clock. -/
inductive Deed (κ : Type) where
  | insert (sender : String) (step : Step κ)
  | take (sender : String)
  | remove (sender : String)
  | contains (sender : String)
  | purge
  /-- Time passes, in milliseconds. -/
  | pass (ms : Nat)
  | startSweeper (period : Nat)
  | stopSweepers
  deriving DecidableEq, Repr

namespace Deed

variable {κ : Type}

/-- Whether a deed takes away what is stored for a sender. -/
def drops : Deed κ → String → Bool
  | take x, y => x == y
  | remove x, y => x == y
  | _, _ => false

def isInsertion : Deed κ → Bool
  | insert .. => true
  | _ => false

/-- Whether a deed does nothing but sweep, now or later. -/
def isSweeping : Deed κ → Bool
  | purge | startSweeper _ | stopSweepers => true
  | _ => false

variable {d : Deed κ}

theorem isInsertion_of_isSweeping (h : d.isSweeping = true) : d.isInsertion = false := by
  cases d <;> first | rfl | cases h

theorem drops_of_isSweeping (h : d.isSweeping = true) (x : String) : d.drops x = false := by
  cases d <;> first | rfl | cases h

end Deed

/-! ## Sweeping -/

theorem Ticker.le_of_mem_timesUntil {t : Ticker} {time due : Nat} (h : due ∈ t.timesUntil time) :
    due ≤ time := by
  obtain ⟨i, hi, rfl⟩ := List.mem_map.mp h
  rw [List.mem_range, countUntil] at hi
  split at hi
  · omega
  · next reached =>
    have below : i * t.period ≤ (time - t.due) / t.period * t.period :=
      Nat.mul_le_mul_right _ (Nat.le_of_lt_succ hi)
    have := Nat.div_mul_le_self (time - t.due) t.period
    omega

namespace Conversations

variable {κ : Type} {s r t : Conversations κ} {now : Nat}

/-- A store that has lost nothing but expired steps of another. -/
structure IsSwept (r s : Conversations κ) (now : Nat) : Prop where
  sublist : r.entries.Sublist s.entries
  live : r.live now = s.live now
  lifetime : r.lifetime = s.lifetime
  limit : r.limit = s.limit

theorem IsSwept.refl (s : Conversations κ) (now : Nat) : s.IsSwept s now := ⟨.refl _, rfl, rfl, rfl⟩

theorem IsSwept.trans (h : t.IsSwept r now) (more : r.IsSwept s now) : t.IsSwept s now :=
  ⟨h.sublist.trans more.sublist, h.live.trans more.live, h.lifetime.trans more.lifetime,
    h.limit.trans more.limit⟩

theorem isSwept_purge (s : Conversations κ) {time : Nat} (h : time ≤ now) :
    (s.purge time).IsSwept s now := ⟨s.sublist_purge time, s.live_purge h, rfl, rfl⟩

theorem isSwept_foldl_purge (s : Conversations κ) {times : List Nat} (h : ∀ u ∈ times, u ≤ now) :
    (times.foldl purge s).IsSwept s now := by
  induction times generalizing s with
  | nil => exact .refl s now
  | cons u rest ih =>
    obtain ⟨first, later⟩ := List.forall_mem_cons.mp h
    exact (ih (s.purge u) later).trans (s.isSwept_purge first)

end Conversations

namespace SweptConversations

variable {κ : Type} {s t : SweptConversations κ} {d : Deed κ}

theorem isSwept_sweepUntil (s : SweptConversations κ) (time : Nat) :
    (s.sweepUntil time).store.IsSwept s.store time := by
  refine s.store.isSwept_foldl_purge fun u hu => ?_
  obtain ⟨ticker, -, mem⟩ := List.mem_flatMap.mp hu
  exact Ticker.le_of_mem_timesUntil mem

/-! ## Deeds -/

/-- What a deed leads to. -/
def perform (s : SweptConversations κ) : Deed κ → SweptConversations κ
  | .insert x step => { s with store := s.store.insert s.now x step }
  | .take x => { s with store := (s.store.take s.now x).2 }
  | .remove x => { s with store := s.store.remove x }
  | .contains _ => s
  | .purge => { s with store := s.store.purge s.now }
  | .pass ms => s.advance ms
  | .startSweeper period => s.start period
  | .stopSweepers => s.stop

/-- What a deed may lead to. Of several oldest steps an insertion may evict any. -/
inductive Does (s : SweptConversations κ) : Deed κ → SweptConversations κ → Prop
  | insertion (x : String) (step : Step κ) (room : Conversations κ)
    (h : s.store.Room s.now x room) :
    Does s (.insert x step) { s with store := room.put s.now x step }
  | other (d : Deed κ) (h : d.isInsertion = false) : Does s d (s.perform d)

theorem does_perform (s : SweptConversations κ) (d : Deed κ) : s.Does d (s.perform d) := by
  cases d with
  | insert x step => exact .insertion x step _ (s.store.room_makeRoom s.now x)
  | _ => exact .other _ rfl

/-- What a deed that is no insertion does: it loses expired steps, and what it takes away. -/
structure IsThinned (s : SweptConversations κ) (d : Deed κ) (t : SweptConversations κ) : Prop where
  now : s.now ≤ t.now
  lifetime : t.store.lifetime = s.store.lifetime
  limit : t.store.limit = s.store.limit
  sublist : t.store.entries.Sublist s.store.entries
  live : t.store.live t.now = (s.store.live t.now).filter fun c => !d.drops c.sender
  gone : ∀ c ∈ t.store.entries, d.drops c.sender = false

theorem IsThinned.of_isSwept (now : s.now ≤ t.now) (h : t.store.IsSwept s.store t.now)
    (nobody : ∀ x, d.drops x = false) : s.IsThinned d t where
  now := now
  lifetime := h.lifetime
  limit := h.limit
  sublist := h.sublist
  live := by simp [h.live, nobody]
  gone c _ := nobody c.sender

theorem IsThinned.of_remove {x : String} (h : ∀ y, d.drops y = (x == y)) :
    s.IsThinned d { s with store := s.store.remove x } where
  now := le_rfl
  lifetime := rfl
  limit := rfl
  sublist := s.store.sublist_remove x
  live := by
    rw [Conversations.live_remove]
    refine List.filter_congr fun c _ => ?_
    by_cases same : c.sender = x
    · simp [h, same]
    · simp [h, same, Ne.symm same]
  gone c hc := by
    have apart : c.sender ≠ x := by simpa using (List.mem_filter.mp hc).2
    simp [h, apart.symm]

theorem isThinned_perform (s : SweptConversations κ) (h : d.isInsertion = false) :
    s.IsThinned d (s.perform d) := by
  cases d with
  | insert => cases h
  | take x => exact .of_remove fun _ => rfl
  | remove x => exact .of_remove fun _ => rfl
  | contains x => exact .of_isSwept le_rfl (.refl _ _) fun _ => rfl
  | purge => exact .of_isSwept le_rfl (s.store.isSwept_purge le_rfl) fun _ => rfl
  | pass ms => exact .of_isSwept (Nat.le_add_right _ _) (s.isSwept_sweepUntil _) fun _ => rfl
  | startSweeper period => exact .of_isSwept le_rfl (isSwept_sweepUntil _ _) fun _ => rfl
  | stopSweepers => exact .of_isSwept le_rfl (.refl _ _) fun _ => rfl

/-- What is kept by all deeds: one entry for each sender, not more than fit, none of the future. -/
structure IsSound (s : SweptConversations κ) (lifetime limit : Nat) : Prop where
  lifetime : s.store.lifetime = lifetime
  limit : s.store.limit = limit
  keyed : s.store.IsKeyed
  bounded : s.store.size ≤ s.store.capacity
  past : ∀ c ∈ s.store.entries, c.since ≤ s.now

theorem Does.eq_perform (h : s.Does d t) (other : d.isInsertion = false) : t = s.perform d := by
  cases h with
  | insertion => cases other
  | other => rfl

theorem Does.isThinned (h : s.Does d t) (other : d.isInsertion = false) : s.IsThinned d t := by
  rw [h.eq_perform other]
  exact s.isThinned_perform other

theorem Does.now_le (h : s.Does d t) : s.now ≤ t.now := by
  cases h with
  | insertion => exact le_rfl
  | other _ other => exact (s.isThinned_perform other).now

theorem IsSound.does {lifetime limit : Nat} (sound : s.IsSound lifetime limit) (h : s.Does d t) :
    t.IsSound lifetime limit := by
  cases h with
  | insertion x step room h =>
    obtain ⟨fits, place⟩ := h.hasPlace sound.bounded
    refine ⟨h.lifetime.trans sound.lifetime, h.limit.trans sound.limit,
      (sound.keyed.of_sublist h.sublist).put _ _ _, place.size_put_le fits _ _, ?_⟩
    intro c hc
    rcases List.mem_append.mp hc with old | new
    · exact sound.past c (h.sublist.subset (List.mem_filter.mp old).1)
    · rw [List.mem_singleton.mp new]
  | other _ other =>
    have thinned := s.isThinned_perform other
    refine ⟨thinned.lifetime.trans sound.lifetime, thinned.limit.trans sound.limit,
      sound.keyed.of_sublist thinned.sublist, ?_, ?_⟩
    · show _ ≤ max (s.perform _).store.limit 1
      rw [thinned.limit]
      exact thinned.sublist.length_le.trans sound.bounded
    · exact fun c hc => (sound.past c (thinned.sublist.subset hc)).trans thinned.now

/-- Conversations at the start of the clock, with an empty store. -/
def ofSize (lifetime limit : Nat) : SweptConversations κ := { store := { lifetime, limit } }

theorem isSound_ofSize (lifetime limit : Nat) :
    (ofSize lifetime limit : SweptConversations κ).IsSound lifetime limit :=
  ⟨rfl, rfl, List.nodup_nil, Nat.zero_le _, by simp [ofSize]⟩

end SweptConversations

/-! ## Histories -/

/-- A deed with the conversations before and after it. -/
structure Occurrence (κ : Type) where
  before : SweptConversations κ
  deed : Deed κ
  after : SweptConversations κ

/-- What was done, in order, and what it has led to. -/
inductive History {κ : Type} (start : SweptConversations κ) :
    List (Occurrence κ) → SweptConversations κ → Prop
  | nil : History start [] start
  | snoc {past : List (Occurrence κ)} {s t : SweptConversations κ} {d : Deed κ}
    (h : History start past s) (does : s.Does d t) : History start (past ++ [⟨s, d, t⟩]) t

namespace SweptConversations

variable {κ : Type} {start s t : SweptConversations κ} {past : List (Occurrence κ)}

/-- What is done by a list of deeds. -/
def record (s : SweptConversations κ) : List (Deed κ) → List (Occurrence κ)
  | [] => []
  | d :: ds => ⟨s, d, s.perform d⟩ :: (s.perform d).record ds

theorem history_append_record (h : History start past s) (ds : List (Deed κ)) :
    History start (past ++ s.record ds) (ds.foldl perform s) := by
  induction ds generalizing s past with
  | nil => simpa [record] using h
  | cons d ds ih => simpa [record] using ih (h.snoc (s.does_perform d))

/-- Performing deeds is a history. -/
theorem history_record (s : SweptConversations κ) (ds : List (Deed κ)) :
    History s (s.record ds) (ds.foldl perform s) := history_append_record .nil ds

end SweptConversations

theorem History.isSound {κ : Type} {lifetime limit : Nat} {past : List (Occurrence κ)}
    {t : SweptConversations κ} (h : History (.ofSize lifetime limit) past t) :
    t.IsSound lifetime limit ∧ ∀ o ∈ past, o.before.IsSound lifetime limit := by
  induction h with
  | nil => exact ⟨SweptConversations.isSound_ofSize _ _, by simp⟩
  | snoc h does ih =>
    refine ⟨ih.1.does does, fun o ho => ?_⟩
    rcases List.mem_append.mp ho with old | new
    · exact ih.2 o old
    · rw [List.mem_singleton.mp new]
      exact ih.1

theorem History.does {κ : Type} {start t : SweptConversations κ} {past : List (Occurrence κ)}
    (h : History start past t) : ∀ o ∈ past, o.before.Does o.deed o.after := by
  induction h with
  | nil => simp
  | snoc h does ih =>
    intro o ho
    rcases List.mem_append.mp ho with old | new
    · exact ih o old
    · rw [List.mem_singleton.mp new]
      exact does

end Switchboard
