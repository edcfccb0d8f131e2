import Mathlib.Data.List.Pairwise
import Mathlib.Data.String.Basic
import Switchboard.Table

/-!
# Tables in order

A table that is built by insertions has its keys in order, each once (`Table.IsSorted.insert`,
`Table.isSorted_ofList`). In such a table every entry is the one that is found under its key
(`Table.IsSorted.find?_of_mem`), and to set a key to the value it has changes nothing
(`Table.IsSorted.insert_of_find?`). What is found under all keys determines the table
(`Table.IsSorted.ext`).
-/

namespace Switchboard

namespace Table

variable {α : Type} {t u : Table α} {key : String} {value : α}

/-- The keys are in order, each once. -/
def IsSorted (t : Table α) : Prop := t.Pairwise fun a b => a.1 < b.1

theorem find?_eq_none_of_lt (h : ∀ e ∈ t, key < e.1) : find? key t = none := by
  induction t with
  | nil => rfl
  | cons e rest ih =>
    obtain ⟨k, v⟩ := e
    have apart : key ≠ k := (h (k, v) List.mem_cons_self).ne
    rw [find?, if_neg apart]
    exact ih fun e he => h e (List.mem_cons_of_mem _ he)

theorem IsSorted.find?_of_mem (h : t.IsSorted) {e : String × α} (he : e ∈ t) :
    find? e.1 t = some e.2 := by
  induction t with
  | nil => cases he
  | cons d rest ih =>
    obtain ⟨k, v⟩ := d
    obtain ⟨before, rest_sorted⟩ := List.pairwise_cons.mp h
    rcases List.mem_cons.mp he with rfl | later
    · rw [find?, if_pos rfl]
    · rw [find?, if_neg (before e later).ne']
      exact ih rest_sorted later

theorem mem_of_find? (h : find? key t = some value) : (key, value) ∈ t := by
  induction t with
  | nil => cases h
  | cons d rest ih =>
    obtain ⟨k, v⟩ := d
    rw [find?] at h
    split at h
    · next same =>
      cases h
      exact same ▸ List.mem_cons_self
    · exact List.mem_cons_of_mem _ (ih h)

/-- Whatever is in a table after an insertion is new or was there. -/
theorem mem_or_of_mem_insert {e : String × α} (h : e ∈ insert key value t) :
    e = (key, value) ∨ e ∈ t := by
  induction t with
  | nil => exact .inl (List.mem_singleton.mp h)
  | cons d rest ih =>
    obtain ⟨k, v⟩ := d
    rw [insert] at h
    split at h
    · exact (List.mem_cons.mp h).imp_right (List.mem_cons_of_mem _)
    · split at h
      · exact List.mem_cons.mp h
      · rcases List.mem_cons.mp h with rfl | later
        · exact .inr List.mem_cons_self
        · exact (ih later).imp_right (List.mem_cons_of_mem _)

theorem IsSorted.insert (h : t.IsSorted) (key : String) (value : α) :
    (insert key value t).IsSorted := by
  induction t with
  | nil => exact List.pairwise_singleton _ _
  | cons d rest ih =>
    obtain ⟨k, v⟩ := d
    obtain ⟨before, rest_sorted⟩ := List.pairwise_cons.mp h
    rw [Table.insert]
    split
    · next same => exact List.pairwise_cons.mpr ⟨same ▸ before, rest_sorted⟩
    · next apart =>
      split
      · next sooner =>
        refine List.pairwise_cons.mpr ⟨fun e he => ?_, h⟩
        rcases List.mem_cons.mp he with rfl | later
        · exact sooner
        · exact sooner.trans (before e later)
      · next notSooner =>
        refine List.pairwise_cons.mpr ⟨fun e he => ?_, ih rest_sorted⟩
        rcases mem_or_of_mem_insert he with rfl | later
        · exact lt_of_le_of_ne (not_lt.mp notSooner) (Ne.symm apart)
        · exact before e later

theorem IsSorted.find?_eq_some_iff (h : t.IsSorted) :
    find? key t = some value ↔ (key, value) ∈ t :=
  ⟨mem_of_find?, fun he => h.find?_of_mem he⟩

theorem isSome_find?_iff : (find? key t).isSome ↔ key ∈ t.map Prod.fst := by
  induction t with
  | nil => simp
  | cons e rest ih =>
    obtain ⟨k, v⟩ := e
    rw [find?]
    split
    · next same => simp [same]
    · next apart => simp only [ih, List.map_cons, List.mem_cons, apart, false_or]

/-- To set a key to its value changes nothing. -/
theorem IsSorted.insert_of_find? (h : t.IsSorted) (found : find? key t = some value) :
    Table.insert key value t = t := by
  induction t with
  | nil => cases found
  | cons e rest ih =>
    obtain ⟨k, v⟩ := e
    obtain ⟨before, rest_sorted⟩ := List.pairwise_cons.mp h
    rw [find?] at found
    rw [Table.insert]
    split at found
    · next same => cases found; rw [if_pos same, same]
    · next apart =>
      have notSooner : ¬ key < k := fun sooner => by
        rw [find?_eq_none_of_lt fun e he => sooner.trans (before e he)] at found
        cases found
      rw [if_neg apart, if_neg notSooner, ih rest_sorted found]

theorem IsSorted.nodup (h : t.IsSorted) : t.Nodup :=
  h.imp fun before same => before.ne (congrArg Prod.fst same)

/-- Entries can be in order in one way only. -/
theorem IsSorted.eq_of_perm (ht : t.IsSorted) (hu : u.IsSorted) (perm : t.Perm u) : t = u :=
  List.Perm.eq_of_pairwise
    (fun _ _ _ _ before after => absurd (before.trans after) (lt_irrefl _)) ht hu perm

/-- Two tables in order are the same if all keys have the same values. -/
theorem IsSorted.ext (ht : t.IsSorted) (hu : u.IsSorted)
    (h : ∀ key, find? key t = find? key u) : t = u := by
  have perm : t.Perm u := by
    refine (List.perm_ext_iff_of_nodup ht.nodup hu.nodup).mpr fun e => ?_
    rw [← ht.find?_eq_some_iff, ← hu.find?_eq_some_iff, h]
  exact ht.eq_of_perm hu perm

theorem isSorted_ofList (entries : List (String × α)) : (ofList entries).IsSorted :=
  List.foldlRecOn entries _ List.Pairwise.nil fun _ sorted e _ => sorted.insert e.1 e.2

theorem mem_of_mem_ofList {entries : List (String × α)} {e : String × α}
    (h : e ∈ ofList entries) : e ∈ entries := by
  refine List.foldlRecOn (motive := fun t => ∀ d ∈ t, d ∈ entries) entries _ (fun _ none => ?_)
    (fun t among e he d hd => ?_) e h
  · cases none
  · rcases mem_or_of_mem_insert hd with rfl | old
    · exact he
    · exact among d old

theorem find?_foldl_insert_of_notMem {entries : List (String × α)}
    (h : key ∉ entries.map Prod.fst) (t : Table α) :
    find? key (entries.foldl (fun t e => Table.insert e.1 e.2 t) t) = find? key t := by
  induction entries generalizing t with
  | nil => rfl
  | cons e rest ih =>
    rw [List.map_cons, List.mem_cons, not_or] at h
    rw [List.foldl_cons, ih h.2, find?_insert_of_ne h.1]

/-- Of entries with different keys each is found. -/
theorem find?_ofList_of_mem {entries : List (String × α)} (distinct : (entries.map Prod.fst).Nodup)
    {e : String × α} (he : e ∈ entries) : find? e.1 (ofList entries) = some e.2 := by
  have found : ∀ t, find? e.1 (entries.foldl (fun t e => Table.insert e.1 e.2 t) t) = some e.2 := by
    induction entries with
    | nil => cases he
    | cons d rest ih =>
      intro t
      obtain ⟨apart, distinct⟩ := List.nodup_cons.mp distinct
      rcases List.mem_cons.mp he with rfl | later
      · rw [List.foldl_cons, find?_foldl_insert_of_notMem apart, find?_insert_self]
      · exact ih distinct later _
  exact found []

end Table

end Switchboard
