import Mathlib.Data.List.Infix

/-!
# Where a mark occurs

A mark is a text whose first character does not come again in it (`Text.IsMark`), so that two of its
occurrences never overlap (`Text.IsMark.eq_nil_or_leads`). Where a mark occurs first, it cuts a
text in one way (`Text.IsMark.exists_first`, `Text.IsMark.first_unique`).
-/

namespace Switchboard

namespace Text

variable {mark before after before' after' s : List Char}

/-- A text whose first character occurs in it once. -/
def IsMark (mark : List Char) : Prop := ∃ c rest, mark = c :: rest ∧ c ∉ rest

namespace IsMark

theorem length_pos (h : IsMark mark) : 0 < mark.length := by
  obtain ⟨c, rest, rfl, -⟩ := h
  exact Nat.succ_pos _

/-- Of two occurrences one is behind the whole of the other, or they are the same. -/
theorem eq_nil_or_leads (h : IsMark mark) (same : mark ++ after = before ++ (mark ++ after')) :
    before = [] ∨ mark <+: before := by
  obtain ⟨c, rest, rfl, once⟩ := h
  rcases List.append_eq_append_iff.mp same with ⟨m, rfl, -⟩ | ⟨m, front, back⟩
  · exact .inr (List.prefix_append ..)
  · cases m with
    | nil => exact .inr ⟨[], by rw [front, List.append_nil, List.append_nil]⟩
    | cons d m =>
      -- The second occurrence begins within the first, so its first character would come again.
      rw [List.cons_append, List.cons_append, List.cons.injEq] at back
      obtain ⟨rfl, -⟩ := back
      cases before with
      | nil => exact .inl rfl
      | cons e before =>
        rw [List.cons_append, List.cons.injEq] at front
        exact absurd (front.2 ▸ List.mem_append_right _ List.mem_cons_self) once

/-- A text in which a mark occurs has a first occurrence. -/
theorem exists_first (h : IsMark mark) (occurs : mark <:+: s) :
    ∃ before after, s = before ++ mark ++ after ∧ ¬ mark <:+: before := by
  obtain ⟨before, after, rfl⟩ := occurs
  induction size : before.length using Nat.strong_induction_on generalizing before after with
  | _ n ih =>
    by_cases earlier : mark <:+: before
    · obtain ⟨front, back, rfl⟩ := earlier
      have shorter : front.length < n := by
        have := h.length_pos
        simp only [← size, List.length_append]
        omega
      obtain ⟨b, a, same, first⟩ := ih _ shorter front (back ++ mark ++ after) rfl
      exact ⟨b, a, by rw [← same]; simp only [List.append_assoc], first⟩
    · exact ⟨before, after, rfl, earlier⟩

/-- There is one first occurrence. -/
theorem first_unique (h : IsMark mark) (first : ¬ mark <:+: before) (first' : ¬ mark <:+: before')
    (same : before ++ mark ++ after = before' ++ mark ++ after') :
    before = before' ∧ after = after' := by
  rw [List.append_assoc, List.append_assoc] at same
  rcases List.append_eq_append_iff.mp same with ⟨l, rfl, rest⟩ | ⟨l, rfl, rest⟩
  · rcases h.eq_nil_or_leads rest with rfl | between
    · exact ⟨(List.append_nil _).symm, List.append_cancel_left rest⟩
    · exact absurd (between.isInfix.trans (List.suffix_append ..).isInfix) first'
  · rcases h.eq_nil_or_leads rest with rfl | between
    · exact ⟨List.append_nil _, (List.append_cancel_left rest).symm⟩
    · exact absurd (between.isInfix.trans (List.suffix_append ..).isInfix) first

end IsMark

end Text

end Switchboard
