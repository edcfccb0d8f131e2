import Switchboard.Console
import Switchboard.Proofs.Occurrences

/-!
# Placeholders of a format

A format is filled from left to right: its placeholders take the texts of a list one after another,
and every other character stays (`Console.fill`). A console puts the destination of an output into
the first placeholder of its format, and the content into the first placeholder of what comes of
that. So the line is the filled format as long as the destination makes up no placeholder of its
own, alone or with the characters around it (`Console.IsMisled`). Where it does, the content stands
inside the destination, and the second placeholder of the format is left
(`Console.formats_are_filled_unless_misled`).
-/

namespace Switchboard

namespace Text

variable {hole value before after s : List Char}

/-- A text without a hole stays as it is. -/
theorem substituteFirst_of_absent (h : ¬ hole <:+: s) :
    substituteFirst hole value s = s := by
  induction s with
  | nil =>
    cases hole with
    | nil => exact absurd List.nil_infix h
    | cons c rest => rfl
  | cons c rest ih =>
    rw [List.infix_cons_iff, not_or] at h
    rw [substituteFirst]
    split
    · next found =>
      exact absurd ⟨_, List.isPrefixOf?_eq_some_iff_append_eq.mp found⟩ h.1
    · rw [ih h.2]

/-- The first hole of a text takes the value. -/
theorem substituteFirst_append (mark : IsMark hole) (first : ¬ hole <:+: before) :
    substituteFirst hole value (before ++ hole ++ after) = before ++ value ++ after := by
  induction before with
  | nil =>
    obtain ⟨c, rest, rfl, -⟩ := mark
    have found : (c :: rest).isPrefixOf? (c :: rest ++ after) = some after :=
      List.isPrefixOf?_eq_some_iff_append_eq.mpr rfl
    rw [List.nil_append, List.cons_append, substituteFirst, ← List.cons_append, found]
    rfl
  | cons c before ih =>
    rw [List.cons_append, List.cons_append, substituteFirst]
    split
    · next found =>
      have here := List.isPrefixOf?_eq_some_iff_append_eq.mp found
      rw [List.append_assoc, ← List.cons_append] at here
      rcases mark.eq_nil_or_leads here with none | front
      · cases none
      · exact absurd front.isInfix first
    · rw [ih fun later => first (List.infix_cons_iff.mpr (.inr later))]
      rfl

end Text

namespace Console

variable {before after middle s : List Char} {texts : List (List Char)} {text : List Char}

/-- A format whose placeholders take, from left to right, the texts of a list. Placeholders for
which no text is left stay. -/
def fill : List (List Char) → List Char → List Char
  | [], s => s
  | _ :: _, [] => []
  | _ :: _, [c] => [c]
  | text :: texts, c :: d :: rest =>
    if [c, d] = placeholder then text ++ fill texts rest
    else c :: fill (text :: texts) (d :: rest)

/-! ## Where placeholders are -/

theorem isMark_placeholder : Text.IsMark placeholder := ⟨_, _, rfl, by decide⟩

/-- A placeholder in two texts that follow each other is in the first, with the next character
at most, or in the second. -/
theorem placeholder_infix_append_iff (s t : List Char) :
    placeholder <:+: s ++ t ↔ placeholder <:+: s ++ t.take 1 ∨ placeholder <:+: t := by
  induction s with
  | nil =>
    rw [List.nil_append, List.nil_append]
    have lead := List.take_prefix 1 t
    exact ⟨.inr, fun h => h.elim (fun short => short.trans lead.isInfix) id⟩
  | cons c s ih =>
    have head : placeholder <+: c :: (s ++ t) ↔ placeholder <+: c :: (s ++ t.take 1) := by
      cases s <;> cases t <;> simp [placeholder]
    rw [List.cons_append, List.cons_append, List.infix_cons_iff, List.infix_cons_iff, ih, head,
      or_assoc]

/-! ## Filling -/

theorem fill_of_absent (h : ¬ placeholder <:+: s) : fill texts s = s := by
  cases texts with
  | nil => rw [fill]
  | cons text texts =>
    induction s with
    | nil => rfl
    | cons c s ih =>
      rw [List.infix_cons_iff, not_or] at h
      cases s with
      | nil => rfl
      | cons d rest =>
        have other : [c, d] ≠ placeholder := fun same => h.1 ⟨rest, by rw [← same]; rfl⟩
        rw [fill, if_neg other, ih h.2]

/-- The first placeholder takes the first text. -/
theorem fill_append (first : ¬ placeholder <:+: before) :
    fill (text :: texts) (before ++ placeholder ++ after) = before ++ text ++ fill texts after := by
  induction before with
  | nil => exact if_pos rfl
  | cons c before ih =>
    rw [List.infix_cons_iff, not_or] at first
    have later := ih first.2
    cases before with
    | nil =>
      calc fill (text :: texts) (c :: (placeholder ++ after))
          = c :: fill (text :: texts) (placeholder ++ after) := if_neg (by simp [placeholder])
        _ = c :: (text ++ fill texts after) := congrArg _ later
    | cons d rest =>
      have other : [c, d] ≠ placeholder := fun same => first.1 ⟨rest, by rw [← same]; rfl⟩
      calc fill (text :: texts) (c :: (d :: rest ++ placeholder ++ after))
          = c :: fill (text :: texts) (d :: rest ++ placeholder ++ after) := if_neg other
        _ = c :: (d :: rest ++ text ++ fill texts after) := congrArg _ later

/-! ## Lines of a console -/

/-- The destination makes up a placeholder, alone or with the characters around it, which is found
before the second one of the format. -/
def IsMisled (c : Console) (o : Output) : Prop :=
  ∃ before after, c.format.toList = before ++ placeholder ++ after ∧ ¬ placeholder <:+: before ∧
    placeholder <:+: before ++ o.destination.name.toList ++ after.take 1

variable {c : Console} {o : Output}

theorem isMisled_iff (format : c.format.toList = before ++ placeholder ++ after)
    (first : ¬ placeholder <:+: before) :
    c.IsMisled o ↔ placeholder <:+: before ++ o.destination.name.toList ++ after.take 1 := by
  refine ⟨?_, fun made => ⟨before, after, format, first, made⟩⟩
  rintro ⟨before', after', format', first', made⟩
  obtain ⟨rfl, rfl⟩ := isMark_placeholder.first_unique first first' (format.symm.trans format')
  exact made

theorem toList_render (format : c.format.toList = before ++ placeholder ++ after)
    (first : ¬ placeholder <:+: before) :
    (c.render o).toList = Text.substituteFirst placeholder o.content.display.toList
      (before ++ o.destination.name.toList ++ after) := by
  rw [render, String.toList_ofList, format, Text.substituteFirst_append isMark_placeholder first]

/-- A format without a placeholder is the line itself. -/
theorem toList_render_of_absent (h : ¬ placeholder <:+: c.format.toList) :
    (c.render o).toList = c.format.toList := by
  rw [render, String.toList_ofList, Text.substituteFirst_of_absent h,
    Text.substituteFirst_of_absent h]

theorem toList_render_of_not_isMisled (h : ¬ c.IsMisled o) :
    (c.render o).toList =
      fill [o.destination.name.toList, o.content.display.toList] c.format.toList := by
  by_cases some : placeholder <:+: c.format.toList
  · obtain ⟨before, after, format, first⟩ := isMark_placeholder.exists_first some
    have free : ¬ placeholder <:+: before ++ o.destination.name.toList ++ after.take 1 :=
      fun made => h ⟨before, after, format, first, made⟩
    rw [toList_render format first, format, fill_append first]
    by_cases second : placeholder <:+: after
    · obtain ⟨middle, rest, rfl, next⟩ := isMark_placeholder.exists_first second
      have unfilled : ¬ placeholder <:+: before ++ o.destination.name.toList ++ middle := by
        rw [placeholder_infix_append_iff, not_or]
        refine ⟨fun made => free (made.trans (List.IsPrefix.isInfix ?_)), next⟩
        rw [List.append_assoc middle]
        exact (List.prefix_append_right_inj _).mpr ((List.prefix_append ..).take 1)
      rw [fill_append next, fill, List.append_assoc middle, ← List.append_assoc _ middle,
        ← List.append_assoc _ placeholder,
        Text.substituteFirst_append isMark_placeholder unfilled]
      simp only [List.append_assoc]
    · have none : ¬ placeholder <:+: before ++ o.destination.name.toList ++ after := by
        rw [placeholder_infix_append_iff, not_or]
        exact ⟨free, second⟩
      rw [Text.substituteFirst_of_absent none, fill_of_absent second]
  · rw [toList_render_of_absent some, fill_of_absent some]

/-- The format that a console has by itself puts the destination between square brackets, so that
only a placeholder within the destination misleads. -/
theorem isMisled_default_iff (bot : BotType) (o : Output) :
    IsMisled { botType := bot } o ↔ placeholder <:+: o.destination.name.toList := by
  have format : ({ botType := bot } : Console).format.toList =
      ['\x1b', '[', '3', '6', 'm', '['] ++ placeholder ++ "]\x1b[0m \x7b\x7d".toList := by
    show "\x1b[36m[\x7b\x7d]\x1b[0m \x7b\x7d".toList = _
    decide
  have next : "]\x1b[0m \x7b\x7d".toList.take 1 = [']'] := by decide
  have last : ∀ s : List Char, placeholder <:+: s ++ [']'] ↔ placeholder <:+: s := by
    intro s
    rw [List.infix_concat_iff, or_iff_right]
    rintro ⟨front, same⟩
    have := congrArg List.getLast? same
    simp [placeholder] at this
  rw [isMisled_iff format (by decide), next, last]
  simp [List.infix_cons_iff, placeholder]

/-- The line of an output is the format whose first placeholder has taken the destination and whose
second has taken the content, whatever both contain and whatever else stands in the format, unless
the destination makes up a placeholder of its own. Then that one takes the content, and behind the
destination the format stays as it is. In the format that a console has by itself, only a
destination that contains a placeholder makes up one. -/
theorem formats_are_filled_unless_misled (c : Console) (o : Output) :
    (¬ c.IsMisled o → (c.render o).toList =
      fill [o.destination.name.toList, o.content.display.toList] c.format.toList) ∧
    (∀ before after front back,
      c.format.toList = before ++ placeholder ++ after → ¬ placeholder <:+: before →
      before ++ o.destination.name.toList ++ after.take 1 = front ++ placeholder ++ back →
      ¬ placeholder <:+: front →
      (c.render o).toList = front ++ o.content.display.toList ++ back ++ after.drop 1) ∧
    ∀ bot, IsMisled { botType := bot } o ↔ placeholder <:+: o.destination.name.toList := by
  refine ⟨toList_render_of_not_isMisled, ?_, fun bot => isMisled_default_iff bot o⟩
  intro before after front back format first made next
  have whole : before ++ o.destination.name.toList ++ after =
      front ++ placeholder ++ (back ++ after.drop 1) := by
    conv_lhs => rw [← List.take_append_drop 1 after, ← List.append_assoc, made]
    rw [List.append_assoc]
  rw [toList_render format first, whole, Text.substituteFirst_append isMark_placeholder next]
  simp only [List.append_assoc]

/-! ### Braces in a content and in a destination -/

namespace Rendered

/-- A console with a placeholder to spare. -/
def console : Console :=
  { botType := ⟨"console"⟩, format := "\x7b\x7d > \x7b\x7d (\x7b\x7d)" }

/-- A content with braces, for a destination without any. -/
def plain : Output := ⟨⟨"C"⟩, .text "\x7b\x7d!"⟩

/-- A destination that ends with a placeholder. -/
def misleading : Output := ⟨⟨"C\x7b\x7d"⟩, .text "hello"⟩

/-- The content is written as it is, and so is the third placeholder; in the destination with a
placeholder the content is written instead. -/
theorem content_stands_in_second_placeholder :
    ¬ console.IsMisled plain ∧ console.render plain = "C > \x7b\x7d! (\x7b\x7d)" ∧
    console.render misleading = "Chello > \x7b\x7d (\x7b\x7d)" := by
  have format : console.format.toList =
      [] ++ placeholder ++ " > \x7b\x7d (\x7b\x7d)".toList := by decide
  have first : ¬ placeholder <:+: [] := by decide
  have led : ¬ console.IsMisled plain := by
    rw [isMisled_iff format first]
    decide
  refine ⟨led, String.toList_injective ?_, String.toList_injective ?_⟩
  · rw [(formats_are_filled_unless_misled console plain).1 led]
    decide
  · rw [(formats_are_filled_unless_misled console misleading).2.1 [] _ ['C'] [' '] format first
      (by decide) (by decide)]
    decide

/-- A destination that is a placeholder is replaced by the content, and the placeholder of the
content is left; where the format has braces around a placeholder, no destination at all will do as
well. -/
theorem content_takes_place_of_destination :
    let console : Console := ⟨⟨"console"⟩, "\x7b\x7d > \x7b\x7d"⟩
    let braced : Console := ⟨⟨"console"⟩, "\x7b\x7b\x7d\x7d > \x7b\x7d"⟩
    console.render ⟨⟨"\x7b\x7d"⟩, .text "hello"⟩ = "hello > \x7b\x7d" ∧
    fill ["\x7b\x7d".toList, "hello".toList] console.format.toList =
      "\x7b\x7d > hello".toList ∧
    braced.render ⟨⟨""⟩, .text "hello"⟩ = "hello > \x7b\x7d" ∧
    fill ["".toList, "hello".toList] braced.format.toList = "\x7b\x7d > hello".toList := by
  decide

end Rendered

end Console

end Switchboard
