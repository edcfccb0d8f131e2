import Mathlib.Data.List.Nodup
import Mathlib.Data.List.TakeWhile
import Switchboard.Command.LiveSet

/-!
# First words

The words of a text are what is left between its blanks (`Text.words`). A command that is matched by
a word takes a message just if this is its first word (`Text.isSome_afterWord?_iff`), and what it is
then given is the rest of the message from its second word to its last, with nothing changed in
between (`Text.Follows`).

A message has one first word. So of commands with different words at most one takes it, and it makes
no difference in which order they are registered (`first_words_decide`).
-/

namespace Switchboard

namespace Text

/-- The words of a text. -/
def words (s : List Char) : List (List Char) := (s.splitOnP isBlank).filter fun w => !w.isEmpty

/-- Whether a text is one word. -/
def IsWord (w : List Char) : Prop := w ≠ [] ∧ ∀ c ∈ w, isBlank c = false

instance (w : List Char) : Decidable (IsWord w) :=
  decidable_of_iff ((!w.isEmpty && w.all fun c => !isBlank c) = true) (by simp [IsWord])

/-- Whether a text is white space throughout. -/
def IsBlankRun (s : List Char) : Prop := ∀ c ∈ s, isBlank c = true

variable {s t w rest before after : List Char} {c : Char}

/-! ## Words and blanks -/

theorem words_append_cons (s t : List Char) (h : isBlank c = true) :
    words (s ++ c :: t) = words s ++ words t := by
  rw [words, List.splitOnP_append_cons s t h, List.filter_append]
  rfl

theorem words_cons_of_isBlank (t : List Char) (h : isBlank c = true) : words (c :: t) = words t :=
  words_append_cons [] t h

theorem words_append_of_isBlankRun (h : IsBlankRun before) (t : List Char) :
    words (before ++ t) = words t := by
  induction before with
  | nil => rfl
  | cons c before ih =>
    rw [List.cons_append, words_cons_of_isBlank _ (h c List.mem_cons_self)]
    exact ih fun d hd => h d (List.mem_cons_of_mem c hd)

theorem words_of_isBlankRun (h : IsBlankRun s) : words s = [] := by
  have := words_append_of_isBlankRun h []
  rwa [List.append_nil] at this

theorem words_append_isBlankRun (s : List Char) (h : IsBlankRun after) :
    words (s ++ after) = words s := by
  cases after with
  | nil => rw [List.append_nil]
  | cons c after =>
    rw [words_append_cons s after (h c List.mem_cons_self),
      words_of_isBlankRun fun d hd => h d (List.mem_cons_of_mem c hd), List.append_nil]

theorem IsWord.words (h : IsWord w) : Text.words w = [w] := by
  rw [Text.words, List.splitOnP_eq_singleton h.2]
  simp [h.1]

/-- What may follow a word: nothing, or a blank. -/
def EndsWord (rest : List Char) : Prop := ∀ c ∈ rest.head?, isBlank c = true

theorem IsWord.words_append (h : IsWord w) (ends : EndsWord rest) :
    Text.words (w ++ rest) = w :: Text.words rest := by
  cases rest with
  | nil => rw [List.append_nil, h.words]; rfl
  | cons c rest =>
    have blank : isBlank c = true := ends c rfl
    rw [words_append_cons w rest blank, h.words, words_cons_of_isBlank rest blank]
    rfl

/-- A text that does not begin with a blank begins with its first word. -/
theorem exists_word_append (h : isBlank c = false) (t : List Char) :
    ∃ w rest, c :: t = w ++ rest ∧ IsWord w ∧ EndsWord rest := by
  refine ⟨(c :: t).takeWhile fun d => !isBlank d, (c :: t).dropWhile fun d => !isBlank d,
    List.takeWhile_append_dropWhile.symm, ⟨?_, fun d hd => ?_⟩, fun d hd => ?_⟩
  · simp [h]
  · simpa using List.mem_takeWhile_imp hd
  · have := List.head?_dropWhile_not (fun d => !isBlank d) (c :: t)
    rw [Option.mem_def.mp hd] at this
    simpa using this

/-! ## Trimming -/

theorem exists_trimStart (s : List Char) :
    ∃ before, IsBlankRun before ∧ s = before ++ trimStart s :=
  ⟨s.takeWhile isBlank, fun _ hc => List.mem_takeWhile_imp hc,
    List.takeWhile_append_dropWhile.symm⟩

theorem exists_trimEnd (s : List Char) : ∃ after, IsBlankRun after ∧ s = trimEnd s ++ after := by
  refine ⟨(s.reverse.takeWhile isBlank).reverse, fun c hc => ?_, ?_⟩
  · exact List.mem_takeWhile_imp (List.mem_reverse.mp hc)
  · rw [trimEnd, ← List.reverse_append, List.takeWhile_append_dropWhile, List.reverse_reverse]

/-- Trimming takes white space away at both ends. -/
theorem exists_trim (s : List Char) :
    ∃ before after, IsBlankRun before ∧ IsBlankRun after ∧ s = before ++ trim s ++ after := by
  obtain ⟨before, blank, front⟩ := exists_trimStart s
  obtain ⟨after, blank', back⟩ := exists_trimEnd (trimStart s)
  refine ⟨before, after, blank, blank', ?_⟩
  rw [trim, List.append_assoc, ← back]
  exact front

theorem words_trim (s : List Char) : words (trim s) = words s := by
  obtain ⟨before, after, blank, blank', whole⟩ := exists_trim s
  conv => rhs; rw [whole]
  rw [words_append_isBlankRun _ blank', words_append_of_isBlankRun blank]

theorem isBlank_head_trim (h : c ∈ (trim s).head?) : isBlank c = false := by
  obtain ⟨more, trimmed⟩ := List.head?_eq_some_iff.mp h
  obtain ⟨after, -, whole⟩ := exists_trimEnd (trimStart s)
  rw [← trim, trimmed, List.cons_append] at whole
  exact head_trimStart whole

theorem isBlank_getLast_trim (h : c ∈ (trim s).getLast?) : isBlank c = false := by
  have first := List.head?_dropWhile_not isBlank (trimStart s).reverse
  rw [trim, trimEnd, List.getLast?_reverse] at h
  rw [Option.mem_def.mp h] at first
  exact first

/-! ## The first word of a message -/

theorem words_trimStart (s : List Char) : words (trimStart s) = words s := by
  obtain ⟨before, blank, whole⟩ := exists_trimStart s
  conv => rhs; rw [whole]
  rw [words_append_of_isBlankRun blank]

/-- What is given to a command: the message from its second word to its last. -/
structure Follows (word message rest : List Char) : Prop where
  /-- No blank is left at the ends. -/
  head : ∀ c ∈ rest.head?, isBlank c = false
  last : ∀ c ∈ rest.getLast?, isBlank c = false
  words_eq : words rest = (words message).tail
  /-- The text itself is that of the message. -/
  text : ∃ before between after, IsBlankRun before ∧ IsBlankRun between ∧ IsBlankRun after ∧
    message = before ++ word ++ between ++ rest ++ after

variable {word message : List Char}

/-- A word is found just if the message, without the blanks in front, is this word and what may
follow it. -/
theorem afterWord?_eq_some_iff :
    afterWord? word message = some rest ↔
      ∃ behind, trimStart message = word ++ behind ∧ EndsWord behind ∧ rest = trim behind := by
  constructor
  · intro h
    unfold afterWord? at h
    split at h
    · cases h
    · next stripped =>
      cases h
      exact ⟨[], (List.isPrefixOf?_eq_some_iff_append_eq.mp stripped).symm, by simp [EndsWord], rfl⟩
    · next c behind stripped =>
      split at h
      · next blank =>
        cases h
        refine ⟨c :: behind, (List.isPrefixOf?_eq_some_iff_append_eq.mp stripped).symm, ?_, rfl⟩
        rintro d ⟨⟩
        exact blank
      · cases h
  · rintro ⟨behind, starts, ends, rfl⟩
    have stripped : stripPrefix? word (trimStart message) = some behind :=
      List.isPrefixOf?_eq_some_iff_append_eq.mpr starts.symm
    rw [afterWord?, stripped]
    cases behind with
    | nil => rfl
    | cons c behind => exact if_pos (ends c rfl)

/-- A word is found just if it is the first one of the message. -/
theorem isSome_afterWord?_iff (h : IsWord word) :
    (afterWord? word message).isSome ↔ (words message).head? = some word := by
  rw [Option.isSome_iff_exists, ← words_trimStart]
  constructor
  · rintro ⟨rest, found⟩
    obtain ⟨behind, starts, ends, -⟩ := afterWord?_eq_some_iff.mp found
    rw [starts, h.words_append ends]
    rfl
  · intro first
    cases start : trimStart message with
    | nil => rw [start] at first; cases first
    | cons c more =>
      obtain ⟨w, behind, split, isWord, ends⟩ := exists_word_append (head_trimStart start) more
      rw [start, split, isWord.words_append ends] at first
      cases first
      exact ⟨_, afterWord?_eq_some_iff.mpr ⟨behind, start.trans split, ends, rfl⟩⟩

/-- What is found behind a word follows it in the message. -/
theorem follows_of_afterWord? (h : IsWord word) (found : afterWord? word message = some rest) :
    Follows word message rest := by
  obtain ⟨behind, starts, ends, rfl⟩ := afterWord?_eq_some_iff.mp found
  obtain ⟨before, blank, front⟩ := exists_trimStart message
  obtain ⟨between, after, blank', blank'', back⟩ := exists_trim behind
  refine ⟨fun c => isBlank_head_trim, fun c => isBlank_getLast_trim, ?_,
    before, between, after, blank, blank', blank'', ?_⟩
  · rw [words_trim, ← words_trimStart message, starts, h.words_append ends]
    rfl
  · calc message = before ++ (word ++ behind) := starts ▸ front
      _ = before ++ (word ++ (between ++ trim behind ++ after)) := by rw [← back]
      _ = _ := by simp only [List.append_assoc]

end Text

/-! ## Commands that are matched by words -/

section Routing

variable {κ : Type}

/-- No message has two first words. -/
theorem Input.eq_of_isSome_afterWord? {i : Input} {v w : String}
    (hv : Text.IsWord v.toList) (hw : Text.IsWord w.toList)
    (first : (i.afterWord? v).isSome) (second : (i.afterWord? w).isSome) : v = w := by
  rw [Input.afterWord?, Option.isSome_map, Text.isSome_afterWord?_iff hv] at first
  rw [Input.afterWord?, Option.isSome_map, Text.isSome_afterWord?_iff hw, first] at second
  exact String.toList_injective (Option.some.inj second)

/-- If at most one element of a list fulfils a condition, it is found wherever it stands. -/
theorem find?_eq_of_perm {α : Type} {p : α → Bool} {l l' : List α} (perm : l'.Perm l)
    (unique : ∀ a ∈ l, ∀ b ∈ l, p a = true → p b = true → a = b) : l'.find? p = l.find? p := by
  cases found : l.find? p with
  | none =>
    rw [List.find?_eq_none] at found ⊢
    exact fun a ha => found a (perm.mem_iff.mp ha)
  | some a =>
    have own := List.find?_some found
    have present := List.mem_of_find?_eq_some found
    cases found' : l'.find? p with
    | none => exact absurd own (List.find?_eq_none.mp found' a (perm.mem_iff.mpr present))
    | some b =>
      have other := List.mem_of_find?_eq_some found'
      rw [unique b (perm.mem_iff.mp other) a present (List.find?_some found') own]

theorem LiveSet.exists_word_of_mem {s : LiveSet κ} {matchers : List String}
    (byWords : s.commands.map Command.matcher = matchers.map Matcher.word) {c : Command κ}
    (hc : c ∈ s.commands) : ∃ w ∈ matchers, Matcher.word w = c.matcher :=
  List.mem_map.mp (byWords ▸ List.mem_map_of_mem hc)

/-- Words never panic, so the first command whose word matches is found. -/
theorem LiveSet.find?_of_words {s : LiveSet κ}
    (words : ∀ c ∈ s.commands, ∃ w, Matcher.word w = c.matcher) (i : Input) :
    s.find? i = s.commands.find? fun c => c.matcher.accepts i := by
  have calm : ∀ c ∈ s.commands, ∀ m, c.matcher.answer i ≠ .error m := by
    intro c hc m
    obtain ⟨w, matcher⟩ := words c hc
    rw [← matcher]
    exact nofun
  rw [find?, search_of_calm calm]
  rfl

/-- Of live commands that are matched by different words at most one takes an input. -/
theorem LiveSet.eq_of_accepts {s : LiveSet κ} {matchers : List String}
    (byWords : s.commands.map Command.matcher = matchers.map Matcher.word)
    (distinct : matchers.Nodup) (areWords : ∀ w ∈ matchers, Text.IsWord w.toList) {i : Input} :
    ∀ c ∈ s.commands, ∀ d ∈ s.commands,
      c.matcher.accepts i = true → d.matcher.accepts i = true → c = d := by
  have apart : (s.commands.map Command.matcher).Nodup :=
    byWords ▸ List.Nodup.map (fun _ _ => Matcher.word.inj) distinct
  intro c hc d hd first second
  obtain ⟨v, hv, matcher⟩ := LiveSet.exists_word_of_mem byWords hc
  obtain ⟨w, hw, matcher'⟩ := LiveSet.exists_word_of_mem byWords hd
  rw [← matcher] at first
  rw [← matcher'] at second
  have same : v = w := Input.eq_of_isSome_afterWord? (areWords v hv) (areWords w hw) first second
  exact List.inj_on_of_nodup_map apart hc hd (by rw [← matcher, ← matcher', same])

end Routing

/-- A word matches a message just if it is its first one, and what is given to the command is the
message behind it. So at most one of different words matches, and commands that are matched by
different words are found alike in every order. -/
theorem first_words_decide {κ : Type} :
    (∀ (i : Input) (word : String), Text.IsWord word.toList →
      ((i.afterWord? word).isSome ↔ (Text.words i.message.toList).head? = some word.toList) ∧
      ∀ rest, i.afterWord? word = some rest →
        Text.Follows word.toList i.message.toList rest.toList) ∧
    (∀ (i : Input) (v w : String), Text.IsWord v.toList → Text.IsWord w.toList →
      (i.afterWord? v).isSome → (i.afterWord? w).isSome → v = w) ∧
    ∀ (s : LiveSet κ) (matchers : List String),
      s.commands.map Command.matcher = matchers.map Matcher.word → matchers.Nodup →
      (∀ w ∈ matchers, Text.IsWord w.toList) →
      ∀ (commands : List (Command κ)), commands.Perm s.commands →
      ∀ i, LiveSet.find? ⟨s.botType, commands⟩ i = s.find? i := by
  refine ⟨fun i word isWord => ⟨?_, fun rest found => ?_⟩,
    fun i v w => Input.eq_of_isSome_afterWord?, ?_⟩
  · rw [Input.afterWord?, Option.isSome_map]
    exact Text.isSome_afterWord?_iff isWord
  · obtain ⟨behind, stripped, rfl⟩ := Option.map_eq_some_iff.mp found
    rw [String.toList_ofList]
    exact Text.follows_of_afterWord? isWord stripped
  · intro s matchers byWords distinct areWords commands perm i
    have words : ∀ c ∈ s.commands, ∃ w, Matcher.word w = c.matcher := fun c hc =>
      (LiveSet.exists_word_of_mem byWords hc).imp fun _ => And.right
    rw [LiveSet.find?_of_words words, LiveSet.find?_of_words fun c hc =>
      words c (perm.mem_iff.mp hc)]
    exact find?_eq_of_perm perm (LiveSet.eq_of_accepts byWords distinct areWords)

/-! ### A word between white space of several kinds -/

namespace Greeted

def message : String := "\u3000\n.echo\u00a0 hi\u2003 there\t"

def input : Input := { sender := "U1", message, replyTo := ⟨"C1"⟩ }

def echo : Command Unit :=
  { identifier := "echo", matcher := .word ".echo", run := fun _ => .done {} }

def echoes : Command Unit :=
  { identifier := "echoes", matcher := .word ".echoes", run := fun _ => .done {} }

def commands : LiveSet Unit := ⟨⟨"slack"⟩, [echoes, echo]⟩

/-- The command for the first word is given the rest, whichever of the two is registered first. -/
theorem echo_is_given_the_rest :
    input.afterWord? ".echo" = some "hi\u2003 there" ∧
    Text.words message.toList = [".echo".toList, "hi".toList, "there".toList] ∧
    Text.Follows ".echo".toList message.toList "hi\u2003 there".toList ∧
    (∀ w, Text.IsWord w.toList → (input.afterWord? w).isSome → ".echo" = w) ∧
    LiveSet.find? ⟨⟨"slack"⟩, [echo, echoes]⟩ input = commands.find? input := by
  obtain ⟨words, unique, routing⟩ := @first_words_decide Unit
  have isWord : Text.IsWord ".echo".toList := by decide +kernel
  have found : input.afterWord? ".echo" = some "hi\u2003 there" := by decide +kernel
  refine ⟨found, by decide +kernel, (words input ".echo" isWord).2 _ found,
    fun w other matched => ?_, ?_⟩
  · exact unique input ".echo" w isWord other (by rw [found]; rfl) matched
  · exact routing commands [".echoes", ".echo"] rfl (by decide) (by decide +kernel) _
      (List.Perm.swap echoes echo []) input

end Greeted

end Switchboard
