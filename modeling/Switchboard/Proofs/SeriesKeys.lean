import Switchboard.Proofs.Counters
import Switchboard.Proofs.Occurrences

/-!
# Keys of series

The key of a series writes its labels in the order of their keys, so it does not matter in which
order they are given (`Metrics.seriesKey_eq_of_perm`). Nothing in a key is quoted. A key tells its
name and its labels apart as long as no name holds an opening brace, no label key an equals sign and
no label value a comma (`Metrics.seriesKey_eq_iff_perm`).

The series of a command have a bot type and a label as their values, and keys of their own unless
the text between the two is also found within one of them (`Runner.sharesSeries_iff`).
-/

namespace Switchboard

namespace Metrics

variable {name name' : String} {labels labels' : Labels}

/-! ## The order of labels -/

/-- Labels with different keys are in order like the entries of a table. -/
theorem isSorted_sortLabels (distinct : (labels.map Prod.fst).Nodup) :
    Table.IsSorted (sortLabels labels) := by
  have ordered : (sortLabels labels).Pairwise fun a b => (!decide (b.1 < a.1)) = true := by
    refine List.pairwise_mergeSort (fun a b c ab bc => ?_) (fun a b => ?_) labels
    · simp only [Bool.not_eq_true', decide_eq_false_iff_not, not_lt] at ab bc ⊢
      exact ab.trans bc
    · simp only [Bool.or_eq_true, Bool.not_eq_true', decide_eq_false_iff_not, not_lt]
      exact le_total a.1 b.1
  have apart : ((sortLabels labels).map Prod.fst).Nodup :=
    (((List.mergeSort_perm ..).map Prod.fst).nodup_iff).mpr distinct
  refine (ordered.and (List.pairwise_map.mp apart)).imp fun {a b} h => ?_
  have notAfter : ¬ b.1 < a.1 := by
    simpa only [Bool.not_eq_true', decide_eq_false_iff_not] using h.1
  exact lt_of_le_of_ne (not_lt.mp notAfter) h.2

theorem sortLabels_eq_iff_perm (distinct : (labels.map Prod.fst).Nodup) :
    sortLabels labels = sortLabels labels' ↔ labels.Perm labels' := by
  have own : (sortLabels labels).Perm labels := List.mergeSort_perm ..
  have other : (sortLabels labels').Perm labels' := List.mergeSort_perm ..
  refine ⟨fun same => own.symm.trans (same ▸ other), fun perm => ?_⟩
  have distinct' : (labels'.map Prod.fst).Nodup := (perm.map Prod.fst).nodup_iff.mp distinct
  exact (isSorted_sortLabels distinct).eq_of_perm (isSorted_sortLabels distinct')
    (own.trans (perm.trans other.symm))

/-- It does not matter in which order labels are given. -/
theorem seriesKey_eq_of_perm (name : String) (distinct : (labels.map Prod.fst).Nodup)
    (perm : labels.Perm labels') : seriesKey name labels = seriesKey name labels' := by
  have empty : labels.isEmpty = labels'.isEmpty := by
    rw [Bool.eq_iff_iff, List.isEmpty_iff, List.isEmpty_iff]
    exact ⟨fun none => (none ▸ perm).nil_eq.symm, fun none => (none ▸ perm).eq_nil⟩
  rw [seriesKey, seriesKey, empty, (sortLabels_eq_iff_perm distinct).mpr perm]

/-! ## What a key says -/

/-- Labels that can be told from what is written of them. -/
def IsReadable (labels : Labels) : Prop :=
  ∀ l ∈ labels, '=' ∉ l.1.toList ∧ ',' ∉ l.2.toList

instance : Decidable (IsReadable labels) := List.decidableBAll ..

/-- Labels as they are written, each with a comma behind it. -/
def written (labels : Labels) : List Char :=
  labels.flatMap fun l => l.1.toList ++ ['='] ++ l.2.toList ++ [',']

/-- A text up to a character that does not occur in it. -/
theorem eq_of_append_singleton {c : Char} {a a' b b' : List Char} (h : c ∉ a) (h' : c ∉ a')
    (same : a ++ [c] ++ b = a' ++ [c] ++ b') : a = a' ∧ b = b' := by
  have mark : Text.IsMark [c] := ⟨c, [], rfl, List.not_mem_nil⟩
  have within {text : List Char} (inside : [c] <:+: text) : c ∈ text :=
    inside.subset (List.mem_singleton_self c)
  exact mark.first_unique (mt within h) (mt within h') same

theorem eq_of_written_eq (readable : IsReadable labels) (readable' : IsReadable labels')
    (same : written labels = written labels') : labels = labels' := by
  induction labels generalizing labels' with
  | nil =>
    cases labels' with
    | nil => rfl
    | cons l labels' => simp [written] at same
  | cons l labels ih =>
    cases labels' with
    | nil => simp [written] at same
    | cons l' labels' =>
      obtain ⟨⟨key, value⟩, rest⟩ := List.forall_mem_cons.mp readable
      obtain ⟨⟨key', value'⟩, rest'⟩ := List.forall_mem_cons.mp readable'
      simp only [written, List.flatMap_cons, List.append_assoc] at same
      rw [← List.append_assoc, ← List.append_assoc l'.1.toList] at same
      obtain ⟨keys, behind⟩ := eq_of_append_singleton key key' same
      rw [← List.append_assoc, ← List.append_assoc l'.2.toList] at behind
      obtain ⟨values, behind⟩ := eq_of_append_singleton value value' behind
      rw [ih rest rest' (by simpa only [written, List.append_assoc] using behind),
        Prod.ext (String.toList_injective keys) (String.toList_injective values)]

theorem intercalate_append {separator : List Char} {texts : List (List Char)} (some : texts ≠ []) :
    separator.intercalate texts ++ separator = texts.flatMap fun t => t ++ separator := by
  induction texts with
  | nil => exact absurd rfl some
  | cons t texts ih =>
    cases texts with
    | nil => simp
    | cons u texts =>
      rw [List.intercalate_cons_cons, List.flatMap_cons, ← ih (List.cons_ne_nil u texts)]
      simp only [List.append_assoc]

/-- Between the braces of a key the labels are written with commas in between. -/
theorem exists_toList_seriesKey (name : String) (some : labels ≠ []) :
    ∃ inner, (seriesKey name labels).toList = name.toList ++ ['\x7b'] ++ inner ++ ['\x7d'] ∧
      inner ++ [','] = written (sortLabels labels) := by
  have filled : labels.isEmpty = false := by simpa using some
  refine ⟨[','].intercalate ((sortLabels labels).map fun l => l.1.toList ++ ['='] ++ l.2.toList),
    ?_, ?_⟩
  · rw [seriesKey, if_neg (by simp [filled])]
    simp [Function.comp_def]
  · rw [intercalate_append, List.flatMap_map]
    · rfl
    · intro none
      have own : (sortLabels labels).Perm labels := List.mergeSort_perm ..
      rw [List.map_eq_nil_iff.mp none] at own
      exact some own.nil_eq.symm

/-- A key tells its name and its labels, unless they hold what stands between them. -/
theorem seriesKey_eq_iff_perm (plain : IsPlain name) (plain' : IsPlain name')
    (readable : IsReadable labels) (readable' : IsReadable labels')
    (distinct : (labels.map Prod.fst).Nodup) :
    seriesKey name labels = seriesKey name' labels' ↔ name = name' ∧ labels.Perm labels' := by
  constructor
  · intro same
    have names := congrArg seriesName same
    rw [seriesName_seriesKey plain, seriesName_seriesKey plain'] at names
    subst names
    refine ⟨rfl, ?_⟩
    have toList := congrArg String.toList same
    by_cases none : labels = [] <;> by_cases none' : labels' = []
    · rw [none, none']
    · obtain ⟨inner, key, -⟩ := exists_toList_seriesKey name none'
      rw [key, none] at toList
      simp [seriesKey] at toList
    · obtain ⟨inner, key, -⟩ := exists_toList_seriesKey name none
      rw [key, none'] at toList
      simp [seriesKey] at toList
    · obtain ⟨inner, key, labels_eq⟩ := exists_toList_seriesKey name none
      obtain ⟨inner', key', labels'_eq⟩ := exists_toList_seriesKey name none'
      rw [key, key', List.append_cancel_right_eq, List.append_cancel_left_eq] at toList
      have sorted : sortLabels labels = sortLabels labels' := by
        refine eq_of_written_eq (fun l hl => readable l ?_) (fun l hl => readable' l ?_) ?_
        · exact List.mem_mergeSort.mp hl
        · exact List.mem_mergeSort.mp hl
        · rw [← labels_eq, ← labels'_eq, toList]
      exact (sortLabels_eq_iff_perm distinct).mp sorted
  · rintro ⟨rfl, perm⟩
    exact seriesKey_eq_of_perm name distinct perm

end Metrics

/-! ## Commands -/

namespace Runner

variable {bot bot' : BotType} {label label' : String}

/-- What the key of a command's series says of its labels. -/
def commandText (bot : BotType) (label : String) : String :=
  bot.name ++ ",command=" ++ label

/-- Whether two commands have the same series. -/
def SharesSeries (bot : BotType) (label : String) (bot' : BotType) (label' : String) : Prop :=
  commandText bot label = commandText bot' label'

instance : Decidable (SharesSeries bot label bot' label') := inferInstanceAs (Decidable (_ = _))

theorem seriesKey_commandLabels (name : String) (bot : BotType) (label : String) :
    Metrics.seriesKey name (commandLabels bot label) =
      name ++ "\x7bbot_type=" ++ commandText bot label ++ "\x7d" := by
  have inOrder : Metrics.sortLabels (commandLabels bot label) = commandLabels bot label := by
    refine List.mergeSort_of_pairwise (List.pairwise_pair.mpr ?_)
    show (!decide ("command" < "bot_type")) = true
    decide
  rw [Metrics.seriesKey, inOrder, if_neg (by simp [commandLabels])]
  refine String.toList_injective ?_
  simp [commandLabels, commandText]

/-- The keys of two commands' series are the same for all names, or for none. -/
theorem seriesKey_eq_iff_sharesSeries (name : String) :
    Metrics.seriesKey name (commandLabels bot label) =
        Metrics.seriesKey name (commandLabels bot' label') ↔
      SharesSeries bot label bot' label' := by
  rw [seriesKey_commandLabels, seriesKey_commandLabels, SharesSeries, ← String.toList_inj,
    ← String.toList_inj]
  simp

/-- Of two commands with the same series one has the longer bot type: what is left of that, and the
text in between, stand in front of the other's identifier. -/
theorem SharesSeries.eq_or_exists (same : SharesSeries bot label bot' label')
    (longer : bot.name.toList <+: bot'.name.toList) :
    (bot = bot' ∧ label = label') ∨
      ∃ x, bot'.name = bot.name ++ ",command=" ++ x ∧ label = x ++ ",command=" ++ label' := by
  obtain ⟨l, front⟩ := longer
  have mark : Text.IsMark ",command=".toList := ⟨',', "command=".toList, rfl, by decide⟩
  have texts := congrArg String.toList same
  simp only [commandText, String.toList_append, ← front, List.append_assoc,
    List.append_cancel_left_eq] at texts
  rcases mark.eq_nil_or_leads texts with rfl | ⟨x, rfl⟩
  · rw [List.append_nil] at front
    rw [List.nil_append, List.append_cancel_left_eq] at texts
    have names : bot.name = bot'.name := String.toList_injective front
    exact .inl ⟨by cases bot; cases names; rfl, String.toList_injective texts⟩
  · rw [List.append_assoc, List.append_cancel_left_eq] at texts
    refine .inr ⟨.ofList x, String.toList_injective ?_, String.toList_injective ?_⟩
    · simpa using front.symm
    · simpa using texts

/-- Different commands have the same series if the text between bot type and identifier is also
found within one of them, and the rest fits. -/
theorem sharesSeries_iff :
    SharesSeries bot label bot' label' ↔ (bot = bot' ∧ label = label') ∨
      (∃ x, bot'.name = bot.name ++ ",command=" ++ x ∧ label = x ++ ",command=" ++ label') ∨
      (∃ x, bot.name = bot'.name ++ ",command=" ++ x ∧ label' = x ++ ",command=" ++ label) := by
  constructor
  · intro same
    have texts := congrArg String.toList same
    simp only [commandText, String.toList_append, List.append_assoc] at texts
    have front : bot.name.toList <+: bot.name.toList ++ (",command=".toList ++ label.toList) :=
      List.prefix_append ..
    have front' := texts ▸ List.prefix_append bot'.name.toList _
    rcases List.prefix_or_prefix_of_prefix front front' with longer | longer
    · exact (same.eq_or_exists longer).imp_right .inl
    · rcases SharesSeries.eq_or_exists same.symm longer with ⟨rfl, rfl⟩ | other
      · exact .inl ⟨rfl, rfl⟩
      · exact .inr (.inr other)
  · rintro (⟨rfl, rfl⟩ | ⟨x, front, rfl⟩ | ⟨x, front, rfl⟩)
    · rfl
    · simp only [SharesSeries, commandText, front, String.append_assoc]
    · simp only [SharesSeries, commandText, front, String.append_assoc]

/-- A bot type in which the text between bot type and identifier is not found. -/
def IsClear (bot : BotType) : Prop := ¬ ",command=".toList <:+: bot.name.toList

instance : Decidable (IsClear bot) := inferInstanceAs (Decidable (¬ _))

/-- Commands of such bot types have series of their own. -/
theorem sharesSeries_iff_of_isClear (clear : IsClear bot) (clear' : IsClear bot') :
    SharesSeries bot label bot' label' ↔ bot = bot' ∧ label = label' := by
  have found {name name' x : String} (text : name = name' ++ ",command=" ++ x) :
      ",command=".toList <:+: name.toList := by
    rw [text, String.toList_append, String.toList_append]
    exact List.infix_append ..
  refine ⟨fun same => ?_, fun ⟨bots, labels⟩ => sharesSeries_iff.mpr (.inl ⟨bots, labels⟩)⟩
  rcases sharesSeries_iff.mp same with equal | ⟨x, text, -⟩ | ⟨x, text, -⟩
  · exact equal
  · exact absurd (found text) clear'
  · exact absurd (found text) clear

end Runner

end Switchboard
