import Switchboard.Settings.Source

/-!
# Paths of configuration files

The facts about paths on which reading and watching agree. A path made by `FilePath.join` from a
directory and one name lies in that directory (`isIn_join`), and nothing but the parts of a path
decides where it lies, what its extension is and what its stem is, so all of these are the same for
two paths that lead to the same place (`same_parts`). The stem of a configuration file is the
identifier it stands for (`stem?_candidate`).
-/

namespace Switchboard

namespace FilePath

/-! ## Splitting -/

theorem splitAll_ne_nil (p : Char → Bool) (cs : List Char) : splitAll p cs ≠ [] := by
  cases cs with
  | nil => simp [splitAll]
  | cons c rest =>
    rw [splitAll]
    split
    · simp
    · split <;> simp

theorem splitAll_of_none {p : Char → Bool} {cs : List Char} (h : ∀ c ∈ cs, p c = false) :
    splitAll p cs = [cs] := by
  induction cs with
  | nil => rfl
  | cons c rest ih =>
    have hc : p c = false := h c List.mem_cons_self
    rw [splitAll, ih fun d hd => h d (List.mem_cons_of_mem c hd)]
    simp [hc]

/-- A separator divides the pieces. -/
theorem splitAll_append_cons {p : Char → Bool} {sep : Char} (h : p sep = true)
    (front back : List Char) :
    splitAll p (front ++ sep :: back) = splitAll p front ++ splitAll p back := by
  induction front with
  | nil => simp [splitAll, h]
  | cons c rest ih =>
    rw [List.cons_append, splitAll, splitAll, ih]
    by_cases hc : p c = true
    · simp [hc]
    · rw [if_neg hc, if_neg hc]
      cases hr : splitAll p rest with
      | nil => exact absurd hr (splitAll_ne_nil p rest)
      | cons piece more => rfl

/-! ## Names of one file -/

/-- A name of a file: some text without a slash. -/
def IsName (name : String) : Prop := name ≠ "" ∧ '/' ∉ name.toList

instance (name : String) : Decidable (IsName name) := inferInstanceAs (Decidable (_ ∧ _))

theorem IsName.splitAll {name : String} (h : IsName name) :
    FilePath.splitAll (· == '/') name.toList = [name.toList] := by
  apply splitAll_of_none
  intro c hc
  have : c ≠ '/' := fun same => h.2 (same ▸ hc)
  simpa using this

theorem IsName.toList_ne_nil {name : String} (h : IsName name) : name.toList ≠ [] := by
  intro hn
  exact h.1 (by simpa using hn)

theorem IsName.head {name : String} (h : IsName name) : (name.toList.head? == some '/') = false := by
  cases hn : name.toList with
  | nil => rfl
  | cons c rest =>
    have : c ≠ '/' := fun same => h.2 (by rw [hn, same]; exact List.mem_cons_self)
    simpa using this

/-- The name of a file with an extension is no name for a directory. -/
theorem IsName.withExtension {identifier ext : String} (h : IsName identifier)
    (hext : '/' ∉ ext.toList) (hne : ext ≠ "") (hdot : '.' ∉ ext.toList) :
    IsName (identifier ++ "." ++ ext) ∧ identifier ++ "." ++ ext ≠ "." ∧
      identifier ++ "." ++ ext ≠ ".." := by
  have chars : (identifier ++ "." ++ ext).toList = identifier.toList ++ '.' :: ext.toList := by
    simp
  have front := h.toList_ne_nil
  have back : ext.toList ≠ [] := fun he => hne (by simpa using he)
  refine ⟨⟨?_, ?_⟩, ?_, ?_⟩
  · intro same
    have := congrArg String.toList same
    rw [chars] at this
    simp at this
  · rw [chars, List.mem_append, List.mem_cons]
    rintro (hi | hsep | he)
    · exact h.2 hi
    · exact absurd hsep (by decide)
    · exact hext he
  · intro same
    have := congrArg (fun s => s.toList.length) same
    rw [chars, List.length_append, List.length_cons] at this
    have := List.length_pos_iff.mpr front
    simp at *
    omega
  · -- Two dots end in a dot, and the extension has none.
    intro same
    have last := congrArg (fun s => s.toList.getLast?) same
    rw [chars] at last
    simp only [List.getLast?_append, List.getLast?_cons] at last
    cases he : ext.toList.getLast? with
    | none => exact back (List.getLast?_eq_none_iff.mp he)
    | some c =>
      rw [he] at last
      simp at last
      subst last
      exact hdot (List.mem_of_getLast? he)

/-! ## Joining -/

section Join

variable {dir : FilePath} {name : String}

theorem names_join (h : IsName name) : (dir.join name).names = dir.names ++ [name] := by
  have piece : FilePath.splitAll (· == '/') name.toList = [name.toList] := h.splitAll
  have kept : name.toList.isEmpty = false := by simpa using h.toList_ne_nil
  rw [join, h.head]
  simp only [Bool.false_eq_true, ↓reduceIte]
  split
  · next hend =>
    rcases Bool.or_eq_true_iff.mp hend with hempty | hslash
    · have : dir.text = "" := by simpa using hempty
      simp [names, this, splitAll, piece, kept]
    · -- The directory ends in a slash, which closes its last piece.
      obtain ⟨front, hfront⟩ := List.getLast?_eq_some_iff.mp (beq_iff_eq.mp hslash)
      have whole : (dir.text ++ name).toList = front ++ '/' :: name.toList := by
        rw [String.toList_append, hfront, List.append_assoc, List.singleton_append]
      simp only [names, whole]
      rw [splitAll_append_cons (by rfl), hfront, splitAll_append_cons (by rfl), piece]
      simp [splitAll, kept]
  · have whole : (dir.text ++ "/" ++ name).toList = dir.text.toList ++ '/' :: name.toList := by
      simp
    simp only [names, whole]
    rw [splitAll_append_cons (by rfl), piece]
    simp [kept]

theorem isAbsolute_join (h : IsName name) : (dir.join name).isAbsolute = dir.isAbsolute := by
  rw [join, h.head]
  simp only [Bool.false_eq_true, ↓reduceIte, isAbsolute]
  split
  · next hend =>
    cases hd : dir.text.toList with
    | nil =>
      have : dir.text = "" := by simpa using hd
      simpa [this] using h.head
    | cons c rest => simp [hd]
  · next hend =>
    cases hd : dir.text.toList with
    | nil => exact absurd (by simpa using hd) (by simpa using hend : ¬_ ∧ _).1
    | cons c rest => simp [hd]

theorem parts_join (h : IsName name) (hdot : name ≠ ".") :
    (dir.join name).parts = dir.parts ++ [name] := by
  unfold parts
  rw [names_join h, isAbsolute_join h]
  cases dir.isAbsolute with
  | true => simp [hdot]
  | false =>
    cases hn : dir.names with
    | nil => simp [hdot]
    | cons first rest =>
      by_cases hf : first = "."
      · subst hf; simp [hdot]
      · simp [hf, hdot]

/-- A path made of a directory and a name lies in those directories that are the same place as the
first, and in no others. -/
theorem isIn_join (h : IsName name) (hdot : name ≠ ".") (other : FilePath) :
    (dir.join name).isIn other = other.same dir := by
  unfold isIn same
  rw [parts_join h hdot, isAbsolute_join h]
  have hne : (dir.parts ++ [name]).isEmpty = false := by simp
  rw [hne, List.dropLast_concat, Bool.not_false, Bool.and_true,
    Bool.beq_comm (a := dir.isAbsolute), BEq.comm (a := dir.parts)]

end Join

/-! ## The same place -/

theorem same_refl (p : FilePath) : p.same p = true := by simp [same]

theorem same_symm {p q : FilePath} (h : p.same q = true) : q.same p = true := by
  simp only [same, Bool.and_eq_true, beq_iff_eq] at h ⊢
  exact ⟨h.1.symm, h.2.symm⟩

theorem same_trans {p q r : FilePath} (h : p.same q = true) (h' : q.same r = true) :
    p.same r = true := by
  simp only [same, Bool.and_eq_true, beq_iff_eq] at h h' ⊢
  exact ⟨h.1.trans h'.1, h.2.trans h'.2⟩

/-- Paths that lead to the same place are told apart by nothing that depends on parts. -/
theorem same_parts {p q : FilePath} (h : p.same q = true) :
    p.isAbsolute = q.isAbsolute ∧ p.parts = q.parts := by
  simpa only [same, Bool.and_eq_true, beq_iff_eq] using h

theorem isIn_of_same {p q : FilePath} (h : p.same q = true) (dir : FilePath) :
    p.isIn dir = q.isIn dir := by
  obtain ⟨ha, hp⟩ := same_parts h
  rw [isIn, isIn, ha, hp]

/-- What decides where a path leads. -/
def place (p : FilePath) : Bool × List String := (p.isAbsolute, p.parts)

theorem same_iff {p q : FilePath} : p.same q = true ↔ p.place = q.place := by
  simp only [same, place, Bool.and_eq_true, beq_iff_eq, Prod.mk.injEq]

/-- A path leads to the same places as another that leads to the same place. -/
theorem same_congr {p q : FilePath} (h : p.same q = true) (r : FilePath) : p.same r = q.same r := by
  rw [Bool.eq_iff_iff, same_iff, same_iff, same_iff.mp h]

theorem same_congr_right {q r : FilePath} (h : q.same r = true) (p : FilePath) :
    p.same q = p.same r := by
  rw [Bool.eq_iff_iff, same_iff, same_iff, same_iff.mp h]

/-- What lies in a directory lies in it in whatever way that is written. -/
theorem isIn_congr {d e : FilePath} (h : d.same e = true) (p : FilePath) :
    p.isIn d = p.isIn e := by
  obtain ⟨ha, hp⟩ := same_parts h
  rw [isIn, isIn, ha, hp]

/-- A file lies in one directory only. -/
theorem same_of_isIn {p d e : FilePath} (h : p.isIn d = true) (h' : p.isIn e = true) :
    d.same e = true := by
  simp only [isIn, Bool.and_eq_true, beq_iff_eq] at h h'
  rw [same_iff, place, place, ← h.1.1, ← h.2, h'.1.1, h'.2]

theorem fileName?_of_same {p q : FilePath} (h : p.same q = true) : p.fileName? = q.fileName? := by
  rw [fileName?, fileName?, (same_parts h).2]

theorem stem?_of_same {p q : FilePath} (h : p.same q = true) : p.stem? = q.stem? := by
  rw [stem?, stem?, fileName?_of_same h]

theorem ofPath?_of_same {p q : FilePath} (h : p.same q = true) :
    FileFormat.ofPath? p = FileFormat.ofPath? q := by
  rw [FileFormat.ofPath?, FileFormat.ofPath?, extension?, extension?, fileName?_of_same h]

/-! ## Extensions -/

theorem fileName?_join {dir : FilePath} {name : String} (h : IsName name) (hdot : name ≠ ".")
    (hdots : name ≠ "..") : (dir.join name).fileName? = some name := by
  simp [fileName?, parts_join h hdot, hdot, hdots]

/-- A name is divided at its last dot, if something stands in front of that. -/
theorem splitName_append {front ext : List Char} (hfront : front ≠ []) (hext : '.' ∉ ext) :
    splitName (front ++ '.' :: ext) = (front, some ext) := by
  have last_piece : splitAll (· == '.') ext = [ext] := by
    apply splitAll_of_none
    intro c hc
    have : c ≠ '.' := fun same => hext (same ▸ hc)
    simpa using this
  obtain ⟨piece, more, hpieces⟩ := List.exists_cons_of_ne_nil (splitAll_ne_nil (· == '.') front)
  have pieces : (splitAll (· == '.') (front ++ '.' :: ext)).reverse =
      ext :: (more.reverse ++ [piece]) := by
    rw [splitAll_append_cons (by rfl), last_piece, hpieces]
    simp
  have cut : (front ++ '.' :: ext).take ((front ++ '.' :: ext).length - ext.length - 1) = front := by
    have : (front ++ '.' :: ext).length - ext.length - 1 = front.length := by
      simp only [List.length_append, List.length_cons]
      omega
    rw [this, List.take_left]
  have kept : front.isEmpty = false := by simpa using hfront
  unfold splitName
  rw [pieces]
  cases hm : more.reverse ++ [piece] with
  | nil => simp at hm
  | cons second others => simp only [cut, kept, Bool.false_eq_true, ↓reduceIte]

end FilePath

/-! ## Candidates -/

namespace Source

variable {base : FilePath} {bot : BotType} {identifier : String} {p : FilePath}

/-- The extensions of configuration files are plain words. -/
theorem plain_of_mem_extensions {e : String × FileFormat} (h : e ∈ FileFormat.extensions) :
    '/' ∉ e.1.toList ∧ e.1 ≠ "" ∧ '.' ∉ e.1.toList := by
  simp only [FileFormat.extensions, List.mem_cons, List.not_mem_nil, or_false] at h
  rcases h with rfl | rfl | rfl <;> decide

/-- A candidate lies in the directory of its bot type, in whatever way that is written. -/
theorem isIn_of_mem_candidates (hid : FilePath.IsName identifier)
    (hp : p ∈ candidates base bot identifier) (dir : FilePath) :
    p.isIn dir = dir.same (directoryFor base bot) := by
  obtain ⟨e, he, rfl⟩ := List.mem_map.mp hp
  obtain ⟨hslash, hne, hdot⟩ := plain_of_mem_extensions he
  obtain ⟨hname, hone, -⟩ := hid.withExtension hslash hne hdot
  exact FilePath.isIn_join hname hone dir

/-- The stem of a candidate is the identifier. -/
theorem stem?_candidate (hid : FilePath.IsName identifier)
    (hp : p ∈ candidates base bot identifier) : p.stem? = some identifier := by
  obtain ⟨e, he, rfl⟩ := List.mem_map.mp hp
  obtain ⟨hslash, hne, hdot⟩ := plain_of_mem_extensions he
  obtain ⟨hname, hone, htwo⟩ := hid.withExtension hslash hne hdot
  have chars : (identifier ++ "." ++ e.1).toList = identifier.toList ++ '.' :: e.1.toList := by
    simp
  rw [FilePath.stem?, FilePath.fileName?_join hname hone htwo, Option.map_some, chars,
    FilePath.splitName_append hid.toList_ne_nil hdot, String.ofList_toList]

/-- The extension of a candidate tells its format. -/
theorem isSome_ofPath?_candidate (hid : FilePath.IsName identifier)
    (hp : p ∈ candidates base bot identifier) : (FileFormat.ofPath? p).isSome := by
  obtain ⟨e, he, rfl⟩ := List.mem_map.mp hp
  obtain ⟨hslash, hne, hdot⟩ := plain_of_mem_extensions he
  obtain ⟨hname, hone, htwo⟩ := hid.withExtension hslash hne hdot
  have chars : (identifier ++ "." ++ e.1).toList = identifier.toList ++ '.' :: e.1.toList := by
    simp
  rw [FileFormat.ofPath?, FilePath.extension?, FilePath.fileName?_join hname hone htwo,
    Option.bind_some, chars, FilePath.splitName_append hid.toList_ne_nil hdot, Option.map_some,
    String.ofList_toList, Option.bind_some, Option.isSome_map, List.find?_isSome]
  exact ⟨e, he, by simp [FileFormat.equalIgnoringCase]⟩

end Source

end Switchboard
