import Switchboard.Files.Tree

/-!
# Writes keep what is there

A write makes a file of a place and directories of those on the way, and takes nothing away: a
directory stays one, and a path that led to a file leads to one (`Keeps.isFile`). Only a write to
the place of a directory is another matter.
-/

namespace Switchboard.FileTree

/-- Every directory of the first tree is one of the second, and every file a file. -/
structure Keeps (t u : FileTree) : Prop where
  directory : ∀ place, t.node? place = some .directory → u.node? place = some .directory
  file : ∀ place bytes, t.node? place = some (.file bytes) →
    ∃ bytes', u.node? place = some (.file bytes')

namespace Keeps

variable {t u v : FileTree}

theorem refl (t : FileTree) : t.Keeps t := ⟨fun _ h => h, fun _ bytes h => ⟨bytes, h⟩⟩

theorem trans (h : t.Keeps u) (h' : u.Keeps v) : t.Keeps v := by
  refine ⟨fun place hd => h'.directory place (h.directory place hd), ?_⟩
  intro place bytes hf
  obtain ⟨bytes', hf'⟩ := h.file place bytes hf
  exact h'.file place bytes' hf'

theorem isSome_node? (h : t.Keeps u) {place : List String} (some : (t.node? place).isSome) :
    (u.node? place).isSome := by
  obtain ⟨node, hn⟩ := Option.isSome_iff_exists.mp some
  cases node with
  | directory => rw [h.directory place hn, Option.isSome_some]
  | file bytes =>
    obtain ⟨bytes', hf⟩ := h.file place bytes hn
    rw [hf, Option.isSome_some]

/-- Names lead where they led. -/
theorem walk (h : t.Keeps u) {names place goal : List String} (led : t.walk place names = .ok goal) :
    u.walk place names = .ok goal := by
  induction names generalizing place with
  | nil => exact led
  | cons name rest ih =>
    unfold FileTree.walk at led ⊢
    cases hn : t.node? place with
    | none => rw [hn] at led; cases led
    | some node =>
      rw [hn] at led
      cases node with
      | file bytes => cases led
      | directory =>
        rw [h.directory place hn]
        dsimp only at led ⊢
        by_cases dot : name = "."
        · rw [if_pos dot] at led ⊢
          exact ih led
        rw [if_neg dot] at led ⊢
        by_cases dots : name = ".."
        · rw [if_pos dots] at led ⊢
          exact ih led
        rw [if_neg dots] at led ⊢
        split at led
        · cases led
        · next short =>
          rw [if_neg short]
          split at led
          · next there =>
            rw [if_pos (h.isSome_node? there)]
            exact ih led
          · cases led

theorem isFile (h : t.Keeps u) {p : FilePath} (file : t.isFile p = true) : u.isFile p = true := by
  unfold FileTree.isFile read at file ⊢
  have resolve : ∀ place, t.resolve p = .ok place → u.resolve p = .ok place := by
    intro place hp
    unfold FileTree.resolve at hp ⊢
    split at hp
    · cases hp
    · next valid =>
      split at hp
      · cases hp
      · next short =>
        split at hp
        · cases hp
        · next absolute =>
          rw [if_neg valid, if_neg short, if_neg absolute]
          exact h.walk hp
  cases hr : t.resolve p with
  | error e => rw [hr] at file; cases file
  | ok place =>
    rw [hr] at file
    rw [resolve place hr]
    cases hn : t.node? place with
    | none => simp [hn] at file
    | some node =>
      cases node with
      | directory => simp [hn] at file
      | file bytes =>
        obtain ⟨bytes', hf⟩ := h.file place bytes hn
        simp [hf]

end Keeps

theorem node?_set (t : FileTree) (place other : List String) (node : FileNode) :
    (t.set place node).node? other =
      if other.isEmpty then some .directory else if other = place then some node
      else t.node? other := by
  unfold node? set
  split
  · rfl
  · rw [List.lookup_cons]
    by_cases same : other = place
    · simp [same]
    · rw [if_neg same, beq_eq_false_iff_ne.mpr same]
      dsimp only
      generalize t.entries = entries
      induction entries with
      | nil => rfl
      | cons e rest ih =>
        by_cases he : e.1 = place
        · rw [List.filter_cons_of_neg (by simpa using he), ih, List.lookup_cons, he,
            beq_eq_false_iff_ne.mpr same]
        · rw [List.filter_cons_of_pos (by simpa using he), List.lookup_cons, List.lookup_cons, ih]

/-- A place that is free may become anything. -/
theorem keeps_set_of_none {t : FileTree} {place : List String} (free : t.node? place = none)
    (node : FileNode) : t.Keeps (t.set place node) := by
  have other : ∀ q found, t.node? q = some found → (t.set place node).node? q = some found := by
    intro q found hq
    rw [node?_set]
    split
    · next root =>
      rw [node?, if_pos root] at hq
      exact hq
    · split
      · next same =>
        rw [same, free] at hq
        cases hq
      · exact hq
  exact ⟨fun q hq => other q _ hq, fun q bytes hq => ⟨bytes, other q _ hq⟩⟩

/-- A file may get another content. -/
theorem keeps_set_of_file {t : FileTree} {place : List String} {old : List UInt8}
    (file : t.node? place = some (.file old)) (bytes : List UInt8) :
    t.Keeps (t.set place (.file bytes)) := by
  have other : ∀ q found, q ≠ place → t.node? q = some found →
      (t.set place (.file bytes)).node? q = some found := by
    intro q found differs hq
    rw [node?_set, if_neg differs]
    split
    · next root =>
      rw [node?, if_pos root] at hq
      exact hq
    · exact hq
  refine ⟨?_, ?_⟩
  · intro q hq
    refine other q _ ?_ hq
    rintro rfl
    rw [file] at hq
    cases hq
  · intro q content hq
    by_cases same : q = place
    · subst same
      refine ⟨bytes, ?_⟩
      rw [node?_set, if_pos rfl, if_neg]
      intro root
      rw [node?, if_pos root] at file
      cases file
    · exact ⟨content, other q _ same hq⟩

theorem keeps_makeWay (t : FileTree) (place : List String) : t.Keeps (t.makeWay place) := by
  unfold makeWay
  generalize List.range place.length = lengths
  induction lengths generalizing t with
  | nil => exact .refl t
  | cons n rest ih =>
    rw [List.foldl_cons]
    refine .trans ?_ (ih _)
    dsimp only
    split
    · exact .refl t
    · next free => exact keeps_set_of_none (by simpa using free) _

/-- A write to a place that is no directory takes nothing away. -/
theorem keeps_write {t : FileTree} {place : List String}
    (noDirectory : (t.makeWay place).node? place ≠ some .directory) (bytes : List UInt8) :
    t.Keeps (t.write place bytes) := by
  refine (t.keeps_makeWay place).trans ?_
  cases hn : (t.makeWay place).node? place with
  | none => exact keeps_set_of_none hn _
  | some node =>
    cases node with
    | directory => exact absurd hn noDirectory
    | file old => exact keeps_set_of_file hn bytes

end Switchboard.FileTree
