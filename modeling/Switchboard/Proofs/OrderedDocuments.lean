import Switchboard.Proofs.DeepMerge
import Switchboard.Settings.Overlay

/-!
# Documents that are read

Whatever a file says, the document that it holds has the fields of its objects in order, each name
once (`Settings.isOrdered_of_fileValue`): both formats put the fields of an object into a table one
by one, so of two fields with one name the last wins. All else that a text may stand for is no
object.
-/

namespace Switchboard

/-- A property of what is gathered that each step keeps. -/
theorem forall_of_foldlM {α β : Type} {P : β → Prop} {step : β → α → Option β}
    (keeps : ∀ b a c, P b → step b a = some c → P c) {items : List α} {b c : β} (h : P b)
    (gathered : items.foldlM step b = some c) : P c := by
  induction items generalizing b with
  | nil => cases gathered; exact h
  | cons a items ih =>
    rw [List.foldlM_cons] at gathered
    obtain ⟨d, stepped, rest⟩ := Option.bind_eq_some_iff.mp gathered
    exact ih (keeps b a d h stepped) rest

namespace Json

theorem isOrdered_empty : IsOrdered (.object []) := .object .nil fun _ none => nomatch none

theorem IsOrdered.insert {fs : Table Json} {v : Json} (h : IsOrdered (.object fs))
    (hv : v.IsOrdered) (name : String) : IsOrdered (.object (Table.insert name v fs)) := by
  refine .object (h.sorted.insert name v) fun e he => ?_
  rcases Table.mem_or_of_mem_insert he with rfl | old
  · exact hv
  · exact h.of_mem old

namespace Reader

variable {negative : Bool} {n extra : Nat} {e : Int} {cs rest : List Char} {v : Json}

theorem fields?_of_floatOf? (h : floatOf? negative n e = some v) : v.fields? = none := by
  obtain ⟨x, -, h⟩ := Option.bind_eq_some_iff.mp h
  obtain ⟨y, -, h⟩ := Option.bind_eq_some_iff.mp h
  cases h
  rfl

theorem fields?_of_map_floatOf? (h : (floatOf? negative n e).map (·, cs) = some (v, rest)) :
    v.fields? = none := by
  obtain ⟨w, read, same⟩ := Option.map_eq_some_iff.mp h
  cases same
  exact fields?_of_floatOf? read

theorem fields?_of_withExponent? (h : withExponent? negative n e cs = some (v, rest)) :
    v.fields? = none := by
  unfold withExponent? at h
  split at h
  · split at h
    · -- The sign of the exponent makes no difference.
      dsimp only at h
      split at h
      all_goals
        split at h
        · cases h
        split at h
        · split at h
          · cases h; rfl
          · cases h
        · exact fields?_of_map_floatOf? h
    · exact fields?_of_map_floatOf? h
  · exact fields?_of_map_floatOf? h

theorem fields?_of_withFraction? (h : withFraction? negative n e cs = some (v, rest)) :
    v.fields? = none := by
  unfold withFraction? at h
  dsimp only at h
  split at h
  · cases h
  · exact fields?_of_withExponent? h

theorem fields?_of_whole (h : number?.whole negative n extra cs = some (v, rest)) :
    v.fields? = none := by
  unfold number?.whole at h
  split at h
  · exact fields?_of_map_floatOf? h
  split at h
  · cases h; rfl
  split at h
  · exact fields?_of_map_floatOf? h
  · cases h; rfl

theorem fields?_of_number? (h : number? negative cs = some (v, rest)) : v.fields? = none := by
  unfold number? at h
  split at h
  · cases h
  split at h
  · cases h
  split at h
  · cases h
  dsimp only at h
  split at h
  · exact fields?_of_withFraction? h
  · split at h
    · exact fields?_of_withExponent? h
    · exact fields?_of_whole h
  · exact fields?_of_whole h

theorem fields?_of_word {word : String} {w : Json} (leaf : w.fields? = none)
    (h : (word? word cs).map (w, ·) = some (v, rest)) : v.fields? = none := by
  obtain ⟨behind, -, same⟩ := Option.map_eq_some_iff.mp h
  cases same
  exact leaf

/-- By the number of steps that are left: a value is in order, and so is an object whose first
fields are. -/
theorem isOrdered_of_read (fuel : Nat) :
    (∀ depth cs v rest, value? fuel depth cs = some (v, rest) → v.IsOrdered) ∧
    ∀ depth acc cs v rest, IsOrdered (.object acc) →
      fields? fuel depth acc cs = some (v, rest) → v.IsOrdered := by
  induction fuel with
  | zero =>
    constructor
    · intro depth cs v rest h
      rw [value?] at h
      cases h
    · intro depth acc cs v rest _ h
      rw [fields?] at h
      cases h
  | succ fuel ih =>
    obtain ⟨value, fields⟩ := ih
    constructor
    · intro depth cs v rest h
      rw [value?] at h
      split at h
      · cases h
      · obtain ⟨read, -, same⟩ := Option.map_eq_some_iff.mp h
        cases same
        exact .leaf rfl
      · exact .leaf (fields?_of_number? h)
      · split at h
        · cases h
        split at h
        · cases h; exact .leaf rfl
        · obtain ⟨read, -, same⟩ := Option.map_eq_some_iff.mp h
          cases same
          exact .leaf rfl
      · split at h
        · cases h
        split at h
        · cases h; exact isOrdered_empty
        · exact fields _ _ _ _ _ isOrdered_empty h
      · exact .leaf (fields?_of_word rfl h)
      · exact .leaf (fields?_of_word rfl h)
      · exact .leaf (fields?_of_word rfl h)
      · exact .leaf (fields?_of_number? h)
    · intro depth acc cs v rest acc_ordered h
      rw [fields?] at h
      split at h
      · split at h
        · cases h
        split at h
        · split at h
          · cases h
          next read =>
          have more := acc_ordered.insert (value _ _ _ _ read)
          split at h
          · cases h; exact more _
          · exact fields _ _ _ _ _ (more _) h
          · cases h
        · cases h
      · cases h

end Reader

theorem isOrdered_of_parse? {text : String} {v : Json} (h : parse? text = some v) :
    v.IsOrdered := by
  unfold parse? at h
  obtain ⟨⟨w, rest⟩, read, h⟩ := Option.bind_eq_some_iff.mp h
  dsimp only at h
  split at h
  · cases h
    exact (Reader.isOrdered_of_read _).1 _ _ _ _ read
  · cases h

end Json

namespace Yaml

open Json

namespace Node

variable {text : String} {v : Json}

theorem fields?_floatValue (x : Schema.FloatValue) : (floatValue x).fields? = none := by
  cases x <;> rfl

theorem fields?_of_intValue {n : Int} (h : intValue n = some (some v)) : v.fields? = none := by
  unfold intValue at h
  split at h
  · cases h; rfl
  split at h <;> cases h

theorem fields?_of_plainValue? (h : plainValue? text = some v) : v.fields? = none := by
  unfold plainValue? at h
  split at h
  · cases h; rfl
  split at h
  · cases h; rfl
  split at h
  · next read =>
    obtain ⟨n, -, read⟩ := Option.bind_eq_some_iff.mp read
    exact fields?_of_intValue (h ▸ read)
  split at h
  · cases h; exact fields?_floatValue _
  · cases h; rfl

theorem fields?_of_scalarValue? {tag : Option Tag} {style : ScalarStyle}
    (h : scalarValue? tag style text = some v) : v.fields? = none := by
  unfold scalarValue? at h
  split at h
  · split at h
    · exact fields?_of_plainValue? h
    · cases h; rfl
  split at h
  · cases h
  split at h
  · obtain ⟨b, -, rfl⟩ := Option.map_eq_some_iff.mp h
    rfl
  split at h
  · obtain ⟨n, -, read⟩ := Option.bind_eq_some_iff.mp (Option.join_eq_some_iff.mp h)
    exact fields?_of_intValue read
  split at h
  · obtain ⟨x, -, rfl⟩ := Option.map_eq_some_iff.mp h
    exact fields?_floatValue x
  split at h
  · split at h
    · cases h; rfl
    · cases h
  split at h
  · exact fields?_of_plainValue? h
  · cases h; rfl

end Node

namespace Document

theorem isOrdered_of_value? {d : Document} {depth budget left : Nat} {n : Node} {v : Json}
    (h : d.value? depth budget n = some (v, left)) : v.IsOrdered := by
  induction depth using Nat.strong_induction_on generalizing budget n v left with
  | _ depth ih =>
  unfold value? at h
  split at h
  · cases h
  · obtain ⟨w, read, same⟩ := Option.map_eq_some_iff.mp h
    cases same
    exact .leaf (Node.fields?_of_scalarValue? read)
  · split at h
    · cases h
    split at h
    · cases h
    obtain ⟨read, -, same⟩ := Option.map_eq_some_iff.mp h
    cases same
    exact .leaf rfl
  · split at h
    · cases h
    split at h
    · cases h
    obtain ⟨read, gathered, same⟩ := Option.map_eq_some_iff.mp h
    cases same
    refine forall_of_foldlM (P := fun read => IsOrdered (.object read.1)) ?_
      isOrdered_empty gathered
    intro before entry after ordered stepped
    obtain ⟨⟨name, b⟩, -, stepped⟩ := Option.bind_eq_some_iff.mp stepped
    obtain ⟨⟨w, b⟩, read, stepped⟩ := Option.bind_eq_some_iff.mp stepped
    cases stepped
    exact ordered.insert (ih _ (Nat.lt_succ_self _) read) name
  · cases h
  · cases h; exact .leaf rfl

theorem isOrdered_of_toJson? {d : Document} {v : Json} (h : d.toJson? = some v) :
    v.IsOrdered := by
  obtain ⟨read, found, rfl⟩ := Option.map_eq_some_iff.mp h
  exact isOrdered_of_value? found

end Document

end Yaml

theorem FileFormat.isOrdered_of_decode? {format : FileFormat} {text : String} {v : Json}
    (h : format.decode? text = some v) : v.IsOrdered := by
  cases format with
  | yaml =>
    obtain ⟨d, -, read⟩ := Option.bind_eq_some_iff.mp h
    exact Yaml.Document.isOrdered_of_toJson? read
  | json => exact Json.isOrdered_of_parse? h

/-- The document that a file holds is in order. -/
theorem Settings.isOrdered_of_fileValue {files : FileTree} {path : FilePath} {v : Json}
    (h : fileValue files path = .ok v) : v.IsOrdered := by
  unfold fileValue at h
  split at h
  · cases h
  split at h
  · cases h
  split at h
  · cases h; exact .leaf rfl
  split at h
  · cases h
  next read =>
  cases h
  exact FileFormat.isOrdered_of_decode? read

end Switchboard
