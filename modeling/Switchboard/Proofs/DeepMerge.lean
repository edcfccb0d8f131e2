import Switchboard.Json.Merge
import Switchboard.Proofs.SortedTables

/-!
# What a merged document has along each path

`Json.IsOverlay base other merged` says what `merged` has along each path of field names, where
`other` has been laid over `base`: anything but an object replaces, two objects become one with the
names of both, what is not mentioned is kept unless something but an object stands on the way to it,
and nothing is added. Documents in order are told apart by what they have along their paths
(`Json.IsOrdered.ext`), so there is one such document (`Json.IsOverlay.unique`), and it is the merge
(`Json.merge_is_overlay`).

A merge goes down both documents at once, and below a name that only one of them has it stops. To
have one induction for both cases, the lemmas are about a value that is laid over what there may be
(`Json.onto`): what `other` has at the end of a path is laid over what `base` may have there
(`Json.at?_onto_of_some`).
-/

namespace Switchboard

namespace Json

/-- The fields of each object that field names lead to are in order, each name once. What stands in
arrays may be anything. -/
inductive IsOrdered : Json → Prop where
  | object {fs : Table Json} (sorted : fs.IsSorted) (fields : ∀ e ∈ fs, IsOrdered e.2) :
    IsOrdered (.object fs)
  | leaf {v : Json} (h : v.fields? = none) : IsOrdered v

namespace IsOrdered

variable {fs : Table Json}

theorem sorted : IsOrdered (.object fs) → fs.IsSorted
  | .object sorted _ => sorted
  | .leaf h => by cases h

theorem of_mem {e : String × Json} (he : e ∈ fs) : IsOrdered (.object fs) → IsOrdered e.2
  | .object _ fields => fields e he
  | .leaf h => by cases h

theorem of_find? {name : String} {v : Json} (h : IsOrdered (.object fs))
    (found : Table.find? name fs = some v) : IsOrdered v :=
  h.of_mem (Table.mem_of_find? found)

end IsOrdered

theorem IsOrdered.ofFields {fields : List (String × Json)} (h : ∀ e ∈ fields, e.2.IsOrdered) :
    (ofFields fields).IsOrdered :=
  .object (Table.isSorted_ofList fields) fun e he => h e (Table.mem_of_mem_ofList he)

variable {b o v : Json} {base : Option Json} {fs gs : Table Json} {name : String}
  {path : List String}

/-- A document is an object or has no fields. -/
theorem leaf_or_object (v : Json) : v.fields? = none ∨ ∃ fs, v = .object fs := by
  cases v with
  | object fs => exact .inr ⟨fs, rfl⟩
  | _ => exact .inl rfl

/-! ## One level -/

theorem merge_object (fs gs : Table Json) :
    merge (.object fs) (.object gs) = .object (mergeFields fs gs) := by
  rw [merge]

/-- Anything but an object replaces. -/
theorem merge_of_leaf (h : o.fields? = none) : merge b o = o := by
  cases o with
  | object gs => cases h
  | _ => rw [merge]

/-- Anything but an object is replaced. -/
theorem merge_leaf (h : b.fields? = none) : merge b o = o := by
  cases o with
  | object gs =>
    rw [merge]
    rintro fs rfl
    cases h
  | _ => rw [merge]

/-- A value laid over what there may be. -/
def onto : Option Json → Json → Json
  | none, v => v
  | some b, v => merge b v

@[simp] theorem onto_some (b v : Json) : onto (some b) v = merge b v := rfl

theorem onto_of_leaf (h : v.fields? = none) : onto base v = v := by
  cases base with
  | none => rfl
  | some b => exact merge_of_leaf h

/-- An object replaces what there may be, or is joined with another object. -/
theorem onto_object (base : Option Json) (gs : Table Json) :
    onto base (.object gs) = .object gs ∨
      ∃ fs, base = some (.object fs) ∧ onto base (.object gs) = .object (mergeFields fs gs) := by
  cases base with
  | none => exact .inl rfl
  | some b =>
    cases b with
    | object fs => exact .inr ⟨fs, rfl, merge_object fs gs⟩
    | _ => exact .inl (merge_leaf rfl)

theorem mergeFields_cons (fs : Table Json) (name : String) (v : Json) (gs : Table Json) :
    mergeFields fs ((name, v) :: gs) =
      mergeFields (Table.insert name (onto (Table.find? name fs) v) fs) gs := by
  rw [mergeFields]
  cases Table.find? name fs <;> rfl

theorem find?_mergeFields_of_none (h : Table.find? name gs = none) (fs : Table Json) :
    Table.find? name (mergeFields fs gs) = Table.find? name fs := by
  induction gs generalizing fs with
  | nil => rw [mergeFields_nil]
  | cons e gs ih =>
    obtain ⟨k, v⟩ := e
    rw [Table.find?] at h
    split at h
    · cases h
    · next apart => rw [mergeFields_cons, ih h, Table.find?_insert_of_ne apart]

theorem find?_mergeFields_of_some (sorted : gs.IsSorted) (h : Table.find? name gs = some v)
    (fs : Table Json) :
    Table.find? name (mergeFields fs gs) = some (onto (Table.find? name fs) v) := by
  induction gs generalizing fs with
  | nil => cases h
  | cons e gs ih =>
    obtain ⟨k, w⟩ := e
    obtain ⟨before, sorted⟩ := List.pairwise_cons.mp sorted
    rw [Table.find?] at h
    rw [mergeFields_cons]
    split at h
    · next same =>
      -- No later field has this name.
      cases h
      subst same
      rw [find?_mergeFields_of_none (Table.find?_eq_none_of_lt before), Table.find?_insert_self]
    · next apart => rw [ih sorted h, Table.find?_insert_of_ne apart]

theorem isSorted_mergeFields (sorted : fs.IsSorted) (gs : Table Json) :
    Table.IsSorted (mergeFields fs gs) := by
  induction gs generalizing fs with
  | nil => rwa [mergeFields_nil]
  | cons e gs ih =>
    rw [mergeFields_cons]
    exact ih (sorted.insert _ _)

theorem mem_keys_mergeFields (sorted : gs.IsSorted) :
    name ∈ (mergeFields fs gs).map Prod.fst ↔
      name ∈ fs.map Prod.fst ∨ name ∈ gs.map Prod.fst := by
  rw [← Table.isSome_find?_iff, ← Table.isSome_find?_iff, ← Table.isSome_find?_iff]
  cases found : Table.find? name gs with
  | none => simp [find?_mergeFields_of_none found]
  | some v => simp [find?_mergeFields_of_some sorted found]

/-! ## Along a path -/

/-- What there is along a path, if there is a value at all. -/
def under (base : Option Json) (path : List String) : Option Json := base.bind fun v => v.at? path

@[simp] theorem under_none (path : List String) : under none path = none := rfl

@[simp] theorem under_some (b : Json) (path : List String) : under (some b) path = b.at? path := rfl

theorem at?_cons (b : Json) (name : String) (path : List String) :
    b.at? (name :: path) = under (b.get? name) path := rfl

theorem at?_cons_of_leaf (h : b.fields? = none) : b.at? (name :: path) = none := by
  rw [at?_cons]
  cases b <;> first | rfl | cases h

theorem at?_cons_of_find? (h : Table.find? name gs = some v) :
    (object gs).at? (name :: path) = v.at? path := by
  rw [at?_cons, get?, h, under_some]

theorem at?_cons_of_find?_eq_none (h : Table.find? name gs = none) :
    (object gs).at? (name :: path) = none := by
  rw [at?_cons, get?, h, under_none]

theorem at?_append (b : Json) (front behind : List String) :
    b.at? (front ++ behind) = under (b.at? front) behind := by
  induction front generalizing b with
  | nil => rfl
  | cons name front ih =>
    rw [List.cons_append, at?_cons, at?_cons]
    cases b.get? name with
    | none => rfl
    | some v => exact ih v

theorem IsOrdered.of_at? (ordered : b.IsOrdered) (h : b.at? path = some v) : v.IsOrdered := by
  induction path generalizing b with
  | nil => cases h; exact ordered
  | cons name path ih =>
    rcases b.leaf_or_object with leaf | ⟨fs, rfl⟩
    · rw [at?_cons_of_leaf leaf] at h; cases h
    · cases found : Table.find? name fs with
      | none => rw [at?_cons_of_find?_eq_none found] at h; cases h
      | some w =>
        rw [at?_cons_of_find? found] at h
        exact ih (ordered.of_find? found) h

/-- Documents in order are told apart by what stands along their paths. -/
theorem IsOrdered.ext (ordered : b.IsOrdered) (ordered' : o.IsOrdered)
    (leaves : ∀ path v, v.fields? = none → (b.at? path = some v ↔ o.at? path = some v))
    (places : ∀ path, (b.at? path).isSome ↔ (o.at? path).isSome) : b = o := by
  induction ordered generalizing o with
  | leaf h => exact Option.some.inj ((leaves [] _ h).mp rfl).symm
  | @object fs sorted fields ih =>
    rcases o.leaf_or_object with ho | ⟨gs, rfl⟩
    · cases (leaves [] o ho).mpr rfl; cases ho
    · have down (hs : Table Json) (name : String) (path : List String) :
          (Json.object hs).at? (name :: path) = under (Table.find? name hs) path := rfl
      refine congrArg _ (sorted.ext ordered'.sorted fun name => ?_)
      have places_below (path : List String) := places (name :: path)
      have leaves_below (path : List String) := leaves (name :: path)
      simp only [down] at places_below leaves_below
      cases hf : Table.find? name fs with
      | none =>
        cases hg : Table.find? name gs with
        | none => rfl
        | some w => simpa [hf, hg, at?] using places_below []
      | some v =>
        cases hg : Table.find? name gs with
        | none => simpa [hf, hg, at?] using places_below []
        | some w =>
          rw [hf, hg] at places_below leaves_below
          exact congrArg some (ih (name, v) (Table.mem_of_find? hf) (ordered'.of_find? hg)
            leaves_below places_below)

/-- A field of the value that is laid over is laid over the field of that name. -/
theorem at?_onto_cons_of_some (sorted : gs.IsSorted) (h : Table.find? name gs = some v) :
    (onto base (.object gs)).at? (name :: path) = (onto (under base [name]) v).at? path := by
  cases base with
  | none => exact at?_cons_of_find? h
  | some b =>
    rcases b.leaf_or_object with leaf | ⟨fs, rfl⟩
    · rw [under_some, at?_cons_of_leaf leaf, onto_some, merge_leaf leaf]
      exact at?_cons_of_find? h
    · rw [onto_some, merge_object, at?_cons, get?, find?_mergeFields_of_some sorted h, under_some,
        under_some, at?_cons, get?]
      cases Table.find? name fs <;> rfl

/-- Where the value that is laid over has no field, all is as it was. -/
theorem at?_onto_cons_of_none (h : Table.find? name gs = none) :
    (onto base (.object gs)).at? (name :: path) = under base (name :: path) := by
  cases base with
  | none => exact at?_cons_of_find?_eq_none h
  | some b =>
    rcases b.leaf_or_object with leaf | ⟨fs, rfl⟩
    · rw [under_some, at?_cons_of_leaf leaf, onto_some, merge_leaf leaf]
      exact at?_cons_of_find?_eq_none h
    · rw [onto_some, merge_object, at?_cons, get?, find?_mergeFields_of_none h]
      rfl

theorem under_under (base : Option Json) (name : String) (path : List String) :
    under (under base [name]) path = under base (name :: path) := by
  cases base with
  | none => rfl
  | some b => rw [under_some, under_some, at?_cons, at?_cons]; cases b.get? name <;> rfl

/-- What the value laid over has somewhere is laid over what was there. -/
theorem at?_onto_of_some (ordered : o.IsOrdered) (h : o.at? path = some v) :
    (onto base o).at? path = some (onto (under base path) v) := by
  induction path generalizing o base with
  | nil =>
    cases h
    cases base <;> rfl
  | cons name path ih =>
    rcases o.leaf_or_object with leaf | ⟨gs, rfl⟩
    · rw [at?_cons_of_leaf leaf] at h; cases h
    · cases found : Table.find? name gs with
      | none => rw [at?_cons_of_find?_eq_none found] at h; cases h
      | some w =>
        rw [at?_cons_of_find? found] at h
        rw [at?_onto_cons_of_some ordered.sorted found, ih (ordered.of_find? found) h, under_under]

/-- Where the value laid over has nothing, and nothing but objects on the way, all is as it was. -/
theorem at?_onto_of_none (ordered : o.IsOrdered) (h : o.at? path = none)
    (through : ∀ front, front <+: path → ∀ w, o.at? front = some w → w.fields?.isSome) :
    (onto base o).at? path = under base path := by
  induction path generalizing o base with
  | nil => cases h
  | cons name path ih =>
    rcases o.leaf_or_object with leaf | ⟨gs, rfl⟩
    · have object := through [] List.nil_prefix o rfl
      rw [leaf] at object
      cases object
    · cases found : Table.find? name gs with
      | none => exact at?_onto_cons_of_none found
      | some w =>
        rw [at?_cons_of_find? found] at h
        rw [at?_onto_cons_of_some ordered.sorted found, ih (ordered.of_find? found) h, under_under]
        exact fun front before u hu =>
          through (name :: front) (List.cons_prefix_cons.mpr ⟨rfl, before⟩) u
            ((at?_cons_of_find? found).trans hu)

/-- There is nothing but what was there or is laid over. -/
theorem isSome_at?_of_onto (ordered : o.IsOrdered) (h : ((onto base o).at? path).isSome) :
    (under base path).isSome ∨ (o.at? path).isSome := by
  induction path generalizing o base with
  | nil => exact .inr rfl
  | cons name path ih =>
    rcases o.leaf_or_object with leaf | ⟨gs, rfl⟩
    · rw [onto_of_leaf leaf] at h
      exact .inr h
    · cases found : Table.find? name gs with
      | none => exact .inl (at?_onto_cons_of_none found ▸ h)
      | some w =>
        rw [at?_onto_cons_of_some ordered.sorted found] at h
        rw [at?_cons_of_find? found, ← under_under]
        exact ih (ordered.of_find? found) h

/-! ## Merging again -/

theorem mergeFields_eq_self (sorted : fs.IsSorted)
    (h : ∀ e ∈ gs, ∃ x, Table.find? e.1 fs = some x ∧ merge x e.2 = x) :
    mergeFields fs gs = fs := by
  induction gs with
  | nil => rw [mergeFields_nil]
  | cons e gs ih =>
    obtain ⟨x, found, same⟩ := h e List.mem_cons_self
    rw [mergeFields_cons, found, onto_some, same, sorted.insert_of_find? found]
    exact ih fun e he => h e (List.mem_cons_of_mem _ he)

/-- A value merged into itself is the same value. -/
theorem IsOrdered.merge_self (ordered : v.IsOrdered) : merge v v = v := by
  induction ordered with
  | object sorted fields ih =>
    rw [merge_object, mergeFields_eq_self sorted fun e he => ⟨e.2, sorted.find?_of_mem he, ih e he⟩]
  | leaf h => exact merge_of_leaf h

/-- What has been laid over changes nothing when it is laid over again. -/
theorem merge_onto (ordered : o.IsOrdered) (base_ordered : ∀ b ∈ base, b.IsOrdered) :
    merge (onto base o) o = onto base o := by
  induction ordered generalizing base with
  | leaf h => rw [onto_of_leaf h, merge_of_leaf h]
  | @object gs sorted fields ih =>
    rcases onto_object base gs with same | ⟨fs, rfl, joined⟩
    · rw [same]
      exact (IsOrdered.object sorted fields).merge_self
    have fs_ordered : IsOrdered (.object fs) := base_ordered _ rfl
    rw [joined, merge_object,
      mergeFields_eq_self (isSorted_mergeFields fs_ordered.sorted gs) fun e he =>
        ⟨_, find?_mergeFields_of_some sorted (sorted.find?_of_mem he) fs, ih e he ?_⟩]
    exact fun b hb => fs_ordered.of_find? hb

/-- A document stays in order. -/
theorem IsOrdered.onto (ordered : o.IsOrdered) (base_ordered : ∀ b ∈ base, b.IsOrdered) :
    (onto base o).IsOrdered := by
  induction ordered generalizing base with
  | leaf h =>
    rw [onto_of_leaf h]
    exact .leaf h
  | @object gs sorted fields ih =>
    rcases onto_object base gs with same | ⟨fs, rfl, joined⟩
    · rw [same]
      exact .object sorted fields
    have fs_ordered : IsOrdered (.object fs) := base_ordered _ rfl
    have merged_sorted := isSorted_mergeFields fs_ordered.sorted gs
    rw [joined]
    refine .object merged_sorted fun e he => ?_
    have found := merged_sorted.find?_of_mem he
    cases mention : Table.find? e.1 gs with
    | none =>
      rw [find?_mergeFields_of_none mention] at found
      exact fs_ordered.of_find? found
    | some w =>
      rw [find?_mergeFields_of_some sorted mention] at found
      rw [← Option.some.inj found]
      exact ih (e.1, w) (Table.mem_of_find? mention) fun b hb => fs_ordered.of_find? hb

/-! ## The whole -/

/-- What `merged` has along each path, where `other` has been laid over `base`. -/
structure IsOverlay (base other merged : Json) : Prop where
  /-- Anything but an object takes the place of what was there. -/
  replaces : ∀ path v, other.at? path = some v → v.fields? = none → merged.at? path = some v
  /-- Two objects become one with the names of both. -/
  joins : ∀ path fs gs, base.at? path = some (.object fs) → other.at? path = some (.object gs) →
    ∃ hs, merged.at? path = some (.object hs) ∧
      ∀ name, name ∈ hs.map Prod.fst ↔ name ∈ fs.map Prod.fst ∨ name ∈ gs.map Prod.fst
  /-- An object takes the place of anything but an object, and of nothing. -/
  enters : ∀ path gs, (∀ fs, base.at? path ≠ some (.object fs)) →
    other.at? path = some (.object gs) → merged.at? path = some (.object gs)
  /-- What is not mentioned is kept, unless something but an object stands on the way to it. -/
  keeps : ∀ path v, base.at? path = some v → other.at? path = none →
    (∀ front, front <+: path → ∀ w, other.at? front = some w → w.fields?.isSome) →
    merged.at? path = some v
  /-- Nothing else is there. -/
  adds : ∀ path, (merged.at? path).isSome → (base.at? path).isSome ∨ (other.at? path).isSome

theorem isOverlay_merge (ordered : o.IsOrdered) (b : Json) : IsOverlay b o (merge b o) where
  replaces path v there leaf := by
    rw [← onto_some, at?_onto_of_some ordered there, onto_of_leaf leaf]
  joins path fs gs before there := by
    refine ⟨mergeFields fs gs, ?_, fun name => mem_keys_mergeFields (ordered.of_at? there).sorted⟩
    rw [← onto_some, at?_onto_of_some ordered there, under_some, before, onto_some, merge_object]
  enters path gs before there := by
    rw [← onto_some, at?_onto_of_some ordered there]
    rcases onto_object (under (some b) path) gs with same | ⟨fs, object, -⟩
    · rw [same]
    · exact absurd object (before fs)
  keeps path v before there through := by
    rw [← onto_some, at?_onto_of_none ordered there through, under_some, before]
  adds path there :=
    isSome_at?_of_onto ordered (show ((onto (some b) o).at? path).isSome from there)

namespace IsOverlay

variable {m m' : Json}

/-- Below anything but an object that is laid over, there is nothing. -/
theorem eq_none_of_leaf (h : IsOverlay b o m) {front : List String} (before : front <+: path)
    {w : Json} (there : o.at? front = some w) (leaf : w.fields? = none)
    (absent : o.at? path = none) : m.at? path = none := by
  obtain ⟨behind, rfl⟩ := before
  cases behind with
  | nil => rw [List.append_nil, there] at absent; cases absent
  | cons name behind =>
    rw [at?_append, h.replaces front w there leaf]
    exact at?_cons_of_leaf leaf

/-- Two overlays have the same, or objects, along each path. -/
theorem exists_at? (h : IsOverlay b o m) (h' : IsOverlay b o m') (there : m.at? path = some v) :
    ∃ v', m'.at? path = some v' ∧ (v' = v ∨ v'.fields?.isSome ∧ v.fields?.isSome) := by
  -- Whatever is laid over at the end of the path decides, or else whatever cuts the path off.
  cases mention : o.at? path with
  | some w =>
    rcases w.leaf_or_object with kind | ⟨gs, rfl⟩
    · have same := h.replaces path w mention kind
      rw [there] at same
      cases same
      exact ⟨_, h'.replaces path _ mention kind, .inl rfl⟩
    · by_cases object : ∃ fs, b.at? path = some (.object fs)
      · obtain ⟨fs, object⟩ := object
        obtain ⟨hs, joined, -⟩ := h.joins path fs gs object mention
        obtain ⟨hs', joined', -⟩ := h'.joins path fs gs object mention
        rw [there] at joined
        cases joined
        exact ⟨_, joined', .inr ⟨rfl, rfl⟩⟩
      · have other : ∀ fs, b.at? path ≠ some (.object fs) := fun fs is => object ⟨fs, is⟩
        have same := h.enters path gs other mention
        rw [there] at same
        cases same
        exact ⟨_, h'.enters path gs other mention, .inl rfl⟩
  | none =>
    by_cases through : ∀ front, front <+: path → ∀ w, o.at? front = some w → w.fields?.isSome
    · have old : (b.at? path).isSome := (h.adds path (by rw [there]; rfl)).resolve_right
        (by rw [mention]; exact Bool.false_ne_true)
      obtain ⟨u, old⟩ := Option.isSome_iff_exists.mp old
      have same := h.keeps path u old mention through
      rw [there] at same
      cases same
      exact ⟨_, h'.keeps path _ old mention through, .inl rfl⟩
    · simp only [not_forall] at through
      obtain ⟨front, before, w, stands, kind⟩ := through
      rw [h.eq_none_of_leaf before stands (by simpa using kind) mention] at there
      cases there

/-- There is one overlay. -/
theorem unique (h : IsOverlay b o m) (h' : IsOverlay b o m') (ordered : m.IsOrdered)
    (ordered' : m'.IsOrdered) : m = m' := by
  have leaf_of {m m' : Json} (h : IsOverlay b o m) (h' : IsOverlay b o m') {path : List String}
      {v : Json} (leaf : v.fields? = none) (there : m.at? path = some v) :
      m'.at? path = some v := by
    obtain ⟨v', found, rfl | ⟨-, object⟩⟩ := h.exists_at? h' there
    · exact found
    · rw [leaf] at object; cases object
  have some_of {m m' : Json} (h : IsOverlay b o m) (h' : IsOverlay b o m') {path : List String}
      (there : (m.at? path).isSome) : (m'.at? path).isSome := by
    obtain ⟨v, there⟩ := Option.isSome_iff_exists.mp there
    obtain ⟨v', found, -⟩ := h.exists_at? h' there
    exact Option.isSome_of_eq_some found
  exact ordered.ext ordered' (fun path v leaf => ⟨leaf_of h h' leaf, leaf_of h' h leaf⟩)
    fun path => ⟨some_of h h', some_of h' h⟩

end IsOverlay

section Ordered

variable {m : Json} (base_ordered : b.IsOrdered) (other_ordered : o.IsOrdered)
include base_ordered other_ordered

theorem isOrdered_merge : (merge b o).IsOrdered := by
  rw [← onto_some]
  exact other_ordered.onto fun _ hb => Option.mem_some.mp hb ▸ base_ordered

theorem merge_again : merge (merge b o) o = merge b o := by
  rw [← onto_some b]
  exact merge_onto other_ordered fun _ hb => Option.mem_some.mp hb ▸ base_ordered

theorem IsOverlay.eq_merge (h : IsOverlay b o m) (ordered : m.IsOrdered) : m = merge b o :=
  h.unique (isOverlay_merge other_ordered b) ordered (isOrdered_merge base_ordered other_ordered)

end Ordered

/-- The merge of two documents has along each path what the second has there, where that is anything
but an object, joins objects, keeps what the second does not mention and adds nothing; and it is the
only document that does. To merge the second again, or any document into itself, changes nothing. -/
theorem merge_is_overlay (base other : Json) (base_ordered : base.IsOrdered)
    (other_ordered : other.IsOrdered) :
    IsOverlay base other (merge base other) ∧
    (∀ m, m.IsOrdered → IsOverlay base other m → m = merge base other) ∧
    merge (merge base other) other = merge base other ∧
    merge base base = base :=
  ⟨isOverlay_merge other_ordered base,
    fun _ ordered overlay => overlay.eq_merge base_ordered other_ordered ordered,
    merge_again base_ordered other_ordered, base_ordered.merge_self⟩

end Json

/-! ### Settings of a service -/

namespace Weather

open Json

def limits : Json := .ofFields [("a", .int 1), ("b", .ofFields [("deep", .bool true)])]

def held : Json := .ofFields [("units", .text "metric"), ("nested", limits), ("limit", .int 7)]

def change : Json := .ofFields [("b", .null), ("c", .array [.int 1])]

def file : Json := .ofFields [("nested", change), ("limit", .ofFields [])]

theorem isOrdered_held : held.IsOrdered := by
  have inner : limits.IsOrdered := .ofFields <| by
    simpa using ⟨.leaf rfl, IsOrdered.ofFields <| by simpa using .leaf rfl⟩
  exact .ofFields <| by simpa using ⟨.leaf rfl, inner, .leaf rfl⟩

theorem isOrdered_file : file.IsOrdered := by
  have inner : change.IsOrdered := .ofFields <| by simpa using ⟨.leaf rfl, .leaf rfl⟩
  exact .ofFields <| by simpa using ⟨inner, IsOrdered.ofFields <| by simp⟩

/-- Null takes the place of an object, an object that of a number, and what is not mentioned
stays. -/
theorem changes_are_merged :
    held.IsOrdered ∧ file.IsOrdered ∧ IsOverlay held file (merge held file) ∧
    (merge held file).at? ["nested", "b"] = some .null ∧
    (merge held file).at? ["limit"] = some (.object []) ∧
    (merge held file).at? ["nested", "a"] = some (.int 1) ∧
    merge (merge held file) file = merge held file := by
  obtain ⟨overlay, -, again, -⟩ := merge_is_overlay held file isOrdered_held isOrdered_file
  refine ⟨isOrdered_held, isOrdered_file, overlay, overlay.replaces _ _ rfl rfl,
    overlay.enters _ _ (fun fs object => ?_) rfl, overlay.keeps _ _ rfl rfl ?_, again⟩
  · cases object
  · intro front before w there
    simp only [List.prefix_cons_iff, List.prefix_nil] at before
    rcases before with rfl | ⟨_, rfl, rfl | ⟨_, rfl, rfl⟩⟩ <;> cases there <;> rfl

end Weather

end Switchboard
