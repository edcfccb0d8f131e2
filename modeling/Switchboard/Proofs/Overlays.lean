import Switchboard.Proofs.Bindings
import Switchboard.Proofs.OverlaidRecords

/-!
# Settings in their place

A program that keeps settings lays values, files, and the file of an identifier over them: `lay`,
`layFile` and `layRead` do so in place, and come to what `overlay?`, `overlayFile` and `Source.read`
compute (`run_lay`, `run_layFile`, `run_layRead`).

`Outline.Laws` says what is kept of the settings and what is not: where laying fails they are what
they were; null and the settings themselves change nothing; where an object is laid over them each
field that it does not mention keeps its value and each other field is what its mention reads as;
fields that a record does not have make no difference; and to lay the same again changes nothing.
What a type of settings has to do for that is `Outline.IsSound`: all else follows from the merge of
documents (`Outline.IsSound.laws`). `overlays_keep_what_is_not_mentioned` has the laws for the
settings of a service, of a task, of the greeting, and for any document.
-/

namespace Switchboard

/-- A new field changes none of the others. -/
theorem Table.find?_insert_of_notMem {α : Type} {names : List String} {name : String}
    (apart : name ∉ names) (value : α) (t : Table α) :
    ∀ n ∈ names, find? n (insert name value t) = find? n t :=
  fun _ hn => find?_insert_of_ne (ne_of_mem_of_not_mem hn apart) value t

namespace Json

variable {name key : String} {w v : Json} {fs : Table Json} {path : List String}

/-- The value with a field set in the object to which a path leads, if it leads to one. -/
def put (name : String) (w : Json) : List String → Json → Json
  | [], .object fs => .object (Table.insert name w fs)
  | key :: path, .object fs =>
    match Table.find? key fs with
    | some v => .object (Table.insert key (put name w path v) fs)
    | none => .object fs
  | _, v => v

theorem put_of_leaf (h : v.fields? = none) : put name w path v = v := by
  cases path <;> cases v <;> first | rfl | cases h

theorem IsOrdered.put (v_ordered : v.IsOrdered) (w_ordered : w.IsOrdered) (name : String) :
    (put name w [] v).IsOrdered := by
  rcases v.leaf_or_object with kind | ⟨fs, rfl⟩
  · rwa [put_of_leaf kind]
  · exact v_ordered.insert w_ordered name

theorem put_of_find? (h : Table.find? key fs = some v) :
    put name w (key :: path) (.object fs) = .object (Table.insert key (put name w path v) fs) := by
  rw [put, h]

theorem put_of_find?_eq_none (h : Table.find? key fs = none) :
    put name w (key :: path) (.object fs) = .object fs := by
  rw [put, h]

end Json

namespace Settings

variable {α ε : Type} [Settings α] {d d' : α} {v w : Json} {refusal : ε}

-- What a path leads to is of no concern below, and unfolding it is slow.
seal FileTree.isFile Settings.fileValue

/-! ## Programs over settings in their place -/

/-- Lays a value over the settings. -/
def lay (refusal : ε) (value : Json) : EStateM ε α Unit := do
  if value.isNull then return
  let merged := Json.merge (toJson (← get)) value
  match (ofJson? merged : Option α) with
  | none => throw refusal
  | some new => set new

/-- Lays a file over the settings. -/
def layFile (files : FileTree) (path : FilePath) : EStateM WatchError α Unit := do
  match fileValue files path with
  | .error e => throw e
  | .ok value => lay (misfit path) value

/-- Lays the file of an identifier over the settings. -/
def layRead (source : Source) (files : FileTree) (bot : BotType) (identifier : String) :
    EStateM WatchError α Unit := do
  match source with
  | .nowhere => throw (.notFound bot identifier)
  | .directory base =>
    match Source.find? files base bot identifier with
    | none => throw (.notFound bot identifier)
    | some path => layFile files path

/-- The settings with a value laid over them, or a refusal. -/
def laidOver (refusal : ε) (value : Json) (current : α) : Except ε α :=
  match overlay? current value with
  | none => .error refusal
  | some new => .ok new

/-- What there is in the place of the settings when new ones have been made of them. -/
def outcome (current : α) : Except ε α → EStateM.Result ε α Unit
  | .error e => .error e current
  | .ok new => .ok () new

theorem overlay?_of_ne_null (h : v ≠ .null) :
    overlay? d v = ofJson? (Json.merge (toJson d) v) := by
  cases v <;> first | rfl | exact absurd rfl h

theorem run_lay (refusal : ε) (value : Json) (d : α) :
    (lay refusal value).run d = outcome d (laidOver refusal value d) := by
  by_cases null : value = .null
  · subst null
    rfl
  have there : value.isNull = false := by cases value <;> first | rfl | exact absurd rfl null
  rw [laidOver, overlay?_of_ne_null null, lay, there]
  show EStateM.run (do
    match (ofJson? (Json.merge (toJson d) value) : Option α) with
    | none => throw refusal
    | some new => set new) d = _
  cases (ofJson? (Json.merge (toJson d) value) : Option α) <;> rfl

theorem overlayFile_eq (files : FileTree) (path : FilePath) (d : α) :
    overlayFile files path d =
      match fileValue files path with
      | .error e => .error e
      | .ok value => laidOver (misfit path) value d := rfl

theorem read_directory (base : FilePath) (files : FileTree) (bot : BotType) (identifier : String)
    (d : α) :
    (Source.directory base).read files bot identifier d =
      match Source.find? files base bot identifier with
      | none => .error (.notFound bot identifier)
      | some path => overlayFile files path d := rfl

theorem layRead_directory (base : FilePath) (files : FileTree) (bot : BotType)
    (identifier : String) :
    (layRead (.directory base) files bot identifier : EStateM WatchError α Unit) =
      match Source.find? files base bot identifier with
      | none => throw (.notFound bot identifier)
      | some path => layFile files path := rfl

theorem run_layFile (files : FileTree) (path : FilePath) (d : α) :
    (layFile files path).run d = outcome d (overlayFile files path d) := by
  rw [layFile, overlayFile_eq]
  cases fileValue files path with
  | error e => rfl
  | ok value => exact run_lay (misfit path) value d

theorem run_layRead (source : Source) (files : FileTree) (bot : BotType) (identifier : String)
    (d : α) :
    (layRead source files bot identifier).run d =
      outcome d (source.read files bot identifier d) := by
  cases source with
  | nowhere => rfl
  | directory base =>
    rw [layRead_directory, read_directory]
    cases Source.find? files base bot identifier with
    | none => rfl
    | some path => exact run_layFile files path d

/-! ## What overlays do -/

/-- What there is to say of a type of settings. -/
structure Outline (α : Type) where
  /-- The integers of a value are in their ranges, and its objects are in order. -/
  IsValue : α → Prop
  /-- What comes of a value where an object with these fields is laid over it. -/
  Overlaid : α → Table Json → α → Prop
  /-- The names of the fields of the record to which a path leads, if it leads to one. -/
  namesAt : List String → Option (List String)

/-- What a program does that lays a value over settings. -/
structure Outline.Lays (o : Outline α) (value : Json) (program : EStateM ε α Unit) : Prop where
  /-- Where it fails, the settings are what they were. -/
  untouched : ∀ d e d', program.run d = .error e d' → d' = d
  null : value = .null → ∀ d, program.run d = .ok () d
  object : ∀ fs, value = .object fs → ∀ d d', o.IsValue d →
    (program.run d = .ok () d' ↔ o.Overlaid d fs d')
  /-- Anything else takes the place of the settings. -/
  other : value ≠ .null → value.fields? = none → ∀ d d',
    (program.run d = .ok () d' ↔ ofJson? value = some d')
  isValue : ∀ d d', o.IsValue d → program.run d = .ok () d' → o.IsValue d'
  again : ∀ d d', o.IsValue d → program.run d = .ok () d' → program.run d' = .ok () d'

/-- How settings are overlaid, by values and by files. -/
structure Outline.Laws (o : Outline α) : Prop where
  /-- In place the settings become what the overlays compute. -/
  runs : ∀ d : α,
    (∀ {ε : Type} (refusal : ε) v, (lay refusal v).run d = outcome d (laidOver refusal v d)) ∧
    (∀ files path, (layFile files path).run d = outcome d (overlayFile files path d)) ∧
    ∀ (source : Source) files bot identifier,
      (layRead source files bot identifier).run d =
        outcome d (source.read files bot identifier d)
  value : ∀ {ε : Type} (refusal : ε) v, v.IsOrdered → o.Lays v (lay refusal v)
  /-- To lay over settings what they are changes nothing. -/
  own : ∀ {ε : Type} (refusal : ε) d, o.IsValue d → (lay refusal (toJson d)).run d = .ok () d
  /-- A field that a record does not have makes no difference. -/
  unknown : ∀ {ε : Type} (refusal : ε) v w path names name d, v.IsOrdered → w.IsOrdered →
    o.namesAt path = some names → name ∉ names → o.IsValue d →
    (lay refusal (Json.put name w path v)).run d = (lay refusal v).run d
  file : ∀ files path,
    match fileValue files path with
    | .error e => ∀ d : α, (layFile files path).run d = .error e d
    | .ok v => v.IsOrdered ∧ o.Lays v (layFile files path)
  read : ∀ (source : Source) files bot identifier,
    match source.load files bot identifier with
    | .error e => ∀ d : α, (layRead source files bot identifier).run d = .error e d
    | .ok none => ∀ d : α,
      (layRead source files bot identifier).run d = .error (.notFound bot identifier) d
    | .ok (some (_, v)) => v.IsOrdered ∧ o.Lays v (layRead source files bot identifier)

/-- What a type of settings has to do for the laws to hold of it. -/
structure Outline.IsSound (o : Outline α) : Prop where
  isOrdered_toJson : ∀ d, o.IsValue d → (toJson d).IsOrdered
  ofJson?_toJson : ∀ d, o.IsValue d → ofJson? (toJson d) = some d
  isValue_of_ofJson? : ∀ v d, v.IsOrdered → ofJson? v = some d → o.IsValue d
  overlay?_object : ∀ d fs d', o.IsValue d → (Json.object fs).IsOrdered →
    (overlay? d (.object fs) = some d' ↔ o.Overlaid d fs d')
  again : ∀ d fs d', o.IsValue d → (Json.object fs).IsOrdered → o.Overlaid d fs d' →
    o.Overlaid d' fs d'
  unknown : ∀ v w path names name d, v.IsOrdered → w.IsOrdered → o.namesAt path = some names →
    name ∉ names → o.IsValue d → overlay? d (Json.put name w path v) = overlay? d v

section Laws

variable {o : Outline α} {program : EStateM ε α Unit}

omit [Settings α] in
theorem outcome_eq_ok_iff {made : Except ε α} : outcome d made = .ok () d' ↔ made = .ok d' := by
  cases made <;> simp [outcome]

omit [Settings α] in
theorem eq_of_outcome_eq_error {made : Except ε α} {e : ε} (h : outcome d made = .error e d') :
    d' = d := by
  cases made <;> cases h
  rfl

theorem laidOver_eq_ok_iff : laidOver refusal v d = .ok d' ↔ overlay? d v = some d' := by
  unfold laidOver
  cases overlay? d v <;> simp

theorem overlay?_of_leaf (there : v ≠ .null) (leaf : v.fields? = none) :
    overlay? d v = ofJson? v := by
  rw [overlay?_of_ne_null there, Json.merge_of_leaf leaf]

namespace Outline.IsSound

variable (sound : o.IsSound) (ordered : v.IsOrdered)
include sound ordered

theorem isValue_of_overlay? (value : o.IsValue d) (h : overlay? d v = some d') : o.IsValue d' := by
  by_cases there : v = .null
  · subst there
    cases h
    exact value
  · rw [overlay?_of_ne_null there] at h
    have merged := Json.isOrdered_merge (sound.isOrdered_toJson d value) ordered
    exact sound.isValue_of_ofJson? _ d' merged h

/-- To overlay the same again changes nothing. -/
theorem overlay?_again (value : o.IsValue d) (h : overlay? d v = some d') :
    overlay? d' v = some d' := by
  -- Where an object is laid over, its fields have been read; anything else is read alone.
  rcases v.leaf_or_object with leaf | ⟨fs, rfl⟩
  · by_cases there : v = .null
    · subst there
      rfl
    · rw [overlay?_of_leaf there leaf] at h ⊢
      exact h
  · have value' := sound.isValue_of_overlay? ordered value h
    rw [sound.overlay?_object d fs d' value ordered] at h
    rw [sound.overlay?_object d' fs d' value' ordered]
    exact sound.again d fs d' value ordered h

/-- Whatever computes the overlay is as good as laying it over the settings. -/
theorem lays (runs : ∀ d, program.run d = outcome d (laidOver refusal v d)) :
    o.Lays v program := by
  have run_eq_ok_iff (d d' : α) : program.run d = .ok () d' ↔ overlay? d v = some d' := by
    rw [runs, outcome_eq_ok_iff, laidOver_eq_ok_iff]
  refine
    { untouched := fun d e d' h => eq_of_outcome_eq_error ((runs d).symm.trans h)
      null := fun null d => (run_eq_ok_iff d d).mpr (null ▸ rfl)
      object := ?object
      other := fun there leaf d d' => by rw [run_eq_ok_iff, overlay?_of_leaf there leaf]
      isValue := fun d d' value h =>
        sound.isValue_of_overlay? ordered value ((run_eq_ok_iff d d').mp h)
      again := fun d d' value h =>
        (run_eq_ok_iff d' d').mpr (sound.overlay?_again ordered value ((run_eq_ok_iff d d').mp h)) }
  rintro fs rfl d d' value
  rw [run_eq_ok_iff, sound.overlay?_object d fs d' value ordered]

end Outline.IsSound

theorem Outline.IsSound.file (sound : o.IsSound) (files : FileTree) (path : FilePath) :
    match fileValue files path with
    | .error e => ∀ d : α, (layFile files path).run d = .error e d
    | .ok v => v.IsOrdered ∧ o.Lays v (layFile files path) := by
  split
  · next found => exact fun d => by rw [run_layFile, overlayFile_eq, found]; rfl
  · next v found =>
    have ordered := isOrdered_of_fileValue found
    exact ⟨ordered, sound.lays ordered fun d => by rw [run_layFile, overlayFile_eq, found]⟩

theorem Outline.IsSound.laws (sound : o.IsSound) : o.Laws where
  runs d := ⟨fun refusal v => run_lay refusal v d, fun files path => run_layFile files path d,
    fun source files bot identifier => run_layRead source files bot identifier d⟩
  value refusal v ordered := sound.lays ordered (run_lay refusal v)
  own refusal d value := by
    rw [run_lay, outcome_eq_ok_iff, laidOver_eq_ok_iff]
    by_cases null : toJson d = .null
    · rw [null]
      rfl
    · rw [overlay?_of_ne_null null, (sound.isOrdered_toJson d value).merge_self]
      exact sound.ofJson?_toJson d value
  unknown refusal v w path names name d v_ordered w_ordered record apart value := by
    rw [run_lay, run_lay, laidOver, laidOver,
      sound.unknown v w path names name d v_ordered w_ordered record apart value]
  file := sound.file
  read source files bot identifier := by
    cases source with
    | nowhere => exact fun d => rfl
    | directory base =>
      rw [layRead_directory, Source.load_directory]
      cases Source.find? files base bot identifier with
      | none => exact fun d => rfl
      | some path =>
        have file := sound.file files path
        dsimp only
        cases found : fileValue files path <;> rw [found] at file <;> exact file

/-- A field that is not among those that matter makes no difference. -/
theorem overlay?_put {names : List String} {laid : Table Json → α → Prop}
    (laid_iff : ∀ fs d', (Json.object fs).IsOrdered →
      (overlay? d (.object fs) = some d' ↔ laid fs d'))
    (congr : ∀ fs gs d', laid fs d' →
      (∀ n ∈ names, Table.find? n gs = Table.find? n fs) → laid gs d')
    (v_ordered : v.IsOrdered) (w_ordered : w.IsOrdered) {name : String} (apart : name ∉ names) :
    overlay? d (Json.put name w [] v) = overlay? d v := by
  rcases v.leaf_or_object with kind | ⟨fs, rfl⟩
  · rw [Json.put_of_leaf kind]
  · have same := Table.find?_insert_of_notMem apart w fs
    refine Option.ext fun d' => ?_
    rw [Json.put, laid_iff _ d' (v_ordered.insert w_ordered name), laid_iff fs d' v_ordered]
    exact ⟨fun h => congr _ _ _ h fun n hn => (same n hn).symm, fun h => congr _ _ _ h same⟩

end Laws

end Settings

open Settings

/-! ## The types of settings -/

/-- The outline of a record without inner records, whose fields may have any value. -/
def Settings.Outline.flat {α : Type} (Overlaid : α → Table Json → α → Prop) (names : List String) :
    Outline α where
  IsValue _ := True
  Overlaid := Overlaid
  namesAt
    | [] => some names
    | _ :: _ => none

theorem Settings.Outline.isSound_flat {α : Type} [Settings α]
    {Overlaid : α → Table Json → α → Prop} {names : List String}
    (isOrdered_toJson : ∀ d : α, (toJson d).IsOrdered)
    (ofJson?_toJson : ∀ d : α, ofJson? (toJson d) = some d)
    (overlay?_object : ∀ d fs d', Table.IsSorted fs →
      (overlay? d (.object fs) = some d' ↔ Overlaid d fs d'))
    (again : ∀ d fs d', Overlaid d fs d' → Overlaid d' fs d')
    (congr : ∀ d fs gs d', Overlaid d fs d' →
      (∀ n ∈ names, Table.find? n gs = Table.find? n fs) → Overlaid d gs d') :
    (Outline.flat Overlaid names).IsSound where
  isOrdered_toJson d _ := isOrdered_toJson d
  ofJson?_toJson d _ := ofJson?_toJson d
  isValue_of_ofJson? _ _ _ _ := trivial
  overlay?_object d fs d' _ ordered := overlay?_object d fs d' ordered.sorted
  again d fs d' _ _ := again d fs d'
  unknown v w path known name d v_ordered w_ordered record apart _ := by
    cases path with
    | nil =>
      cases record
      exact overlay?_put (fun fs d' ordered => overlay?_object d fs d' ordered.sorted) (congr d)
        v_ordered w_ordered apart
    | cons => cases record

namespace TaskSettings

theorem isOrdered_toJson (d : TaskSettings) : (toJson d).IsOrdered :=
  .ofFields fun e he => .leaf <| by
    simp only [List.mem_cons, List.not_mem_nil, or_false] at he
    rcases he with rfl | rfl | rfl <;> exact fields?_ofText? _

def outline : Outline TaskSettings := .flat Overlaid names

theorem isSound_outline : outline.IsSound :=
  Outline.isSound_flat isOrdered_toJson ofJson?_toJson (fun _ _ _ => overlay?_eq_some_iff)
    (fun _ _ _ => Overlaid.again) fun _ _ _ _ => Overlaid.congr

end TaskSettings

namespace GreetSettings

theorem isOrdered_toJson (d : GreetSettings) : (toJson d).IsOrdered :=
  .ofFields fun e he => .leaf <| by
    simp only [List.mem_cons, List.not_mem_nil, or_false] at he
    rcases he with rfl | rfl
    · rfl
    · exact fields?_ofText? _

def outline : Outline GreetSettings := .flat Overlaid names

theorem isSound_outline : outline.IsSound :=
  Outline.isSound_flat isOrdered_toJson ofJson?_toJson (fun _ _ _ => overlay?_eq_some_iff)
    (fun _ _ _ => Overlaid.again) fun _ _ _ _ => Overlaid.congr

end GreetSettings

namespace ServiceSettings

variable {d d' : ServiceSettings} {fs : Table Json} {v w : Json} {name : String}

theorem isOrdered_toJson (d : ServiceSettings) : (toJson d).IsOrdered := by
  have inner : (toJson d.nested).IsOrdered := .ofFields fun e he => .leaf <| by
    simp only [List.mem_cons, List.not_mem_nil, or_false] at he
    rcases he with rfl | rfl <;> rfl
  refine .ofFields fun e he => ?_
  simp only [List.mem_cons, List.not_mem_nil, or_false] at he
  rcases he with rfl | rfl | rfl | rfl | rfl
  · exact .leaf rfl
  · exact .leaf rfl
  · exact .leaf (fields?_limitJson d.limit)
  · exact .leaf rfl
  · exact inner

def outline : Outline ServiceSettings where
  IsValue := IsValue
  Overlaid := Overlaid
  namesAt
    | [] => some names
    | ["nested"] => some ServiceLimits.names
    | _ => none

/-- A field that the inner record does not have makes no difference. -/
theorem follows_put {limits limits' : ServiceLimits} (apart : name ∉ ServiceLimits.names) :
    limits.Follows (some (Json.put name w [] v)) limits' ↔ limits.Follows (some v) limits' := by
  rcases v.leaf_or_object with kind | ⟨gs, rfl⟩
  · rw [Json.put_of_leaf kind]
  · have same := Table.find?_insert_of_notMem apart w gs
    exact ⟨fun laid => ServiceLimits.Overlaid.congr laid fun n hn => (same n hn).symm,
      fun laid => ServiceLimits.Overlaid.congr laid same⟩

theorem overlay?_put_nested (value : d.IsValue) (v_ordered : v.IsOrdered) (w_ordered : w.IsOrdered)
    (apart : name ∉ ServiceLimits.names) :
    overlay? d (Json.put name w ["nested"] v) = overlay? d v := by
  rcases v.leaf_or_object with kind | ⟨fs, rfl⟩
  · rw [Json.put_of_leaf kind]
  · cases found : Table.find? "nested" fs with
    | none => rw [Json.put_of_find?_eq_none found]
    | some u =>
      have put_ordered := v_ordered.insert ((v_ordered.of_find? found).put w_ordered name) "nested"
      have same (n : String) (_ : n ∈ names) (outer : n ≠ "nested") :
          Table.find? n (Table.insert "nested" (Json.put name w [] u) fs) = Table.find? n fs :=
        Table.find?_insert_of_ne outer _ fs
      rw [Json.put_of_find? found]
      refine Option.ext fun d' => ?_
      rw [overlay?_eq_some_iff value put_ordered, overlay?_eq_some_iff value v_ordered]
      constructor
      · refine fun laid => laid.congr (fun n hn outer => (same n hn outer).symm) fun inner => ?_
        rw [Table.find?_insert_self] at inner
        rw [found]
        exact (follows_put apart).mp inner
      · refine fun laid => laid.congr same fun inner => ?_
        rw [Table.find?_insert_self]
        rw [found] at inner
        exact (follows_put apart).mpr inner

theorem isSound_outline : outline.IsSound where
  isOrdered_toJson d _ := isOrdered_toJson d
  ofJson?_toJson d value := ofJson?_toJson value
  isValue_of_ofJson? v d _ := isValue_of_ofJson?
  overlay?_object d fs d' value ordered := overlay?_eq_some_iff value ordered
  again d fs d' _ _ laid := laid.again
  unknown v w path known name d v_ordered w_ordered record apart value := by
    simp only [outline] at record
    split at record
    · cases record
      refine overlay?_put (fun fs d' => overlay?_eq_some_iff value) (fun fs gs d' laid same => ?_)
        v_ordered w_ordered apart
      exact laid.congr (fun n hn _ => same n hn) fun inner => same "nested" (by decide) ▸ inner
    · cases record
      exact overlay?_put_nested value v_ordered w_ordered apart
    · cases record

end ServiceSettings

namespace Json

def outline : Outline Json where
  IsValue := IsOrdered
  Overlaid d fs d' := d'.IsOrdered ∧ IsOverlay d (.object fs) d'
  namesAt _ := none

theorem isSound_outline : outline.IsSound where
  isOrdered_toJson d ordered := ordered
  ofJson?_toJson d _ := rfl
  isValue_of_ofJson? v d ordered h := by cases h; exact ordered
  overlay?_object d fs d' d_ordered ordered := by
    constructor
    · intro h
      cases h
      exact ⟨isOrdered_merge d_ordered ordered, isOverlay_merge ordered d⟩
    · rintro ⟨ordered', overlay⟩
      exact congrArg some (overlay.eq_merge d_ordered ordered ordered').symm
  again d fs d' d_ordered ordered := by
    rintro ⟨ordered', overlay⟩
    have same := overlay.eq_merge d_ordered ordered ordered'
    have again := isOverlay_merge ordered d'
    rw [same, merge_again d_ordered ordered, ← same] at again
    exact ⟨ordered', again⟩
  unknown v w path names name d _ _ record := by cases record

end Json

/-- Whatever is laid over settings, by value or by file, changes what it mentions and nothing else,
and where it does not fit it changes nothing. -/
theorem overlays_keep_what_is_not_mentioned :
    ServiceSettings.outline.Laws ∧ TaskSettings.outline.Laws ∧ GreetSettings.outline.Laws ∧
    Json.outline.Laws :=
  ⟨ServiceSettings.isSound_outline.laws, TaskSettings.isSound_outline.laws,
    GreetSettings.isSound_outline.laws, Json.isSound_outline.laws⟩

/-! ### The limits of a service -/

namespace Limited

/-- A change of one limit inside and one outside, with a field that no limit has. -/
def change : Json :=
  .ofFields [("limit", .int 7), ("nested", .ofFields [("b", .bool true), ("c", .null)])]

theorem isOrdered_change : change.IsOrdered := by
  have inner : (Json.ofFields [("b", .bool true), ("c", .null)]).IsOrdered :=
    .ofFields <| by simpa using ⟨.leaf rfl, .leaf rfl⟩
  exact .ofFields <| by simpa using ⟨.leaf rfl, inner⟩

theorem isValue_standard : ServiceSettings.standard.IsValue where
  limit n there := by cases there
  nested := by unfold ServiceLimits.IsValue; decide

/-- The change is made, and to make it again changes nothing. -/
theorem limits_are_changed :
    let changed := { ServiceSettings.standard with limit := some 7, nested := ⟨1, true⟩ }
    change.IsOrdered ∧ ServiceSettings.standard.IsValue ∧
    (lay () change).run ServiceSettings.standard = .ok () changed ∧
    (lay () change).run changed = .ok () changed := by
  intro changed
  obtain ⟨laws, -⟩ := overlays_keep_what_is_not_mentioned
  have lays := laws.value () change isOrdered_change
  have changed_so : (lay () change).run ServiceSettings.standard = .ok () changed :=
    (lays.object _ rfl _ _ isValue_standard).mpr
      { apiKey := rfl, units := rfl, limit := rfl, tags := rfl, nested := ⟨rfl, rfl⟩ }
  exact ⟨isOrdered_change, isValue_standard, changed_so, lays.again _ _ isValue_standard changed_so⟩

end Limited

end Switchboard
