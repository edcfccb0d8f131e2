import Switchboard.Bundled.Settings
import Switchboard.Proofs.OrderedDocuments

/-!
# Records with an object laid over them

For each record that settings are made of, `Overlaid d fs d'` says field by field what comes of the
value `d` where an object with the fields `fs` is laid over it: a field that is not mentioned keeps
its value, any other is what its mention reads as, and of the inner record of a service what its
mention is laid over. `overlay?_eq_some_iff` says that this is what the overlay gives, and that it
fails where no such value is.

The proofs go through the document value of the record: `exists_find?_mergeFields` says what the
reader of a field finds after the merge.
-/

namespace Switchboard

namespace Settings

section Reading

variable {β : Type} {read : Json → Option β} {old new : β} {mention : Option Json}
  {entries : List (String × Json)} {fs gs : Table Json} {name : String} {held : Json}

/-- What a field comes to: it keeps its value if it is not mentioned, else it is what the mention
reads as. -/
def reread (read : Json → Option β) (old : β) : Option Json → Option β
  | none => some old
  | some v => read v

/-- To read the same mention again changes nothing. -/
theorem reread_again (h : reread read old mention = some new) :
    reread read new mention = some new := by
  cases mention with
  | none => rfl
  | some v => exact h

/-- A field whose document value is no object reads as its mention, if there is one. -/
theorem exists_find?_mergeFields (distinct : (entries.map Prod.fst).Nodup)
    (own : (name, held) ∈ entries) (leaf : held.fields? = none) (reads : read held = some old)
    (sorted : fs.IsSorted) :
    ∃ v, Table.find? name (Json.mergeFields (Table.ofList entries) fs) = some v ∧
      read v = reread read old (Table.find? name fs) := by
  have found := Table.find?_ofList_of_mem distinct own
  cases mention : Table.find? name fs with
  | none => exact ⟨held, (Json.find?_mergeFields_of_none mention _).trans found, reads⟩
  | some w =>
    refine ⟨w, ?_, rfl⟩
    rw [Json.find?_mergeFields_of_some sorted mention, found, Json.onto_some, Json.merge_leaf leaf]

theorem fields?_ofText? (s : Option String) : (ofText? s).fields? = none := by
  cases s <;> rfl

theorem optional?_ofText? (s : Option String) : optional? text? (ofText? s) = some s := by
  cases s <;> rfl

theorem integer?_int {least most n : Int} (h : least ≤ n ∧ n ≤ most) :
    integer? least most (.int n) = some n :=
  if_pos h

/-- An integer that is read is in its range. -/
theorem range_of_integer? {least most n : Int} {v : Json} (h : integer? least most v = some n) :
    least ≤ n ∧ n ≤ most := by
  unfold integer? at h
  split at h
  · split at h
    · next range => cases h; exact range
    · cases h
  · cases h

theorem texts?_map_text (ss : List String) : texts? (.array (ss.map .text)) = some ss := by
  rw [texts?]
  induction ss with
  | nil => rfl
  | cons s ss ih =>
    rw [List.map_cons, List.mapM_cons, ih]
    rfl

/-- An optional text is read from its mention, if there is one. -/
theorem exists_ofText?_mergeFields {s : Option String} (distinct : (entries.map Prod.fst).Nodup)
    (own : (name, ofText? s) ∈ entries) (sorted : fs.IsSorted) :
    ∃ v, Table.find? name (Json.mergeFields (Table.ofList entries) fs) = some v ∧
      optional? text? v = reread (optional? text?) s (Table.find? name fs) :=
  exists_find?_mergeFields distinct own (fields?_ofText? s) (optional?_ofText? s) sorted

/-- A text is read from its mention, if there is one. -/
theorem exists_text_mergeFields {s : String} (distinct : (entries.map Prod.fst).Nodup)
    (own : (name, .text s) ∈ entries) (sorted : fs.IsSorted) :
    ∃ v, Table.find? name (Json.mergeFields (Table.ofList entries) fs) = some v ∧
      text? v = reread text? s (Table.find? name fs) :=
  exists_find?_mergeFields distinct own rfl rfl sorted

end Reading

/-- An empty object changes no object. -/
theorem merge_empty {b : Json} (object : b.fields?.isSome) : Json.merge b (.object []) = b := by
  cases b with
  | object fs => rw [Json.merge_object, Json.mergeFields_nil]
  | _ => cases object

/-- Settings are read back where an empty object changes nothing. -/
theorem ofJson?_toJson_of_overlay? {α : Type} [Settings α] {d : α}
    (object : (toJson d).fields?.isSome) (h : overlay? d (.object []) = some d) :
    ofJson? (toJson d) = some d := by
  rw [overlay?, merge_empty object] at h
  · exact h
  · exact nofun

end Settings

open Settings

/-! ## Settings of tasks -/

namespace TaskSettings

variable {d d' : TaskSettings} {fs gs : Table Json}

def names : List String := ["schedule", "destination", "note"]

def entries (d : TaskSettings) : List (String × Json) :=
  [("schedule", ofText? d.schedule), ("destination", ofText? d.destination),
    ("note", ofText? d.note)]

/-- How the fields of `d'` come out where an object with the fields `fs` is laid over `d`. -/
structure Overlaid (d : TaskSettings) (fs : Table Json) (d' : TaskSettings) : Prop where
  schedule : reread (optional? text?) d.schedule (Table.find? "schedule" fs) = some d'.schedule
  destination :
    reread (optional? text?) d.destination (Table.find? "destination" fs) = some d'.destination
  note : reread (optional? text?) d.note (Table.find? "note" fs) = some d'.note

theorem Overlaid.again (h : d.Overlaid fs d') : d'.Overlaid fs d' :=
  ⟨reread_again h.schedule, reread_again h.destination, reread_again h.note⟩

/-- Only fields of the record matter. -/
theorem Overlaid.congr (h : d.Overlaid fs d')
    (same : ∀ name ∈ names, Table.find? name gs = Table.find? name fs) : d.Overlaid gs d' := by
  simp only [names, List.forall_mem_cons] at same
  obtain ⟨schedule, destination, note, -⟩ := same
  exact ⟨schedule ▸ h.schedule, destination ▸ h.destination, note ▸ h.note⟩

theorem overlay?_eq_some_iff (sorted : fs.IsSorted) :
    overlay? d (.object fs) = some d' ↔ d.Overlaid fs d' := by
  have distinct : (d.entries.map Prod.fst).Nodup := by simp [entries]
  obtain ⟨u, hu, schedule⟩ := exists_ofText?_mergeFields distinct
    (show ("schedule", ofText? d.schedule) ∈ d.entries from .head _) sorted
  obtain ⟨v, hv, destination⟩ := exists_ofText?_mergeFields distinct
    (show ("destination", ofText? d.destination) ∈ d.entries from .tail _ (.head _)) sorted
  obtain ⟨w, hw, note⟩ := exists_ofText?_mergeFields distinct
    (show ("note", ofText? d.note) ∈ d.entries from .tail _ (.tail _ (.head _))) sorted
  show ofJson? (Json.merge (.object (Table.ofList d.entries)) (.object fs)) = some d' ↔ _
  simp only [Json.merge_object, ofJson?, fields?, Fields.optional, hu, hv, hw, schedule,
    destination, note, Option.bind_eq_bind, Option.bind_some]
  constructor
  · intro h
    obtain ⟨a, ha, h⟩ := Option.bind_eq_some_iff.mp h
    obtain ⟨b, hb, h⟩ := Option.bind_eq_some_iff.mp h
    obtain ⟨c, hc, h⟩ := Option.bind_eq_some_iff.mp h
    cases h
    exact ⟨ha, hb, hc⟩
  · rintro ⟨ha, hb, hc⟩
    simp only [ha, hb, hc, Option.bind_some]
    rfl

theorem ofJson?_toJson (d : TaskSettings) : ofJson? (toJson d) = some d :=
  ofJson?_toJson_of_overlay? rfl ((overlay?_eq_some_iff .nil).mpr ⟨rfl, rfl, rfl⟩)

end TaskSettings

/-! ## Settings of the greeting -/

namespace GreetSettings

variable {d d' : GreetSettings} {fs gs : Table Json}

def names : List String := ["greeting", "signature"]

def entries (d : GreetSettings) : List (String × Json) :=
  [("greeting", .text d.greeting), ("signature", ofText? d.signature)]

/-- How the fields of `d'` come out where an object with the fields `fs` is laid over `d`. -/
structure Overlaid (d : GreetSettings) (fs : Table Json) (d' : GreetSettings) : Prop where
  greeting : reread text? d.greeting (Table.find? "greeting" fs) = some d'.greeting
  signature : reread (optional? text?) d.signature (Table.find? "signature" fs) = some d'.signature

theorem Overlaid.again (h : d.Overlaid fs d') : d'.Overlaid fs d' :=
  ⟨reread_again h.greeting, reread_again h.signature⟩

/-- Only fields of the record matter. -/
theorem Overlaid.congr (h : d.Overlaid fs d')
    (same : ∀ name ∈ names, Table.find? name gs = Table.find? name fs) : d.Overlaid gs d' := by
  simp only [names, List.forall_mem_cons] at same
  obtain ⟨greeting, signature, -⟩ := same
  exact ⟨greeting ▸ h.greeting, signature ▸ h.signature⟩

theorem overlay?_eq_some_iff (sorted : fs.IsSorted) :
    overlay? d (.object fs) = some d' ↔ d.Overlaid fs d' := by
  have distinct : (d.entries.map Prod.fst).Nodup := by simp [entries]
  obtain ⟨u, hu, greeting⟩ := exists_text_mergeFields distinct
    (show ("greeting", .text d.greeting) ∈ d.entries from .head _) sorted
  obtain ⟨v, hv, signature⟩ := exists_ofText?_mergeFields distinct
    (show ("signature", ofText? d.signature) ∈ d.entries from .tail _ (.head _)) sorted
  show ofJson? (Json.merge (.object (Table.ofList d.entries)) (.object fs)) = some d' ↔ _
  simp only [Json.merge_object, ofJson?, fieldsOrDefault?, Fields.orDefault, hu, hv, greeting,
    signature, Option.bind_eq_bind, Option.bind_some]
  constructor
  · intro h
    obtain ⟨a, ha, h⟩ := Option.bind_eq_some_iff.mp h
    obtain ⟨b, hb, h⟩ := Option.bind_eq_some_iff.mp h
    cases h
    exact ⟨ha, hb⟩
  · rintro ⟨ha, hb⟩
    simp only [ha, hb, Option.bind_some]
    rfl

theorem ofJson?_toJson (d : GreetSettings) : ofJson? (toJson d) = some d :=
  ofJson?_toJson_of_overlay? rfl ((overlay?_eq_some_iff .nil).mpr ⟨rfl, rfl⟩)

end GreetSettings

/-! ## Settings of a service -/

namespace ServiceLimits

variable {d d' : ServiceLimits} {fs gs : Table Json} {v : Json}

/-- The first limit is an integer that a signed word holds. -/
def IsValue (d : ServiceLimits) : Prop := -0x8000000000000000 ≤ d.a ∧ d.a ≤ 0x7FFFFFFFFFFFFFFF

def names : List String := ["a", "b"]

def entries (d : ServiceLimits) : List (String × Json) := [("a", .int d.a), ("b", .bool d.b)]

/-- How the fields of `d'` come out where an object with the fields `fs` is laid over `d`. -/
structure Overlaid (d : ServiceLimits) (fs : Table Json) (d' : ServiceLimits) : Prop where
  a : reread (integer? (-0x8000000000000000) 0x7FFFFFFFFFFFFFFF) d.a (Table.find? "a" fs) =
    some d'.a
  b : reread flag? d.b (Table.find? "b" fs) = some d'.b

theorem Overlaid.again (h : d.Overlaid fs d') : d'.Overlaid fs d' :=
  ⟨reread_again h.a, reread_again h.b⟩

/-- Only fields of the record matter. -/
theorem Overlaid.congr (h : d.Overlaid fs d')
    (same : ∀ name ∈ names, Table.find? name gs = Table.find? name fs) : d.Overlaid gs d' := by
  simp only [names, List.forall_mem_cons] at same
  obtain ⟨a, b, -⟩ := same
  exact ⟨a ▸ h.a, b ▸ h.b⟩

theorem isValue_of_ofJson? (h : ofJson? v = some d) : d.IsValue := by
  obtain ⟨f, -, h⟩ := Option.bind_eq_some_iff.mp h
  obtain ⟨a, read, h⟩ := Option.bind_eq_some_iff.mp h
  obtain ⟨b, -, h⟩ := Option.bind_eq_some_iff.mp h
  cases h
  obtain ⟨v, -, read⟩ := Option.bind_eq_some_iff.mp read
  exact range_of_integer? read

theorem overlay?_eq_some_iff (isValue : d.IsValue) (sorted : fs.IsSorted) :
    overlay? d (.object fs) = some d' ↔ d.Overlaid fs d' := by
  have distinct : (d.entries.map Prod.fst).Nodup := by simp [entries]
  obtain ⟨u, hu, a⟩ := exists_find?_mergeFields distinct
    (show ("a", .int d.a) ∈ d.entries from .head _) rfl (integer?_int isValue) sorted
  obtain ⟨v, hv, b⟩ := exists_find?_mergeFields distinct
    (show ("b", .bool d.b) ∈ d.entries from .tail _ (.head _)) rfl
    (show flag? (.bool d.b) = some d.b from rfl) sorted
  show ofJson? (Json.merge (.object (Table.ofList d.entries)) (.object fs)) = some d' ↔ _
  simp only [Json.merge_object, ofJson?, fields?, Fields.required, hu, hv, a, b,
    Option.bind_eq_bind, Option.bind_some]
  constructor
  · intro h
    obtain ⟨_, ha, h⟩ := Option.bind_eq_some_iff.mp h
    obtain ⟨_, hb, h⟩ := Option.bind_eq_some_iff.mp h
    cases h
    exact ⟨ha, hb⟩
  · rintro ⟨ha, hb⟩
    simp only [ha, hb, Option.bind_some]
    rfl

theorem ofJson?_toJson (isValue : d.IsValue) : ofJson? (toJson d) = some d :=
  ofJson?_toJson_of_overlay? rfl ((overlay?_eq_some_iff isValue .nil).mpr ⟨rfl, rfl⟩)

/-- What the record comes to: as a field it keeps its value if it is not mentioned, an object is
laid over it, and anything else takes its place. -/
def Follows (d : ServiceLimits) (mention : Option Json) (d' : ServiceLimits) : Prop :=
  match mention with
  | none => d' = d
  | some (.object fs) => d.Overlaid fs d'
  | some v => ofJson? v = some d'

theorem Follows.again {mention : Option Json} (h : d.Follows mention d') :
    d'.Follows mention d' := by
  unfold Follows at h ⊢
  split at h
  · rfl
  · exact h.again
  · exact h

end ServiceLimits

namespace ServiceSettings

variable {d d' : ServiceSettings} {fs gs : Table Json} {v : Json}

/-- The limits are integers of their types. -/
structure IsValue (d : ServiceSettings) : Prop where
  limit : ∀ n ∈ d.limit, 0 ≤ n ∧ n ≤ 255
  nested : d.nested.IsValue

def names : List String := ["api_key", "units", "limit", "tags", "nested"]

/-- The document value of the limit. -/
def limitJson : Option Int → Json
  | none => .null
  | some n => .int n

def entries (d : ServiceSettings) : List (String × Json) :=
  [("api_key", .text d.apiKey), ("units", .text d.units), ("limit", limitJson d.limit),
    ("tags", .array (d.tags.map .text)), ("nested", toJson d.nested)]

/-- How the fields of `d'` come out where an object with the fields `fs` is laid over `d`. -/
structure Overlaid (d : ServiceSettings) (fs : Table Json) (d' : ServiceSettings) : Prop where
  apiKey : reread text? d.apiKey (Table.find? "api_key" fs) = some d'.apiKey
  units : reread text? d.units (Table.find? "units" fs) = some d'.units
  limit : reread (optional? (integer? 0 255)) d.limit (Table.find? "limit" fs) = some d'.limit
  tags : reread texts? d.tags (Table.find? "tags" fs) = some d'.tags
  nested : d.nested.Follows (Table.find? "nested" fs) d'.nested

theorem Overlaid.again (h : d.Overlaid fs d') : d'.Overlaid fs d' :=
  ⟨reread_again h.apiKey, reread_again h.units, reread_again h.limit, reread_again h.tags,
    h.nested.again⟩

/-- Only fields of the record matter, and of the inner record. -/
theorem Overlaid.congr (h : d.Overlaid fs d')
    (same : ∀ name ∈ names, name ≠ "nested" → Table.find? name gs = Table.find? name fs)
    (inner : d.nested.Follows (Table.find? "nested" fs) d'.nested →
      d.nested.Follows (Table.find? "nested" gs) d'.nested) : d.Overlaid gs d' := by
  simp only [names, List.forall_mem_cons] at same
  obtain ⟨apiKey, units, limit, tags, -⟩ := same
  exact ⟨apiKey (by decide) ▸ h.apiKey, units (by decide) ▸ h.units, limit (by decide) ▸ h.limit,
    tags (by decide) ▸ h.tags, inner h.nested⟩

theorem ofJson?_object (fs : Table Json) :
    ofJson? (.object fs) =
      ((Table.find? "api_key" fs).bind text?).bind fun apiKey =>
      ((Table.find? "units" fs).bind text?).bind fun units =>
      (Fields.optional (Table.find? · fs) "limit" (integer? 0 255)).bind fun limit =>
      ((Table.find? "tags" fs).bind texts?).bind fun tags =>
      ((Table.find? "nested" fs).bind ofJson?).bind fun nested =>
        some (⟨apiKey, units, limit, tags, nested⟩ : ServiceSettings) :=
  rfl

theorem fields?_limitJson (n : Option Int) : (limitJson n).fields? = none := by
  cases n <;> rfl

theorem optional?_limitJson {limit : Option Int} (h : ∀ n ∈ limit, 0 ≤ n ∧ n ≤ 255) :
    optional? (integer? 0 255) (limitJson limit) = some limit := by
  cases limit with
  | none => rfl
  | some n => exact congrArg (Option.map some) (integer?_int (h n rfl))

theorem range_of_optional?_integer? {least most n : Int} {limit : Option Int}
    (read : optional? (integer? least most) v = some limit) (h : n ∈ limit) :
    least ≤ n ∧ n ≤ most := by
  unfold optional? at read
  split at read
  · cases read; cases h
  · obtain ⟨m, read, same⟩ := Option.map_eq_some_iff.mp read
    cases same.trans h
    exact range_of_integer? read

theorem isValue_of_ofJson? (h : ofJson? v = some d) : d.IsValue := by
  obtain ⟨f, -, h⟩ := Option.bind_eq_some_iff.mp h
  obtain ⟨apiKey, -, h⟩ := Option.bind_eq_some_iff.mp h
  obtain ⟨units, -, h⟩ := Option.bind_eq_some_iff.mp h
  obtain ⟨limit, limit_read, h⟩ := Option.bind_eq_some_iff.mp h
  obtain ⟨tags, -, h⟩ := Option.bind_eq_some_iff.mp h
  obtain ⟨nested, nested_read, h⟩ := Option.bind_eq_some_iff.mp h
  cases h
  obtain ⟨w, -, nested_read⟩ := Option.bind_eq_some_iff.mp nested_read
  refine ⟨fun n there => ?_, ServiceLimits.isValue_of_ofJson? nested_read⟩
  unfold Fields.optional at limit_read
  split at limit_read
  · cases limit_read; cases there
  · exact range_of_optional?_integer? limit_read there

/-- The inner record is read from its mention, if there is one, laid over what it was. -/
theorem exists_nested_mergeFields (isValue : d.IsValue) (ordered : (Json.object fs).IsOrdered) :
    ∃ v, Table.find? "nested" (Json.mergeFields (Table.ofList d.entries) fs) = some v ∧
      ∀ l, ofJson? v = some l ↔ d.nested.Follows (Table.find? "nested" fs) l := by
  have distinct : (d.entries.map Prod.fst).Nodup := by simp [entries]
  have found := Table.find?_ofList_of_mem distinct
    (show ("nested", toJson d.nested) ∈ d.entries by simp [entries])
  cases mention : Table.find? "nested" fs with
  | none =>
    refine ⟨toJson d.nested, (Json.find?_mergeFields_of_none mention _).trans found, fun l => ?_⟩
    rw [ServiceLimits.ofJson?_toJson isValue.nested, Option.some.injEq]
    exact eq_comm
  | some w =>
    refine ⟨Json.merge (toJson d.nested) w, ?_, fun l => ?_⟩
    · rw [Json.find?_mergeFields_of_some ordered.sorted mention, found, Json.onto_some]
    rcases w.leaf_or_object with kind | ⟨gs, rfl⟩
    · rw [Json.merge_of_leaf kind]
      cases w <;> first | rfl | cases kind
    · exact ServiceLimits.overlay?_eq_some_iff isValue.nested (ordered.of_find? mention).sorted

theorem overlay?_eq_some_iff (isValue : d.IsValue) (ordered : (Json.object fs).IsOrdered) :
    overlay? d (.object fs) = some d' ↔ d.Overlaid fs d' := by
  have sorted := ordered.sorted
  have distinct : (d.entries.map Prod.fst).Nodup := by simp [entries]
  obtain ⟨v₁, h₁, apiKey⟩ := exists_text_mergeFields distinct
    (show ("api_key", .text d.apiKey) ∈ d.entries by simp [entries]) sorted
  obtain ⟨v₂, h₂, units⟩ := exists_text_mergeFields distinct
    (show ("units", .text d.units) ∈ d.entries by simp [entries]) sorted
  obtain ⟨v₃, h₃, limit⟩ := exists_find?_mergeFields distinct
    (show ("limit", limitJson d.limit) ∈ d.entries by simp [entries]) (fields?_limitJson _)
    (optional?_limitJson isValue.limit) sorted
  obtain ⟨v₄, h₄, tags⟩ := exists_find?_mergeFields distinct
    (show ("tags", .array (d.tags.map .text)) ∈ d.entries by simp [entries]) rfl
    (texts?_map_text d.tags) sorted
  obtain ⟨v₅, h₅, nested⟩ := exists_nested_mergeFields isValue ordered
  show ofJson? (Json.merge (.object (Table.ofList d.entries)) (.object fs)) = some d' ↔ _
  rw [Json.merge_object, ofJson?_object]
  simp only [Fields.optional, h₁, h₂, h₃, h₄, h₅, apiKey, units, limit, tags, Option.bind_some]
  constructor
  · intro h
    obtain ⟨a, ha, h⟩ := Option.bind_eq_some_iff.mp h
    obtain ⟨b, hb, h⟩ := Option.bind_eq_some_iff.mp h
    obtain ⟨c, hc, h⟩ := Option.bind_eq_some_iff.mp h
    obtain ⟨e, he, h⟩ := Option.bind_eq_some_iff.mp h
    obtain ⟨l, hl, h⟩ := Option.bind_eq_some_iff.mp h
    cases h
    exact ⟨ha, hb, hc, he, (nested l).mp hl⟩
  · rintro ⟨ha, hb, hc, he, hl⟩
    simp only [ha, hb, hc, he, (nested _).mpr hl, Option.bind_some]

theorem ofJson?_toJson (isValue : d.IsValue) : ofJson? (toJson d) = some d :=
  ofJson?_toJson_of_overlay? rfl
    ((overlay?_eq_some_iff isValue Json.isOrdered_empty).mpr ⟨rfl, rfl, rfl, rfl, rfl⟩)

end ServiceSettings

end Switchboard
