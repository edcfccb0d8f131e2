import Switchboard.Settings.Overlay

/-!
# Records

How records are read from document values: from an object by the names of its fields, where unknown
names have no effect, or from an array by position. `Fields` gives the value of each field; fields
are read with `text?`, `flag?`, `integer?` and the like, and an optional field may be absent or
null.
-/

namespace Switchboard.Settings

/-- The value of each field. -/
abbrev Fields := String → Option Json

/-- The fields of a record: of an object by name, of an array with as many items by position. -/
def fields? (names : List String) : Json → Option Fields
  | .object fs => some fun n => Table.find? n fs
  | .array vs => if vs.length = names.length then some (fun n => (names.zip vs).lookup n) else none
  | _ => none

/-- The fields of a record that has defaults: an array may also be shorter. -/
def fieldsOrDefault? (names : List String) : Json → Option Fields
  | .object fs => some fun n => Table.find? n fs
  | .array vs => if vs.length ≤ names.length then some (fun n => (names.zip vs).lookup n) else none
  | _ => none

def text? : Json → Option String
  | .text s => some s
  | _ => none

def flag? : Json → Option Bool
  | .bool b => some b
  | _ => none

/-- An integer from `least` to `most`. -/
def integer? (least most : Int) : Json → Option Int
  | .int n => if least ≤ n ∧ n ≤ most then some n else none
  | _ => none

def texts? : Json → Option (List String)
  | .array vs => vs.mapM text?
  | _ => none

/-- A value or null. -/
def optional? {α : Type} (read : Json → Option α) : Json → Option (Option α)
  | .null => some none
  | v => (read v).map some

/-- A field that must be there. -/
def Fields.required {α : Type} (f : Fields) (name : String) (read : Json → Option α) : Option α :=
  (f name).bind read

/-- A field that may be absent or null. -/
def Fields.optional {α : Type} (f : Fields) (name : String) (read : Json → Option α) :
    Option (Option α) :=
  match f name with
  | none => some none
  | some v => optional? read v

/-- A field that has a default. -/
def Fields.orDefault {α : Type} (f : Fields) (name : String) (read : Json → Option α) (d : α) :
    Option α :=
  match f name with
  | none => some d
  | some v => read v

/-- The document value of an optional text. -/
def ofText? : Option String → Json
  | none => .null
  | some s => .text s

instance : Settings Json where
  toJson := id
  ofJson? := some

end Switchboard.Settings

namespace Switchboard

/-- The inner record of `ServiceSettings`. -/
structure ServiceLimits where
  a : Int
  b : Bool
  deriving DecidableEq, Repr, Inhabited

/-- Settings of a command that calls a service. -/
structure ServiceSettings where
  apiKey : String
  units : String
  limit : Option Int
  tags : List String
  nested : ServiceLimits
  deriving DecidableEq, Repr, Inhabited

/-- Settings of a task: when it fires, where its results go, and a remark. -/
structure TaskSettings where
  schedule : Option String
  destination : Option String
  note : Option String
  deriving DecidableEq, Repr, Inhabited

/-- Settings that are only a remark. -/
structure NoteSettings where
  note : Option String
  deriving DecidableEq, Repr, Inhabited

open Settings

instance : Settings ServiceLimits where
  toJson s := .ofFields [("a", .int s.a), ("b", .bool s.b)]
  ofJson? v := do
    let f ← fields? ["a", "b"] v
    let a ← f.required "a" (integer? (-0x8000000000000000) 0x7FFFFFFFFFFFFFFF)
    return ⟨a, ← f.required "b" flag?⟩

/-- The settings that hold without a file. -/
def ServiceSettings.standard : ServiceSettings :=
  { apiKey := "none", units := "metric", limit := none, tags := ["x"], nested := ⟨1, false⟩ }

instance : Settings ServiceSettings where
  toJson s := .ofFields
    [("api_key", .text s.apiKey), ("units", .text s.units),
      ("limit", match s.limit with | none => .null | some n => .int n),
      ("tags", .array (s.tags.map .text)), ("nested", toJson s.nested)]
  ofJson? v := do
    let f ← fields? ["api_key", "units", "limit", "tags", "nested"] v
    return {
      apiKey := ← f.required "api_key" text?
      units := ← f.required "units" text?
      limit := ← f.optional "limit" (integer? 0 255)
      tags := ← f.required "tags" texts?
      nested := ← f.required "nested" ofJson? }

instance : Settings TaskSettings where
  toJson s := .ofFields
    [("schedule", ofText? s.schedule), ("destination", ofText? s.destination),
      ("note", ofText? s.note)]
  ofJson? v := do
    let f ← fields? ["schedule", "destination", "note"] v
    return ⟨← f.optional "schedule" text?, ← f.optional "destination" text?,
      ← f.optional "note" text?⟩

instance : Settings NoteSettings where
  toJson s := .ofFields [("note", ofText? s.note)]
  ofJson? v := do
    let f ← fields? ["note"] v
    return ⟨← f.optional "note" text?⟩

end Switchboard
