import Switchboard.Json.Basic

/-!
# Deep merge

`Json.merge base other` overlays `other` on `base`: objects merge field by field, anything else in
`other` replaces what `base` has there.
-/

namespace Switchboard.Json

mutual

/-- `base` with `other` laid over it. -/
def merge (base : Json) : Json → Json
  | .object other =>
    match base with
    | .object fs => .object (mergeFields fs other)
    | _ => .object other
  | .null => .null
  | .bool b => .bool b
  | .int n => .int n
  | .float x => .float x
  | .text s => .text s
  | .array items => .array items

/-- The fields `base` with the fields `other` laid over them one after the other. -/
def mergeFields (base : List (String × Json)) : List (String × Json) → List (String × Json)
  | [] => base
  | (name, v) :: rest =>
    mergeFields
      (match Table.find? name base with
       | some b => Table.insert name (merge b v) base
       | none => Table.insert name v base)
      rest

end

@[simp] theorem mergeFields_nil (base : Table Json) : mergeFields base [] = base := by
  rw [mergeFields]

end Switchboard.Json
