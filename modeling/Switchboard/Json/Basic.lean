import Switchboard.Number.Binary64
import Switchboard.Table

/-!
# Document values

`Json` is the value that configuration files, structured replies and settings are made of. The
fields of an object are a table in the order of their names. `Json.at?` follows a list of field
names.
-/

namespace Switchboard

/-- A document value. -/
inductive Json where
  | null
  | bool (b : Bool)
  | int (n : Int)
  | float (x : Binary64)
  | text (s : String)
  | array (items : List Json)
  | object (fields : List (String × Json))
  deriving Repr, Inhabited

namespace Json

/-- An object from fields in any order; of fields with one name the last wins. -/
def ofFields (fs : Table Json) : Json := .object (Table.ofList fs)

/-- The fields of an object. -/
def fields? : Json → Option (Table Json)
  | .object fs => some fs
  | _ => none

/-- The value of a field, if the value is an object that has it. -/
def get? (name : String) : Json → Option Json
  | .object fs => Table.find? name fs
  | _ => none

/-- The value that a list of field names leads to. -/
def at? : Json → List String → Option Json
  | v, [] => some v
  | v, name :: path => (v.get? name).bind fun w => w.at? path

def isNull : Json → Bool
  | .null => true
  | _ => false

end Json

end Switchboard
