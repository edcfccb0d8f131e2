import Switchboard.Json.Basic
import Switchboard.Number.Shortest

/-!
# The compact text of a document value

No spaces; the fields of an object in their order; other characters than quotes, backslashes and
controls as they are. Controls have short names where there is one, else four hexadecimal digits.
-/

namespace Switchboard.Json

/-- A hexadecimal digit. -/
def hexDigit (n : Nat) : Char := (Nat.digitChar (n % 16))

/-- A character between quotes. -/
def escapeChar (c : Char) : List Char :=
  if c = '"' then ['\\', '"']
  else if c = '\\' then ['\\', '\\']
  else if c.toNat = 0x08 then ['\\', 'b']
  else if c.toNat = 0x09 then ['\\', 't']
  else if c.toNat = 0x0A then ['\\', 'n']
  else if c.toNat = 0x0C then ['\\', 'f']
  else if c.toNat = 0x0D then ['\\', 'r']
  else if c.toNat < 0x20 then ['\\', 'u', '0', '0', hexDigit (c.toNat / 16), hexDigit c.toNat]
  else [c]

/-- A text between quotes. -/
def quote (s : String) : String := String.ofList ('"' :: s.toList.flatMap escapeChar ++ ['"'])

mutual

/-- The compact text of a value. -/
def render : Json → String
  | .null => "null"
  | .bool true => "true"
  | .bool false => "false"
  | .int n => toString n
  | .float x => Binary64.FloatText.standard.render x
  | .text s => quote s
  | .array items => "[" ++ renderItems true items ++ "]"
  | .object fields => "\x7b" ++ renderFields true fields ++ "\x7d"

/-- The items of an array, with commas between them. -/
def renderItems (first : Bool) : List Json → String
  | [] => ""
  | v :: rest => (if first then "" else ",") ++ render v ++ renderItems false rest

/-- The fields of an object, with commas between them. -/
def renderFields (first : Bool) : List (String × Json) → String
  | [] => ""
  | (n, v) :: rest =>
    (if first then "" else ",") ++ quote n ++ ":" ++ render v ++ renderFields false rest

end

end Switchboard.Json
