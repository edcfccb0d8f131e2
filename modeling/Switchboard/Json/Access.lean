import Switchboard.Json.Basic
import Switchboard.Text.Utf8

/-!
# Parts of documents

Lenient access to the fields of a document: a field that is missing, or of another kind than is
asked for, reads as null, as nothing, or as the empty value of its kind.
-/

namespace Switchboard.Json

/-- The value of a field. -/
def field (v : Json) (name : String) : Json := (v.get? name).getD .null

/-- Whether a field has a value. -/
def has (v : Json) (name : String) : Bool := !(v.field name).isNull

def asText? : Json → Option String
  | .text s => some s
  | _ => none

def asNat? : Json → Option Nat
  | .int n => some n.toNat
  | _ => none

/-- The items of an array. -/
def items : Json → List Json
  | .array vs => vs
  | _ => []

def str? (v : Json) (name : String) : Option String := (v.field name).asText?

def str (v : Json) (name : String) : String := (v.str? name).getD ""

def nat? (v : Json) (name : String) : Option Nat := (v.field name).asNat?

def nat (v : Json) (name : String) : Nat := (v.nat? name).getD 0

/-- Whether a field is true. -/
def flag (v : Json) (name : String) : Bool :=
  match v.field name with
  | .bool b => b
  | _ => false

def list (v : Json) (name : String) : List Json := (v.field name).items

/-- The texts of an array. -/
def strs (v : Json) (name : String) : List String := (v.list name).filterMap asText?

/-- The value of a hexadecimal digit. -/
def hexValue (c : Char) : Nat :=
  if c.isDigit then c.toNat - '0'.toNat else c.toLower.toNat - 'a'.toNat + 10

/-- The bytes that pairs of hexadecimal digits write. -/
def hexBytes : List Char → List UInt8
  | a :: b :: rest => UInt8.ofNat (hexValue a * 16 + hexValue b) :: hexBytes rest
  | _ => []

/-- The bytes of a text, or those that the field `hex` writes. -/
def bytes : Json → List UInt8
  | .text s => Text.Utf8.encode s
  | v => hexBytes (v.str "hex").toList

/-- A natural number as a document. -/
def ofNat (n : Nat) : Json := .int n

/-- Texts as a document. -/
def ofTexts (ss : List String) : Json := .array (ss.map .text)

/-- A value that may be missing as a document. -/
def ofOption {α : Type} (f : α → Json) : Option α → Json
  | some a => f a
  | none => .null

theorem sizeOf_lt_of_find? {name : String} {w : Json} :
    ∀ {fs : Table Json}, Table.find? name fs = some w → sizeOf w < sizeOf fs
  | [], h => by simp [Table.find?] at h
  | (k, v) :: rest, h => by
    rw [Table.find?] at h
    split at h
    · cases h
      simp
      omega
    · have := sizeOf_lt_of_find? h
      simp
      omega

/-- The value of a field is smaller than the document. -/
theorem sizeOf_lt_of_get? {v w : Json} {name : String} (h : v.get? name = some w) :
    sizeOf w < sizeOf v := by
  cases v with
  | object fs =>
    have : sizeOf w < sizeOf fs := sizeOf_lt_of_find? h
    simp
    omega
  | _ => simp [get?] at h

end Switchboard.Json
