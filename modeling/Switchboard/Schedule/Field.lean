import Switchboard.Text.Lowercase

/-!
# Fields of a calendar rule

A field restricts one unit of the calendar to a set of numbers. It is written as a list of items:
everything, a number, a range, a name or a range of names, and all of these but a single name with
a step.
-/

namespace Switchboard

/-- A unit of the calendar: its least and greatest number, the names of numbers, and whether a
question mark stands for everything. -/
structure CalendarUnit where
  least : Nat
  most : Nat
  names : List (String × Nat) := []
  question : Bool := false

namespace CalendarUnit

def second : CalendarUnit := { least := 0, most := 59 }
def minute : CalendarUnit := { least := 0, most := 59 }
def hour : CalendarUnit := { least := 0, most := 23 }
def dayOfMonth : CalendarUnit := { least := 1, most := 31, question := true }
def year : CalendarUnit := { least := 1970, most := 2100 }

def month : CalendarUnit where
  least := 1
  most := 12
  names :=
    [("jan", 1), ("january", 1), ("feb", 2), ("february", 2), ("mar", 3), ("march", 3),
      ("apr", 4), ("april", 4), ("may", 5), ("jun", 6), ("june", 6), ("jul", 7), ("july", 7),
      ("aug", 8), ("august", 8), ("sep", 9), ("september", 9), ("oct", 10), ("october", 10),
      ("nov", 11), ("november", 11), ("dec", 12), ("december", 12)]

/-- Days of the week count from Sunday. -/
def dayOfWeek : CalendarUnit where
  least := 1
  most := 7
  names :=
    [("sun", 1), ("sunday", 1), ("mon", 2), ("monday", 2), ("tue", 3), ("tues", 3),
      ("tuesday", 3), ("wed", 4), ("wednesday", 4), ("thu", 5), ("thurs", 5), ("thursday", 5),
      ("fri", 6), ("friday", 6), ("sat", 7), ("saturday", 7)]
  question := true

/-- The number that a name stands for, in any case. -/
def named? (u : CalendarUnit) (name : String) : Option Nat :=
  u.names.lookup (Text.lowercase name)

/-- All numbers of the unit, in order. -/
def all (u : CalendarUnit) : List Nat := (List.range (u.most + 1)).filter fun n => u.least ≤ n

end CalendarUnit

/-- What an item without a step stands for. -/
inductive FieldBase where
  | all
  | point (n : Nat)
  | range (a b : Nat)
  | name (s : String)
  | nameRange (a b : String)
  deriving DecidableEq, Repr

/-- One item of a list. -/
structure FieldItem where
  base : FieldBase
  step : Option Nat := none
  deriving DecidableEq, Repr

/-- The numbers that a field admits. -/
inductive FieldSet where
  | all
  /-- The numbers of a list. -/
  | only (values : List Nat)
  deriving DecidableEq, Repr, Inhabited

namespace FieldSet

/-- Whether a number of the unit is admitted. -/
def has : FieldSet → Nat → Bool
  | all, _ => true
  | only vs, n => vs.contains n

/-- The numbers of a unit that are admitted, in order. -/
def values (s : FieldSet) (u : CalendarUnit) : List Nat := u.all.filter s.has

/-- The numbers from `a` to `b`, if that is a range within the unit. -/
def between? (u : CalendarUnit) (a b : Nat) : Option (List Nat) :=
  if u.least ≤ a ∧ a ≤ b ∧ b ≤ u.most then some (u.all.filter fun n => a ≤ n && n ≤ b) else none

/-- Every `step`-th member of a list, from the first on. -/
def everyNth (step : Nat) : Nat → List Nat → List Nat
  | _, [] => []
  | 0, n :: rest => n :: everyNth step (step - 1) rest
  | k + 1, _ :: rest => everyNth step k rest

/-- The numbers that an item admits; a single number with a step begins a range. -/
def ofItem? (u : CalendarUnit) (i : FieldItem) : Option (List Nat) := do
  let base ←
    match i.base, i.step with
    | .all, _ => some u.all
    | .point n, none => between? u n n
    | .point n, some _ => between? u n u.most
    | .range a b, _ => between? u a b
    | .name s, none => do
      let n ← u.named? s
      between? u n n
    | .name _, some _ => none
    | .nameRange a b, _ => do
      let m ← u.named? a
      let n ← u.named? b
      between? u m n
  match i.step with
  | none => return base
  | some s => if 1 ≤ s ∧ s ≤ u.most then return everyNth s 0 base else none

/-- The set that a list of items stands for. -/
def ofItems? (u : CalendarUnit) (items : List FieldItem) : Option FieldSet :=
  match items with
  | [⟨.all, none⟩] => some .all
  | items => do
    let parts ← items.mapM (ofItem? u)
    return .only (u.all.filter fun n => parts.any (·.contains n))

end FieldSet

end Switchboard
