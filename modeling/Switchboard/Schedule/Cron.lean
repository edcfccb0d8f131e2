import Switchboard.Calendar
import Switchboard.Schedule.Field

/-!
# Calendar rules

A calendar rule has a field for seconds, minutes, hours, days of the month, months and days of the
week, and may have one for years. A point in time fits the rule if all fields admit it. `Cron.next?`
gives the first fitting second from a given second on.
-/

namespace Switchboard

/-- A calendar rule. -/
structure Cron where
  /-- The rule as it was written. -/
  source : String
  seconds : FieldSet
  minutes : FieldSet
  hours : FieldSet
  daysOfMonth : FieldSet
  months : FieldSet
  daysOfWeek : FieldSet
  years : FieldSet
  deriving DecidableEq, Repr, Inhabited

namespace Cron

namespace Parser

/-- Characters that may surround fields, numbers and names. -/
def isSpace (c : Char) : Bool := c == ' ' || c == '\t' || c == '\r' || c == '\n'

def skipSpace (cs : List Char) : List Char := cs.dropWhile isSpace

/-- The largest number that may be written. -/
def numberMax : Nat := 0xFFFFFFFF

/-- A number with the spaces around it. -/
def number? (cs : List Char) : Option (Nat × List Char) :=
  let cs := skipSpace cs
  let ds := cs.takeWhile Char.isDigit
  let n := ds.foldl (fun a c => a * 10 + (c.toNat - 48)) 0
  if ds.isEmpty ∨ numberMax < n then none else some (n, skipSpace (cs.dropWhile Char.isDigit))

/-- A name with the spaces around it. -/
def name? (cs : List Char) : Option (String × List Char) :=
  let cs := skipSpace cs
  let ls := cs.takeWhile Char.isAlpha
  if ls.isEmpty then none else some (String.ofList ls, skipSpace (cs.dropWhile Char.isAlpha))

/-- What may stand before a step. -/
def base? (question : Bool) (cs : List Char) : Option (FieldBase × List Char) :=
  match cs with
  | '*' :: rest => some (.all, rest)
  | '?' :: rest => if question then some (.all, rest) else none
  | cs =>
    match number? cs with
    | some (a, '-' :: rest) =>
      match number? rest with
      | some (b, rest) => some (.range a b, rest)
      | none => some (.point a, '-' :: rest)
    | some (a, rest) => some (.point a, rest)
    | none =>
      match name? cs with
      | some (a, '-' :: rest) => (name? rest).map fun (b, rest) => (.nameRange a b, rest)
      | _ => none

/-- One item of a list. -/
def item? (question : Bool) (cs : List Char) : Option (FieldItem × List Char) :=
  match base? question cs with
  | some (b, '/' :: rest) =>
    match number? rest with
    | some (s, rest) => some (⟨b, some s⟩, rest)
    | none => some (⟨b, none⟩, '/' :: rest)
  | some (b, rest) => some (⟨b, none⟩, rest)
  | none => (name? cs).map fun (s, rest) => (⟨.name s, none⟩, rest)

/-- The items after the first, each behind a comma. -/
def moreItems (question : Bool) (fuel : Nat) (cs : List Char) : List FieldItem × List Char :=
  match fuel, cs with
  | fuel + 1, ',' :: rest =>
    match item? question rest with
    | some (i, rest) =>
      let (is, rest) := moreItems question fuel rest
      (i :: is, rest)
    | none => ([], ',' :: rest)
  | _, cs => ([], cs)

/-- A field of a unit with the spaces around it. -/
def field? (u : CalendarUnit) (cs : List Char) : Option (FieldSet × List Char) := do
  let (first, rest) ← item? u.question (skipSpace cs)
  let (more, rest) := moreItems u.question rest.length rest
  let set ← FieldSet.ofItems? u (first :: more)
  return (set, skipSpace rest)

end Parser

open Switchboard.Cron.Parser in
/-- The rule that a text writes: six fields, or seven with the years, and nothing after them. -/
def parse? (source : String) : Option Cron := do
  let (seconds, cs) ← field? .second source.toList
  let (minutes, cs) ← field? .minute cs
  let (hours, cs) ← field? .hour cs
  let (daysOfMonth, cs) ← field? .dayOfMonth cs
  let (months, cs) ← field? .month cs
  let (daysOfWeek, cs) ← field? .dayOfWeek cs
  let (years, cs) := (field? .year cs).getD (.all, cs)
  if cs.isEmpty then
    return { source, seconds, minutes, hours, daysOfMonth, months, daysOfWeek, years }
  else none

/-- Whether the fields admit a date. -/
def fitsDate (c : Cron) (d : Date) : Bool :=
  (c.years.values .year).contains d.year.toNat && c.months.has d.month && c.daysOfMonth.has d.day &&
    c.daysOfWeek.has d.weekday

/-- The first fitting second of a day from second `s` on. -/
def firstSecond? (c : Cron) (s : Nat) : Option Nat :=
  (c.hours.values .hour).findSome? fun h =>
    if h < s / 3600 then none
    else
      (c.minutes.values .minute).findSome? fun m =>
        if h * 60 + m < s / 60 then none
        else
          ((c.seconds.values .second).find? fun n => s ≤ h * 3600 + m * 60 + n).map
            fun n => h * 3600 + m * 60 + n

/-- The first fitting date from `d` on. -/
def firstDate? (c : Cron) (d : Date) : Option Date :=
  (c.years.values .year).findSome? fun (y : Nat) =>
    if (y : Int) < d.year then none
    else
      (c.months.values .month).findSome? fun m =>
        if (y : Int) = d.year ∧ m < d.month then none
        else
          ((c.daysOfMonth.values .dayOfMonth).find? fun n =>
            n ≤ Date.daysInMonth y m && !((y : Int) = d.year && m = d.month && n < d.day) &&
              c.daysOfWeek.has (Date.weekday ⟨y, m, n⟩)).map
            fun n => ⟨y, m, n⟩

/-- The first fitting second from `t` on. There is none before the year zero. -/
def firstFrom? (c : Cron) (t : Timestamp) : Option Timestamp :=
  let d := t.date
  let s := (t.seconds % 86400).toNat
  if d.year < 0 then none
  else
    match (if c.fitsDate d then c.firstSecond? s else none) with
    | some n => some (Timestamp.ofDate d n)
    | none => do
      let next ← c.firstDate? (Date.ofDays (d.toDays + 1))
      let n ← c.firstSecond? 0
      return Timestamp.ofDate next n

end Cron

end Switchboard
