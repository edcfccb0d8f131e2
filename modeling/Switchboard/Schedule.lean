import Switchboard.Error
import Switchboard.Schedule.Interval
import Switchboard.Schedule.Cron
import Switchboard.Text.Blank
import Switchboard.Text.Duration
import Switchboard.Text.Quoted

/-!
# Schedules

A task fires at a fixed interval, written `@every` and the interval, or by a calendar rule. Some
rules have short names. `Schedule.nextAfter` gives the firing that follows a point in time.
-/

namespace Switchboard

/-- When a task fires. -/
inductive Schedule where
  /-- At an interval of so many milliseconds. -/
  | every (ms : Nat)
  | cron (rule : Cron)
  deriving DecidableEq, Repr, Inhabited

namespace Schedule

/-- The word in front of an interval. -/
def everyWord : List Char := "@every".toList

/-- The rules that have a short name. -/
def aliases : List (String × String) :=
  [("@hourly", "0 0 * * * *"), ("@daily", "0 0 0 * * *"), ("@midnight", "0 0 0 * * *"),
    ("@weekly", "0 0 0 * * Sun"), ("@monthly", "0 0 0 1 * *"), ("@yearly", "0 0 0 1 1 *"),
    ("@annually", "0 0 0 1 1 *")]

/-- Reads a schedule. -/
def parse (text : String) : Except BuildError Schedule :=
  let text := Text.trimmed text
  match Text.stripPrefix? everyWord text.toList with
  | some rest =>
    match Interval.parse (Text.trim rest) with
    | .ok ms => .ok (.every ms)
    | .error e => .error (.invalidSchedule text e.message)
  | none =>
    match Cron.parse? ((aliases.lookup text).getD text) with
    | some rule => .ok (.cron rule)
    | none => .error (.invalidSchedule text "not a calendar rule")

/-- The next firing. -/
inductive Firing where
  | next (t : Timestamp)
  /-- The schedule never fires again. -/
  | never
  /-- The firing lies beyond the end of the calendar. -/
  | overflow
  deriving DecidableEq, Repr, Inhabited

/-- The words for a firing beyond the end of the calendar. -/
def overflowMessage : String := "`DateTime + TimeDelta` overflowed"

/-- The firing that follows `now`. A calendar rule is tried from the next whole second on. -/
def nextAfter (s : Schedule) (now : Timestamp) : Firing :=
  match s with
  | every ms =>
    match now.addMillis? ms with
    | some t => .next t
    | none => .overflow
  | cron rule =>
    match now.addMillis? 1000 with
    | none => .overflow
    | some t =>
      match rule.firstFrom? ⟨t.seconds, 0⟩ with
      | some t => .next t
      | none => .never

/-- Up to `count` successive firings after `now`; a schedule that never fires again ends them with
nothing. Fails if the calendar ends first. -/
def firingsAfter (s : Schedule) (now : Timestamp) : Nat → Except String (List (Option Timestamp))
  | 0 => .ok []
  | count + 1 =>
    match s.nextAfter now with
    | .next t => (s.firingsAfter t count).map (some t :: ·)
    | .never => .ok [none]
    | .overflow => .error overflowMessage

/-- The text of a field: its name, and its numbers unless it admits all. -/
def fieldText (name : String) (s : FieldSet) : String :=
  let numbers :=
    match s with
    | .all => "None"
    | .only vs => "Some(\x7b" ++ ", ".intercalate (vs.map toString) ++ "\x7d)"
  name ++ " \x7b ordinals: " ++ numbers ++ " \x7d"

/-- The text of a schedule for people who read logs. -/
def describe : Schedule → String
  | every ms => s!"Every({Text.durationText ms})"
  | cron c =>
    "Cron(Schedule \x7b source: " ++ Text.quoted c.source ++
      ", fields: ScheduleFields \x7b years: " ++ fieldText "Years" c.years ++
      ", days_of_week: " ++ fieldText "DaysOfWeek" c.daysOfWeek ++
      ", months: " ++ fieldText "Months" c.months ++
      ", days_of_month: " ++ fieldText "DaysOfMonth" c.daysOfMonth ++
      ", hours: " ++ fieldText "Hours" c.hours ++
      ", minutes: " ++ fieldText "Minutes" c.minutes ++
      ", seconds: " ++ fieldText "Seconds" c.seconds ++ " \x7d \x7d)"

end Schedule

end Switchboard
