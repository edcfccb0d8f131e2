import Switchboard.Command.Template
import Switchboard.Schedule
import Switchboard.Settings.Record

/-!
# Tasks and their templates

A task is executed by a timer. The settings of a configurable task may supply its schedule and its
default destination; they win over those of the template. A schedule that the template supplies is
read when the template is made, so a build fails only by its configuration file.
-/

namespace Switchboard

/-- A task that a timer may drive. -/
structure ScheduledTask where
  botType : BotType
  identifier : String
  schedule : Schedule
  /-- Where results go that name no destination. -/
  destination : Option Destination := none
  run : TaskExecutor

namespace ScheduledTask

/-- Where a result goes. -/
def destinationOf (t : ScheduledTask) (r : TaskResult) : Option Destination :=
  r.destination.or t.destination

/-- The outputs of results, in order; those without a destination are left out. -/
def outputs (t : ScheduledTask) (results : List TaskResult) : List Output :=
  results.filterMap fun r => (t.destinationOf r).map fun d => ⟨d, r.content⟩

/-- How many results have nowhere to go. -/
def dropped (t : ScheduledTask) (results : List TaskResult) : Nat :=
  results.countP fun r => (t.destinationOf r).isNone

/-- The text of a task for people who read logs. -/
def describe (t : ScheduledTask) : String :=
  let destination := t.destination.map fun d => s!"Destination({Text.quoted d.name})"
  "ScheduledTask \x7b bot_type: " ++ t.botType.describe ++ ", identifier: " ++
    Text.quoted t.identifier ++ ", schedule: " ++ t.schedule.describe ++
    ", default_destination: " ++ Text.optionText destination ++ ", .. \x7d"

end ScheduledTask

/-- What settings bind: the executor, and a schedule and a destination if they supply one. -/
structure BoundTask where
  run : TaskExecutor
  schedule : Option String := none
  destination : Option Destination := none

/-- Settings that may supply a schedule and a destination. -/
class TaskConfiguration (α : Type) extends Settings α where
  schedule : α → Option String := fun _ => none
  destination : α → Option Destination := fun _ => none

instance : TaskConfiguration TaskSettings where
  schedule := TaskSettings.schedule
  destination s := s.destination.map Destination.mk

instance : TaskConfiguration NoteSettings where

/-- A registered task. -/
structure TaskTemplate where
  botType : BotType
  identifier : String
  schedule : Option String := none
  destination : Option Destination := none
  executor : Binding BoundTask

/-- The parts of a template that have been given so far. -/
structure TaskDraft where
  botType : Option BotType := none
  identifier : Option String := none
  schedule : Option String := none
  destination : Option Destination := none
  executor : Option (Binding BoundTask) := none

namespace TaskTemplate

/-- An executor without settings. -/
def fixed (run : TaskExecutor) : Binding BoundTask := .fixed { run }

/-- An executor with settings. -/
def configured {α : Type} [TaskConfiguration α] (defaults : α) (run : α → TaskExecutor) :
    Binding BoundTask :=
  .ofSettings defaults fun s =>
    { run := run s, schedule := TaskConfiguration.schedule s
      destination := TaskConfiguration.destination s }

def isConfigurable (t : TaskTemplate) : Bool := t.executor.isConfigurable

/-- The schedule of a build: the one that settings supply, else the template's. -/
def scheduleOf (t : TaskTemplate) (supplied : Option String) : Except BuildError Schedule :=
  match supplied, t.schedule with
  | some e, _ =>
    match Schedule.parse e with
    | .error (.invalidSchedule expression reason) => .error (.configuredSchedule expression reason)
    | r => r
  | none, some e => Schedule.parse e
  | none, none => .error (.missing "schedule")

/-- A task bound to the configuration file as it is. -/
def build (t : TaskTemplate) (source : Source) (files : FileTree) :
    Except BuildError ScheduledTask := do
  let bound ← t.executor.resolve source files t.botType t.identifier
  let schedule ← t.scheduleOf bound.schedule
  return {
    botType := t.botType
    identifier := t.identifier
    schedule
    destination := bound.destination.or t.destination
    run := bound.run }

/-- The text of a template for people who read logs. -/
def describe (t : TaskTemplate) : String :=
  "TaskProps \x7b bot_type: " ++ t.botType.describe ++ ", identifier: " ++
    Text.quoted t.identifier ++ ", schedule: " ++
    Text.optionText (t.schedule.map Text.quoted) ++ ", configurable: " ++
    toString t.isConfigurable ++ ", .. \x7d"

end TaskTemplate

/-- The template of a draft. Its schedule, if there is one, must be valid; only settings can
supply a missing one. -/
def TaskDraft.finish (d : TaskDraft) : Except BuildError TaskTemplate := do
  let botType ← required "bot_type" d.botType
  let identifier ← required "identifier" (d.identifier.filter fun i => !i.isEmpty)
  let executor ← required "func" d.executor
  match d.schedule with
  | some e => discard (Schedule.parse e)
  | none => if executor.isConfigurable then pure () else throw (.missing "schedule")
  return { botType, identifier, schedule := d.schedule, destination := d.destination, executor }

end Switchboard
