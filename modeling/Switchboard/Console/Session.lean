import Switchboard.Bundled.Commands
import Switchboard.Console
import Switchboard.Runner.Start

/-!
# A session at the console

The bundled commands over a console: lines are heard, time passes, files are looked at, and what was
said meanwhile is written down.
-/

namespace Switchboard

/-- A runner with a console as its only bot. -/
structure ConsoleSession where
  console : Console
  runner : Runner Routine

namespace ConsoleSession

/-- The bot type of the console. -/
def botType : BotType := ⟨"console"⟩

/-- Logs the critical errors that it is told of. -/
def logAlerter : Alerter := { name := "log" }

/-- The registry of a session. -/
def registry : Registry Routine := (Bundled.register {} botType).2

/-- The files that the templates of a session may be configured by. -/
def candidates (base : FilePath) : List FilePath :=
  let identifiers :=
    (registry.commands.filter CommandTemplate.isConfigurable).map CommandTemplate.identifier ++
      (registry.tasks.filter TaskTemplate.isConfigurable).map TaskTemplate.identifier
  identifiers.flatMap (Source.candidates base botType)

/-- What a session is made of. -/
def plan (settings : RunnerSettings) (files : FileTree) (origin : Timestamp) :
    RunnerPlan Routine where
  language := Routine.run
  origin := origin
  settings := settings
  bots := [{ botType }]
  alerters := [logAlerter]
  registry := registry
  files := files

/-- Begins a session. -/
def start (settings : RunnerSettings) (files : FileTree) (origin : Timestamp) : ConsoleSession where
  console := { botType }
  runner := (plan settings files origin).start.settle

/-- Changes the lane of the console, and lets everything go on. -/
def change (s : ConsoleSession) (f : Lane Routine → Lane Routine) : ConsoleSession :=
  { s with runner := (s.runner.setLane 0 f).settle }

/-- Hears a line. One that is no text breaks the console. -/
def hear (s : ConsoleSession) (line : List UInt8) : ConsoleSession :=
  match Text.Utf8.decode line with
  | .error fault => s.change fun l => l.tellError ⟨true, [fault.message]⟩
  | .ok text =>
    match s.console.input? text with
    | none => s
    | some i => s.change fun l => l.tell i

/-- There are no more lines. -/
def close (s : ConsoleSession) : ConsoleSession :=
  s.change fun l => { l with loop.ending := .returns }

/-- Lets time pass. -/
def advance (s : ConsoleSession) (ms : Nat) : ConsoleSession :=
  { s with runner := s.runner.advance ms }

/-- Looks at the files: those of the session whose content is new are reported. -/
def look (s : ConsoleSession) (base : FilePath) (files : FileTree) : ConsoleSession :=
  let old := s.runner.workshop.files
  let changed := (candidates base).filter fun p =>
    files.isFile p && (files.read p).toOption != (old.read p).toOption
  let workshop := { s.runner.workshop with files }
  if changed.isEmpty then { s with runner := { s.runner with workshop } }
  else
    let workshop := workshop.report (.event ⟨.content, changed⟩)
    { s with runner := { s.runner with workshop }.settle }

/-- The line of the log for a happening. -/
def lineOf (h : Happening Routine) : Option LogLine :=
  match h with
  | .responded _ i (.done _) => some (.warning (Console.unmatchedNote i))
  | .alerted _ _ e _ => some (.failure s!"ALERT: bot stopped: {e.message}")
  | h => h.note?.map fun n => n.line

/-- What was written to the console and to the log since the last time. -/
def written (s : ConsoleSession) : List String × List LogLine :=
  (s.runner.outputs.map fun o => s.console.render o.2, s.runner.trace.filterMap lineOf)

/-- Forgets what was written. -/
def forget (s : ConsoleSession) : ConsoleSession :=
  { s with runner := { s.runner with trace := [] } }

end ConsoleSession

end Switchboard
