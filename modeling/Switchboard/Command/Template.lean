import Switchboard.Command.Matcher
import Switchboard.Execution
import Switchboard.Settings.Source
import Switchboard.Text.Duration

/-!
# Commands and their templates

A template is what is registered; a build makes a command of it, bound to the configuration file as
it is at that moment. A draft collects the parts of a template in any order; bot type, identifier,
matcher and executor must be given, and the identifier must have a character.
-/

namespace Switchboard

/-- A live command. -/
structure Command (κ : Type) where
  identifier : String
  /-- How to use it; empty hides the command from the help listing. -/
  instruction : String := ""
  matcher : Matcher
  run : Executor κ

/-- A registered command. -/
structure CommandTemplate (κ : Type) where
  botType : BotType
  identifier : String
  instruction : String := ""
  matcher : Matcher
  executor : Binding (Executor κ)

/-- The parts of a template that have been given so far. -/
structure CommandDraft (κ : Type) where
  botType : Option BotType := none
  identifier : Option String := none
  instruction : String := ""
  matcher : Option Matcher := none
  executor : Option (Binding (Executor κ)) := none

/-- The text of a bot type in a record. -/
def BotType.describe (b : BotType) : String := s!"BotType({Text.quoted b.name})"

namespace CommandTemplate

variable {κ : Type}

/-- Whether the command has a configuration file and is rebuilt when that changes. -/
def isConfigurable (t : CommandTemplate κ) : Bool := t.executor.isConfigurable

/-- A command bound to the configuration file as it is. -/
def build (t : CommandTemplate κ) (source : Source) (files : FileTree) :
    Except BuildError (Command κ) :=
  (t.executor.resolve source files t.botType t.identifier).map fun run =>
    { identifier := t.identifier, instruction := t.instruction, matcher := t.matcher, run }

/-- The text of a template for people who read logs. -/
def describe (t : CommandTemplate κ) : String :=
  "CommandProps \x7b bot_type: " ++ t.botType.describe ++ ", identifier: " ++
    Text.quoted t.identifier ++ ", matcher: " ++ t.matcher.describe ++ ", configurable: " ++
    toString t.isConfigurable ++ ", .. \x7d"

end CommandTemplate

/-- A mandatory part of a draft. -/
def required {α : Type} (argument : String) : Option α → Except BuildError α
  | some a => .ok a
  | none => .error (.missing argument)

/-- The template of a draft. -/
def CommandDraft.finish {κ : Type} (d : CommandDraft κ) :
    Except BuildError (CommandTemplate κ) := do
  let botType ← required "bot_type" d.botType
  let identifier ← required "identifier" (d.identifier.filter fun i => !i.isEmpty)
  let matcher ← required "matcher" d.matcher
  let executor ← required "func" d.executor
  return { botType, identifier, instruction := d.instruction, matcher, executor }

namespace Step

variable {κ : Type}

/-- The text of a step for people who read logs. -/
def describe (s : Step κ) : String :=
  "UserContext \x7b ttl: " ++ Text.optionText (s.ttl.map Text.durationText) ++ ", .. \x7d"

end Step

end Switchboard
