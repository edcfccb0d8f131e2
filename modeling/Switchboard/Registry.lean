import Switchboard.Command.LiveSet
import Switchboard.Task.Timers

/-!
# The registry

Commands and tasks are registered as templates, of which no two of one bot type share an identifier.
From the templates live commands and live tasks are made. The live commands of a bot type stand in
the order of their registration: a command that is made anew takes the place of its predecessor, and
one that could not be made at first comes between its neighbours.
-/

namespace Switchboard

/-- A template by its place in the registry. -/
inductive TemplateRef where
  | command (index : Nat)
  | task (index : Nat)
  deriving DecidableEq, Repr, Inhabited

/-- Templates, and what is live of them. -/
structure Registry (κ : Type) where
  commands : List (CommandTemplate κ) := []
  tasks : List TaskTemplate := []
  /-- The live commands, by the name of their bot type. -/
  live : Table (List (Command κ)) := []
  liveTasks : List ScheduledTask := []
  /-- How many executions of each task have begun. -/
  executions : List (TaskKey × Nat) := []

instance {κ : Type} : Inhabited (Registry κ) := ⟨{}⟩

namespace Registry

variable {κ : Type}

/-- Registers a command. -/
def addCommand (r : Registry κ) (t : CommandTemplate κ) : Except BuildError (Registry κ) :=
  if r.commands.any fun u => u.botType == t.botType && u.identifier == t.identifier then
    .error (.duplicate "command" t.botType t.identifier)
  else .ok { r with commands := r.commands ++ [t] }

/-- Registers a task. -/
def addTask (r : Registry κ) (t : TaskTemplate) : Except BuildError (Registry κ) :=
  if r.tasks.any fun u => u.botType == t.botType && u.identifier == t.identifier then
    .error (.duplicate "task" t.botType t.identifier)
  else .ok { r with tasks := r.tasks ++ [t] }

/-- The bot types that have a template, in order. -/
def botTypes (r : Registry κ) : List BotType :=
  BotType.sortedOnce (r.commands.map CommandTemplate.botType ++ r.tasks.map TaskTemplate.botType)

/-- The templates, in the order in which they are built: all commands, then all tasks. -/
def templates (r : Registry κ) : List TemplateRef :=
  (List.range r.commands.length).map .command ++ (List.range r.tasks.length).map .task

/-- The live commands of a bot type. -/
def commandsOf (r : Registry κ) (bot : BotType) : LiveSet κ :=
  ⟨bot, (Table.find? bot.name r.live).getD []⟩

/-- The identifiers that are registered as commands of a bot type, in order. -/
def registered (r : Registry κ) (bot : BotType) : List String :=
  (r.commands.filter fun t => t.botType = bot).map CommandTemplate.identifier

/-- The live commands after one has been made anew, in the order of `registered`. -/
def arrange (registered : List String) (current : List (Command κ)) (c : Command κ) :
    List (Command κ) :=
  registered.filterMap fun i =>
    if i = c.identifier then some c else current.find? fun d => d.identifier == i

/-- Makes a command of a bot type live. -/
def place (r : Registry κ) (bot : BotType) (c : Command κ) : Registry κ :=
  let commands := arrange (r.registered bot) (r.commandsOf bot).commands c
  { r with live := Table.insert bot.name commands r.live }

/-- The live task of a key. -/
def task? (r : Registry κ) (key : TaskKey) : Option ScheduledTask :=
  r.liveTasks.find? fun t => t.key = key

/-- Makes a task live. -/
def install (r : Registry κ) (t : ScheduledTask) : Registry κ :=
  { r with liveTasks := r.liveTasks.filter (fun u => u.key ≠ t.key) ++ [t] }

/-- How many executions of a task have begun. -/
def executionsOf (r : Registry κ) (key : TaskKey) : Nat := (r.executions.lookup key).getD 0

/-- An execution of a task begins. -/
def countExecution (r : Registry κ) (key : TaskKey) : Registry κ :=
  { r with
    executions := (key, r.executionsOf key + 1) :: r.executions.filter fun e => e.1 ≠ key }

theorem commandsOf_place_self (r : Registry κ) (bot : BotType) (c : Command κ) :
    (r.place bot c).commandsOf bot =
      ⟨bot, arrange (r.registered bot) (r.commandsOf bot).commands c⟩ := by
  simp [commandsOf, place, Table.find?_insert]

/-- A command of one bot type does not touch those of another. -/
theorem commandsOf_place_of_ne (r : Registry κ) {bot other : BotType} (h : other ≠ bot)
    (c : Command κ) : (r.place bot c).commandsOf other = r.commandsOf other := by
  have : other.name ≠ bot.name := fun hn => h (by cases other; cases bot; simp_all)
  simp [commandsOf, place, Table.find?_insert, this]

end Registry

end Switchboard
