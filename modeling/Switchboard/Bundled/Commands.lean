import Switchboard.Bundled.Routine
import Switchboard.Bundled.Settings
import Switchboard.Registry

/-!
# Bundled commands

Three commands and a task that can be registered for any bot type: an echo, a greeting with
settings, a guessing game, and a heartbeat with settings.
-/

namespace Switchboard.Bundled

/-- Gives the text back. -/
def echo (bot : BotType) : CommandTemplate Routine where
  botType := bot
  identifier := "echo"
  instruction := "Input .echo <text> to get the same text back"
  matcher := .word ".echo"
  executor := .fixed fun c =>
    let text := (c.input.afterWord? ".echo").getD ""
    .done (if text.isEmpty then {} else .say text)

/-- The words of a greeting. -/
def greeting (s : GreetSettings) (name : String) : String :=
  s.greeting ++ ", " ++ name ++ "!" ++
    match s.signature with
    | some signature => "\n-- " ++ signature
    | none => ""

/-- Greets somebody by name. -/
def greet (bot : BotType) : CommandTemplate Routine where
  botType := bot
  identifier := "greet"
  instruction := "Input .greet <name> to be greeted"
  matcher := .word ".greet"
  executor := .ofSettings ({} : GreetSettings) fun s c =>
    let name := (c.input.afterWord? ".greet").getD ""
    .done (.say (greeting s (if name.isEmpty then "stranger" else name)))

/-- Opens a guessing game. -/
def guess (bot : BotType) : CommandTemplate Routine where
  botType := bot
  identifier := "guess"
  instruction := "Input .guess to play a number guessing game, .abort to give up"
  matcher := .word ".guess"
  executor := .fixed fun c =>
    .done
      { content := some (.text Guess.opening)
        next := some ⟨some Guess.ttl, .guess (Guess.start c.clock.nanos)⟩ }

instance : TaskConfiguration HeartbeatSettings where
  schedule := HeartbeatSettings.schedule
  destination s := s.destination.map Destination.mk

/-- Two decimal digits. -/
def twoDigits (n : Nat) : String := String.ofList ((Nat.toDigits 10 (100 + n % 100)).drop 1)

/-- The words of a heartbeat. -/
def beat (count : Nat) (clock : Timestamp) : String :=
  let (h, m, s) := clock.timeOfDay
  s!"heartbeat #{count} at {twoDigits h}:{twoDigits m}:{twoDigits s}"

/-- Counts and tells the time of day. -/
def heartbeat (bot : BotType) : TaskTemplate where
  botType := bot
  identifier := "heartbeat"
  executor := TaskTemplate.configured ({} : HeartbeatSettings) fun _ c =>
    .done [{ content := .text (beat c.count c.clock) }]

/-- The bundled commands of a bot type, in the order of their registration. -/
def commands (bot : BotType) : List (CommandTemplate Routine) := [echo bot, greet bot, guess bot]

/-- Registers the commands of a list until one is refused. -/
def registerCommands (r : Registry Routine) :
    List (CommandTemplate Routine) → Option BuildError × Registry Routine
  | [] => (none, r)
  | t :: rest =>
    match r.addCommand t with
    | .ok next => registerCommands next rest
    | .error e => (some e, r)

/-- Registers the bundled commands and the heartbeat, until one is refused. -/
def register (r : Registry Routine) (bot : BotType) : Option BuildError × Registry Routine :=
  match registerCommands r (commands bot) with
  | (some e, r) => (some e, r)
  | (none, r) =>
    match r.addTask (heartbeat bot) with
    | .ok next => (none, next)
    | .error e => (some e, r)

end Switchboard.Bundled
