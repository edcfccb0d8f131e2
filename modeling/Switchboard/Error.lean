import Switchboard.Bot

/-!
# Errors

Each part of the runtime has its causes of failure, with one `message` each. A build error is fatal
if the template itself is at fault; a configuration file at fault is not.
-/

namespace Switchboard

/-- Failures of reading and watching configuration files. -/
inductive WatchError where
  /-- There is no file; the defaults hold. -/
  | notFound (bot : BotType) (identifier : String)
  | alreadySubscribing (bot : BotType) (identifier : String)
  /-- The watch loop has stopped. -/
  | notRunning
  | io (path reason : String)
  | decode (path reason : String)
  /-- The operating system's watch failed. -/
  | notify (reason : String)
  deriving DecidableEq, Repr, Inhabited

namespace WatchError

def message : WatchError → String
  | .notFound bot identifier => s!"no configuration file for {bot}/{identifier}"
  | .alreadySubscribing bot identifier => s!"already subscribing to {bot}/{identifier}"
  | .notRunning => "config watcher is not running"
  | .io path reason => s!"IO error on '{path}': {reason}"
  | .decode path reason => s!"failed to decode '{path}': {reason}"
  | .notify reason => s!"file watch error: {reason}"

def isNotFound : WatchError → Bool
  | .notFound .. => true
  | _ => false

end WatchError

/-- Failures of making commands and tasks. -/
inductive BuildError where
  /-- A mandatory argument was not given. -/
  | missing (argument : String)
  | invalidSchedule (expression reason : String)
  /-- `kind` tells a command from a task. -/
  | duplicate (kind : String) (bot : BotType) (identifier : String)
  /-- The schedule that a configuration file supplies is not one. -/
  | configuredSchedule (expression reason : String)
  | config (cause : WatchError)
  deriving DecidableEq, Repr, Inhabited

namespace BuildError

/-- The text of the error; `watch` words the cause. -/
def messageBy (watch : WatchError → String) : BuildError → String
  | .missing argument => s!"insufficient build arguments: {argument} is required"
  | .invalidSchedule expression reason => s!"invalid schedule `{expression}`: {reason}"
  | .duplicate kind bot identifier => s!"{kind} '{identifier}' is already registered for {bot}"
  | .configuredSchedule expression reason =>
    s!"invalid schedule `{expression}` in configuration: {reason}"
  | .config cause => "configuration error: " ++ watch cause

def message (e : BuildError) : String := e.messageBy WatchError.message

/-- Whether the template is at fault, not a configuration file. -/
def isFatal : BuildError → Bool
  | .config _ => false
  | .configuredSchedule .. => false
  | _ => true

end BuildError

/-- A failure with the failures that caused it, outermost first. -/
abbrev Chain := List String

/-- The text of a chain of failures. -/
def Chain.text (c : Chain) : String := ": ".intercalate c

/-- What a bot reports from its run loop. A critical error stops the bot. -/
structure BotError where
  critical : Bool
  chain : Chain
  deriving DecidableEq, Repr, Inhabited

def BotError.message (e : BotError) : String :=
  (if e.critical then "critical: " else "") ++ Chain.text e.chain

/-- Refusal of a job. -/
inductive PoolError where
  | closed
  deriving DecidableEq, Repr, Inhabited

def PoolError.message : PoolError → String
  | .closed => "worker pool is closed"

/-- Failures of reading the runner's settings. -/
inductive SettingsError where
  | io (path reason : String)
  | parse (reason : String)
  deriving DecidableEq, Repr, Inhabited

def SettingsError.message : SettingsError → String
  | .io path reason => s!"failed to read config file '{path}': {reason}"
  | .parse reason => s!"failed to parse YAML: {reason}"

/-- Failures of building and running the runner. -/
inductive RunnerError where
  | noBots
  | duplicateBot (bot : BotType)
  | build (cause : BuildError)
  | watch (cause : WatchError)
  deriving DecidableEq, Repr, Inhabited

/-- The text of the error; `build` and `watch` word the cause. -/
def RunnerError.messageBy (build : BuildError → String) (watch : WatchError → String) :
    RunnerError → String
  | .noBots => "no bot is registered"
  | .duplicateBot bot => s!"bot type {bot} is registered more than once"
  | .build cause => "failed to build commands or tasks: " ++ build cause
  | .watch cause => "config watcher error: " ++ watch cause

def RunnerError.message (e : RunnerError) : String :=
  e.messageBy BuildError.message WatchError.message

end Switchboard
