import Switchboard.Error
import Switchboard.Log

/-!
# Notes

What the runtime tells the people who run it: each event that ends in a line of the log, with its
cause. `Note.line` words a note; how the causes themselves are worded may be chosen.
-/

namespace Switchboard

/-- An event that is logged. -/
inductive Note where
  | commandNotBuilt (cause : BuildError)
  | taskNotBuilt (cause : BuildError)
  /-- A template could not subscribe to its configuration file. -/
  | changesMissed (cause : WatchError)
  | rebuildFailed (cause : BuildError)
  /-- Nobody takes new tasks any more. -/
  | schedulerGone
  | callbackPanicked
  /-- The operating system's watch reported a failure. -/
  | watchFailed (reason : String)
  /-- A directory could not be released at the end. -/
  | directoryNotReleased (reason : String)
  /-- A bot type has templates and no bot. -/
  | botMissing (bot : BotType)
  | botFailed (error : BotError)
  | alerterFailed (cause : Chain)
  | runLoopFailed
  | commandFailed (cause : Chain)
  | taskFailed (cause : Chain)
  | respondFailed (cause : Chain)
  | sendFailed (cause : Chain)
  | destinationMissing
  /-- A task fired whose bot type has no bot. -/
  | taskWithoutBot
  | jobPanicked (message : String)
  deriving DecidableEq, Repr, Inhabited

/-- How causes are worded. -/
structure Wording where
  build : BuildError → String := BuildError.message
  watch : WatchError → String := WatchError.message

namespace Note

/-- The line of a note. -/
def line (w : Wording := {}) : Note → LogLine
  | commandNotBuilt e => .warning ("command not built: " ++ w.build e)
  | taskNotBuilt e => .warning ("task not built: " ++ w.build e)
  | changesMissed e => .warning ("config changes will not be picked up: " ++ w.watch e)
  | rebuildFailed e => .warning ("rebuild failed, keeping previous instance: " ++ w.build e)
  | schedulerGone => .warning "task scheduler is gone, task will not run"
  | callbackPanicked => .failure "config change callback panicked"
  | watchFailed reason => .warning s!"file watch error: {reason}"
  | directoryNotReleased reason => .warning s!"failed to remove watch: {reason}"
  | botMissing _ => .warning "commands or tasks registered for a bot type with no bot"
  | botFailed e =>
    if e.critical then .failure s!"critical bot error: {e.message}"
    else .warning s!"bot error: {e.message}"
  | alerterFailed c => .warning ("alerter failed: " ++ Chain.text c)
  | runLoopFailed => .failure "bot run loop failed"
  | commandFailed c => .failure ("command failed: " ++ Chain.text c)
  | taskFailed c => .failure ("task failed: " ++ Chain.text c)
  | respondFailed c => .warning ("respond failed: " ++ Chain.text c)
  | sendFailed c => .warning ("failed to send message: " ++ Chain.text c)
  | destinationMissing => .warning "task result has no destination, dropping it"
  | taskWithoutBot => .warning "no bot registered for task"
  | jobPanicked m => .failure s!"recovered from panicking job: {m}"

end Note

end Switchboard
