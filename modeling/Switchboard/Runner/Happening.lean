import Switchboard.Note
import Switchboard.Task.Timers

/-!
# Happenings

What happens in a runner, as far as anybody outside can tell: inputs are accepted, commands, steps
and tasks are executed, outputs are sent, people are alerted. The trace of a runner lists its
happenings in order.
-/

namespace Switchboard

/-- Something that happened. -/
inductive Happening (κ : Type) where
  | accepted (bot : BotType) (input : Input)
  /-- A pending step is executed for an input. -/
  | resumed (bot : BotType) (input : Input) (step : Step κ)
  /-- A command is executed for an input. -/
  | executed (bot : BotType) (identifier : String) (input : Input)
  /-- Nothing took the input, so the bot responded. -/
  | responded (bot : BotType) (input : Input) (outcome : Outcome Unit)
  /-- The execution of a command or a step failed. -/
  | failed (bot : BotType) (label : String) (input : Input) (cause : Chain)
  /-- A step was stored for a sender's next input. -/
  | stored (sender : String) (step : Step κ)
  /-- A job panicked. -/
  | panicked (sender : Option String) (message : String)
  | sent (bot : BotType) (sender : Option String) (output : Output) (outcome : Outcome Unit)
  /-- A timer fired. -/
  | fired (task : TaskKey)
  /-- A task is executed. -/
  | performed (task : TaskKey)
  | taskFailed (task : TaskKey) (cause : Chain)
  | alerted (alerter : String) (bot : BotType) (error : BotError) (failure : Option Chain)
  /-- Anything else that is logged. -/
  | noted (note : Note)

namespace Happening

variable {κ : Type}

/-- What is logged of a happening. A panic is logged when its job is given up. -/
def note? : Happening κ → Option Note
  | responded _ _ (.failed c) => some (.respondFailed c)
  | failed _ _ _ c => some (.commandFailed c)
  | panicked _ m => some (.jobPanicked m)
  | sent _ _ _ (.failed c) => some (.sendFailed c)
  | taskFailed _ c => some (.taskFailed c)
  | alerted _ _ _ (some c) => some (.alerterFailed c)
  | noted n => some n
  | _ => none

/-- The output that was sent, and the bot type. -/
def output? : Happening κ → Option (BotType × Output)
  | sent b _ o (.done _) => some (b, o)
  | _ => none

/-- The input to which a bot responded, and the bot type. -/
def unmatched? : Happening κ → Option (BotType × Input)
  | responded b i (.done _) => some (b, i)
  | _ => none

end Happening

end Switchboard
