import Switchboard.Execution

/-!
# Bots

A bot connects the runner to a platform. Its run loop hands over inputs and raises errors until it
is stopped; it takes outputs, and it responds to inputs that nothing else takes. What a run loop is
going to do is given in advance, and may be added to while it runs.
-/

namespace Switchboard

/-- What a run loop does when it has nothing left to hand over. -/
inductive RunEnding where
  /-- It waits for more until it is stopped. -/
  | stays
  | returns
  | panics
  deriving DecidableEq, Repr, Inhabited

/-- What is left of a run loop. Errors are raised before inputs are handed over. -/
structure RunLoop where
  errors : List BotError := []
  inputs : List Input := []
  /-- The input that is being handed over. -/
  inHand : Option Input := none
  ending : RunEnding := .stays
  deriving Repr, Inhabited

/-- A bot. -/
structure Bot where
  botType : BotType
  loop : RunLoop := {}
  /-- Whether the run loop takes more than it was given at first. -/
  listens : Bool := true
  send : Output → Outcome Unit := fun _ => .done ()
  respond : Input → Outcome Unit := fun _ => .done ()
  /-- Whether the bot shows the inputs that it responds to. -/
  showsUnmatched : Bool := true

instance : Inhabited Bot := ⟨{ botType := default }⟩

/-- Somebody to call when a bot breaks down. -/
structure Alerter where
  name : String
  alert : BotType → BotError → Option Chain := fun _ _ => none

instance : Inhabited Alerter := ⟨{ name := "" }⟩

/-- Why nothing can be sent through a bot whose other side is gone. -/
def Bot.disconnected : Chain := ["channel closed"]

end Switchboard
