import Switchboard.Bundled.Guess
import Switchboard.Script

/-!
# Routines

The language of conversation steps in use: scripts with their settings, and open guessing games.
-/

namespace Switchboard

/-- The code of a conversation step. -/
inductive Routine where
  | script (body : Script) (settings : Json)
  | guess (game : Guess)
  deriving Repr, Inhabited

namespace Routine

/-- The executor of a script with settings. -/
def ofScript (settings : Json) (body : Script) : Executor Routine :=
  body.run (Routine.script · settings) settings

/-- Runs a step. -/
def run : Language Routine
  | script body settings => ofScript settings body
  | guess game => fun c =>
    let (reply, open_) := game.turn c.input.message
    .done { content := some (.text reply), next := open_.map fun g => ⟨some Guess.ttl, guess g⟩ }

end Routine

end Switchboard
