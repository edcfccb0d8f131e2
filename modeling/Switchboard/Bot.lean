import Switchboard.Table
import Switchboard.Text.Lowercase

/-!
# Bot types

A bot type names one adapter or platform. Commands, tasks, subscriptions and the directory of
configuration files are kept apart by it.
-/

namespace Switchboard

/-- The name of an adapter or platform. -/
structure BotType where
  name : String
  deriving DecidableEq, Repr, Inhabited

namespace BotType

/-- The name of the directory that holds the bot type's configuration files. -/
def directory (b : BotType) : String := Text.lowercase b.name

instance : ToString BotType := ⟨BotType.name⟩

/-- Bot types in the order of their names, each once. -/
def sortedOnce (bots : List BotType) : List BotType :=
  (Table.keysOf (bots.map BotType.name)).map BotType.mk

end BotType

end Switchboard
