import Switchboard.Bot

/-!
# Status

The runner's phase and, for each bot type, whether its run loop is alive, in the order of names.
-/

namespace Switchboard

/-- The phases of a runner. -/
inductive Phase where
  /-- Built, not yet run. -/
  | idle
  | running
  | shuttingDown
  | stopped
  deriving DecidableEq, Repr, Inhabited

/-- A runner's health. -/
structure Status where
  phase : Phase := .idle
  bots : Table Bool := []
  deriving DecidableEq, Repr, Inhabited

namespace Status

/-- Before the run no bot is running. -/
def ofBots (bots : List BotType) : Status :=
  ⟨.idle, Table.ofList (bots.map fun b => (b.name, false))⟩

def setPhase (s : Status) (p : Phase) : Status := { s with phase := p }

def setRunning (s : Status) (b : BotType) (running : Bool) : Status :=
  { s with bots := Table.insert b.name running s.bots }

def isRunning (s : Status) (b : BotType) : Bool := (Table.find? b.name s.bots).getD false

@[simp] theorem isRunning_setRunning (s : Status) (b c : BotType) (r : Bool) :
    (s.setRunning b r).isRunning c = if c.name = b.name then r else s.isRunning c := by
  simp only [isRunning, setRunning, Table.find?_insert]
  split <;> rfl

end Status

end Switchboard
