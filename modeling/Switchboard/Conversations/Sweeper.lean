import Switchboard.Conversations
import Switchboard.Ticker

/-!
# Sweeping

Pending conversations on a clock. Any number of sweepers run beside them; each purges the expired
steps at its ticks.
-/

namespace Switchboard

/-- Pending conversations, the time, and the tickers of the sweepers. -/
structure SweptConversations (κ : Type) where
  now : Nat := 0
  store : Conversations κ
  sweepers : List Ticker := []
  deriving Repr

namespace SweptConversations

variable {κ : Type}

/-- Purges at each tick until a time. Who purges first does not matter, since what is expired at one
time is expired at each later one. -/
def sweepUntil (s : SweptConversations κ) (time : Nat) : SweptConversations κ :=
  { s with
    store := (s.sweepers.flatMap (·.timesUntil time)).foldl Conversations.purge s.store
    sweepers := s.sweepers.map (·.skipUntil time) }

/-- Lets time pass. -/
def advance (s : SweptConversations κ) (ms : Nat) : SweptConversations κ :=
  { s.sweepUntil (s.now + ms) with now := s.now + ms }

/-- Starts one more sweeper, which purges at once. Without a period there is none. -/
def start (s : SweptConversations κ) (period : Nat) : SweptConversations κ :=
  { s with sweepers := s.sweepers ++ (Ticker.immediate? s.now period).toList }.sweepUntil s.now

/-- Stops all sweepers. -/
def stop (s : SweptConversations κ) : SweptConversations κ := { s with sweepers := [] }

end SweptConversations

end Switchboard
