import Switchboard.Log
import Switchboard.Metrics
import Switchboard.Ticker

/-!
# The periodic report

Metrics on a clock, and a reporter that logs them at each tick. The first tick comes after a period.
-/

namespace Switchboard

/-- Metrics with a reporter. -/
structure MetricsReport where
  now : Nat := 0
  metrics : Metrics := {}
  reporter : Option Ticker := none
  log : List LogLine := []
  deriving Inhabited

namespace MetricsReport

/-- Metrics with a reporter of a period; there is none without a period. -/
def start (period : Nat) : MetricsReport :=
  { reporter := (Ticker.immediate? 0 period).map Ticker.next }

/-- Lets time pass. -/
def advance (r : MetricsReport) (ms : Nat) : MetricsReport :=
  let time := r.now + ms
  match r.reporter with
  | none => { r with now := time }
  | some t =>
    let lines := r.metrics.reportLines.map (LogLine.mk .info)
    { r with
      now := time
      reporter := some (t.skipUntil time)
      log := r.log ++ (List.replicate (t.countUntil time) lines).flatten }

def stop (r : MetricsReport) : MetricsReport := { r with reporter := none }

end MetricsReport

end Switchboard
