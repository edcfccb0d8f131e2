import Switchboard.Json.Access
import Switchboard.Metrics
import Switchboard.Settings.Runner
import Switchboard.Status
import Switchboard.Task.Template

/-!
# Inspection

What the runtime shows of itself, as documents: its status and metrics, schedules and tasks, and the
settings that it runs with.
-/

namespace Switchboard

def Phase.name : Phase → String
  | .idle => "idle"
  | .running => "running"
  | .shuttingDown => "shutting_down"
  | .stopped => "stopped"

/-- The phase of a name. -/
def Phase.ofName (name : String) : Phase :=
  ([Phase.running, .shuttingDown, .stopped].find? fun p => p.name == name).getD .idle

namespace Status

/-- The fields of a status. -/
def toFields (s : Status) : Table Json :=
  [("state", .text s.phase.name),
    ("bots", .array (s.bots.map fun e =>
      .ofFields [("bot_type", .text e.1), ("running", .bool e.2)]))]

def toJson (s : Status) : Json := .ofFields s.toFields

end Status

namespace Metrics

/-- Count, sum, maximum and mean. -/
def Durations.numbers (d : Durations) : List Json := [d.count, d.sum, d.max, d.mean].map .ofNat

/-- The document of all series; `shown` chooses the numbers of a series of durations. -/
def toJson (m : Metrics) (shown : Durations → List Json := Durations.numbers) : Json :=
  let row (e : String × Nat) : Json := .array [.text e.1, .ofNat e.2]
  .ofFields
    [("empty", .bool m.isEmpty), ("counters", .array (m.counters.map row)),
      ("gauges", .array (m.gauges.map row)),
      ("durations", .array (m.durations.map fun e => .array (.text e.1 :: shown e.2)))]

end Metrics

/-- A point in time: seconds and nanoseconds. -/
def Timestamp.toJson (t : Timestamp) : Json := .array [.int t.seconds, .ofNat t.nanos]

def Timestamp.ofJson : Json → Timestamp
  | .array [.int seconds, .int nanos] => ⟨seconds, nanos.toNat⟩
  | _ => default

/-- The fields of a schedule: an interval, or the source of a calendar rule. -/
def Schedule.toFields : Schedule → Table Json
  | .every ms => [("every", .array [.ofNat (ms / 1000), .ofNat (ms % 1000 * 1000000)])]
  | .cron rule => [("cron", .text rule.source)]

/-- The fields of a task. -/
def ScheduledTask.toFields (t : ScheduledTask) : Table Json :=
  [("bot_type", .text t.botType.name), ("identifier", .text t.identifier),
    ("schedule", .ofFields t.schedule.toFields),
    ("default_destination", .ofOption (fun d => .text d.name) t.destination)]

namespace RunnerSettings

/-- A duration: seconds and milliseconds. -/
def durationJson (ms : Nat) : Json := .array [.ofNat (ms / 1000), .ofNat (ms % 1000)]

/-- The settings of a runner; an activity that is turned off has no interval. -/
def toJson (s : RunnerSettings) : Json :=
  .ofFields
    [("worker_num", .ofNat s.worker.workers), ("queue_size", .ofNat s.worker.queueSize),
      ("supervise_interval", .ofOption durationJson (interval? s.worker.superviseSeconds)),
      ("ttl", durationJson (s.conversation.ttlSeconds * 1000)),
      ("max_entries", .ofNat s.conversation.maxEntries),
      ("sweep_interval", .ofOption durationJson (interval? s.conversation.sweepSeconds)),
      ("base_dir", .ofOption .text s.watch.baseDirectory),
      ("debounce", durationJson s.watch.debounceMillis)]

end RunnerSettings

end Switchboard
