import Switchboard.Settings.Record

/-!
# Settings of the bundled commands

The greeting has a text and may have a signature; the heartbeat has a schedule and a destination.
Every field has a default.
-/

namespace Switchboard

open Settings

/-- Settings of the greeting. -/
structure GreetSettings where
  greeting : String := "Hello"
  signature : Option String := none
  deriving DecidableEq, Repr, Inhabited

instance : Settings GreetSettings where
  toJson s := .ofFields [("greeting", .text s.greeting), ("signature", ofText? s.signature)]
  ofJson? v := do
    let f ← fieldsOrDefault? ["greeting", "signature"] v
    let d : GreetSettings := {}
    return ⟨← f.orDefault "greeting" text? d.greeting,
      ← f.orDefault "signature" (optional? text?) d.signature⟩

/-- Settings of the heartbeat. -/
structure HeartbeatSettings where
  schedule : Option String := some "@every 1h"
  destination : Option String := some "console"
  deriving DecidableEq, Repr, Inhabited

instance : Settings HeartbeatSettings where
  toJson s := .ofFields
    [("schedule", ofText? s.schedule), ("destination", ofText? s.destination)]
  ofJson? v := do
    let f ← fieldsOrDefault? ["schedule", "destination"] v
    let d : HeartbeatSettings := {}
    return ⟨← f.orDefault "schedule" (optional? text?) d.schedule,
      ← f.orDefault "destination" (optional? text?) d.destination⟩

end Switchboard
