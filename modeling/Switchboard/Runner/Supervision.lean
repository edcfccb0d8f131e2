import Switchboard.Runner.State

/-!
# Supervision of the bots

The error loop of a lane reports errors that can be lived with, and calls all alerters for a
critical one before it stops the lane. The supervisor marks its bot as running until the run loop
has ended, then stops the lane. Neither ever stops another lane.
-/

namespace Switchboard

namespace Runner

variable {κ : Type}

/-- Tells a lane to stop. -/
def stopLane (r : Runner κ) (k : Nat) : Runner κ :=
  r.setLane k fun l => { l with isStopped := true }

/-- The next step of a lane's error loop. -/
def errorStep (r : Runner κ) (k : Nat) : Runner κ :=
  match r.lanes[k]? with
  | none => r
  | some l =>
    match l.errorLoop with
    | .over => r
    | .alerting e (a :: rest) =>
      (r.emit (.alerted a.name l.botType e (a.alert l.botType e))).setLane k fun l =>
        { l with errorLoop := .alerting e rest }
    | .alerting _ [] => (r.setLane k fun l => { l with errorLoop := .listening }).stopLane k
    | .listening =>
      if r.isStopped k then r.setLane k Lane.endErrorLoop
      else
        match l.errorBox with
        | [] => r.setLane k Lane.endErrorLoop
        | e :: rest =>
          let next : ErrorLoop := if e.critical then .alerting e r.alerters else .listening
          (r.note (.botFailed e)).setLane k fun l => { l with errorBox := rest, errorLoop := next }

/-- The next step of a lane's supervisor. -/
def supervisorStep (r : Runner κ) (k : Nat) : Runner κ :=
  match r.lanes[k]? with
  | none => r
  | some l =>
    let go (r : Runner κ) (s : Supervisor) : Runner κ :=
      r.setLane k fun l => { l with supervisor := s }
    match l.supervisor with
    | .starting => go { r with status := r.status.setRunning l.botType true } .watching
    | .watching =>
      let r := if l.runEnd = some .panicked then r.note .runLoopFailed else r
      go ({ r with status := r.status.setRunning l.botType false }.stopLane k) .closing
    | .closing => go r .over
    | .over => r

/-- Whether all lanes have closed. -/
def lanesAreOver (r : Runner κ) : Bool := r.lanes.all fun l => l.supervisor == .over

end Runner

end Switchboard
