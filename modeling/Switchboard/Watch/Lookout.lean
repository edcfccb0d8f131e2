import Switchboard.Processes
import Switchboard.Task.Timers
import Switchboard.Watch.Watcher

/-!
# A lookout

A watcher on a clock whose targets are listeners. It notes which listeners were called; a listener
that panics is told of, and does not disturb the others.
-/

namespace Switchboard

/-- Is called when a file has changed. -/
structure Listener where
  botType : BotType
  identifier : String
  panics : Bool := false
  deriving DecidableEq, Repr, Inhabited

/-- A watcher of files, and the calls of its listeners. -/
structure Lookout where
  now : Nat := 0
  files : FileTree
  os : DirectoryWatch := {}
  watcher : Watcher Listener
  /-- The listeners that were called, in order. -/
  called : List Listener := []
  notes : List Note := []

namespace Lookout

/-- The watcher acts, and its targets are called. -/
def act (l : Lookout) : Lookout :=
  let (watcher, targets, notes) := l.watcher.act l.os l.files l.now
  let panics := (targets.filter Listener.panics).map fun _ => Note.callbackPanicked
  { l with watcher, called := l.called ++ targets, notes := l.notes ++ notes ++ panics }

/-- The watcher as the only process. It reads each report, flushes once and stops once. -/
def processes : Processes Lookout Unit where
  all _ := [()]
  able _ l := l.watcher.isAble l.now
  step _ l := l.act
  now := Lookout.now
  setNow n l := { l with now := n }
  dues l := l.watcher.dues
  load l := 2 * l.watcher.inbox.length + 8

end Lookout

end Switchboard
