import Switchboard.Note
import Switchboard.Settings.Source
import Switchboard.Watch.Watches

/-!
# The watcher

The watcher serves requests to subscribe and takes reports of the operating system from its inbox.
Its next action is the first that applies of these: stop if it is cancelled, read a report, or flush
the files that are due. After it was cancelled every request is refused.
-/

namespace Switchboard

/-- What the operating system reports. -/
inductive WatchReport where
  | event (e : FileEvent)
  | failure (reason : String)
  deriving DecidableEq, Repr, Inhabited

/-- Watches the configuration files below a base directory. -/
structure Watcher (α : Type) where
  base : FilePath
  watches : Watches α
  /-- Reports that have not been read, the oldest first. -/
  inbox : List WatchReport := []
  isCancelled : Bool := false
  /-- Whether the watcher has stopped. -/
  isOver : Bool := false
  deriving Repr

namespace Watcher

variable {α : Type}

/-- A watcher of the files below a directory. -/
def ofBase (base : FilePath) (debounce : Nat) : Watcher α := { base, watches := { debounce } }

/-- Where configuration files are read. -/
def source (w : Watcher α) : Source := .directory w.base

/-- The directory of a bot type. -/
def directoryFor (w : Watcher α) (bot : BotType) : FilePath := Source.directoryFor w.base bot

/-- Serves a request, unless the watcher is cancelled. -/
def request (w : Watcher α) (serve : Watches α → Except WatchError Unit × Watches α) :
    Except WatchError Unit × Watcher α :=
  if w.isCancelled then (.error .notRunning, w)
  else
    let (answer, watches) := serve w.watches
    (answer, { w with watches })

/-- Subscribes to the file of an identifier. -/
def subscribe (w : Watcher α) (os : DirectoryWatch) (s : Subscription α) :
    Except WatchError Unit × Watcher α :=
  w.request fun watches => watches.subscribe os (w.directoryFor s.botType) s

/-- Ends the subscription to the file of an identifier. -/
def unsubscribe (w : Watcher α) (os : DirectoryWatch) (bot : BotType) (identifier : String) :
    Except WatchError Unit × Watcher α :=
  w.request fun watches => watches.unsubscribe os (w.directoryFor bot) bot (some identifier)

/-- Ends all subscriptions of a bot type. -/
def unwatch (w : Watcher α) (os : DirectoryWatch) (bot : BotType) :
    Except WatchError Unit × Watcher α :=
  w.request fun watches => watches.unsubscribe os (w.directoryFor bot) bot none

/-- Puts a report into the inbox; a watcher that has stopped reads none. -/
def deliver (w : Watcher α) (r : WatchReport) : Watcher α :=
  if w.isOver then w else { w with inbox := w.inbox ++ [r] }

def cancel (w : Watcher α) : Watcher α := { w with isCancelled := true }

/-- Whether the watcher can act. -/
def isAble (w : Watcher α) (now : Nat) : Bool :=
  !w.isOver && (w.isCancelled || !w.inbox.isEmpty || w.watches.nextDue?.any (· ≤ now))

/-- What the watcher does next: the targets that it calls, and what it tells. -/
def act (w : Watcher α) (os : DirectoryWatch) (files : FileTree) (now : Nat) :
    Watcher α × List α × List Note :=
  if w.isCancelled then
    let (refusals, watches) := w.watches.shutdown os
    ({ w with watches, inbox := [], isOver := true }, [], refusals.map .directoryNotReleased)
  else
    match w.inbox with
    | .failure reason :: rest => ({ w with inbox := rest }, [], [.watchFailed reason])
    | .event e :: rest =>
      ({ w with inbox := rest, watches := w.watches.observe now files e }, [], [])
    | [] =>
      let (targets, watches) := w.watches.flush now
      ({ w with watches }, targets, [])

/-- The times for which the watcher waits. -/
def dues (w : Watcher α) : List Nat := w.watches.pending.map PendingFile.due

end Watcher

end Switchboard
