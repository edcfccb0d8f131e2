import Switchboard.Error
import Switchboard.Settings.Format
import Switchboard.Watch.Event

/-!
# Watched directories

A directory is watched as long as it has subscribers. A subscriber waits for the file of its
identifier and leaves a target, which says what to do then. A file that is written becomes pending;
when it has been at rest for some time, `Watches.flush` gives the targets of its subscribers. A
later write lets the time begin anew.

The operating system is asked to watch a directory when its first subscriber comes, and to stop when
the last leaves. Whether it complies is not ours to say, so its answers are given to each operation;
`Watches.calls` is the history of what it was asked.
-/

namespace Switchboard

/-- Waits for the file of an identifier. -/
structure Subscription (α : Type) where
  botType : BotType
  identifier : String
  target : α
  deriving Repr

/-- A directory with its subscribers, the first comer first. -/
structure WatchedDirectory (α : Type) where
  path : FilePath
  subscriptions : List (Subscription α)
  deriving Repr

/-- A written file, and when it has been at rest for long enough. -/
structure PendingFile where
  path : FilePath
  due : Nat
  deriving DecidableEq, Repr

/-- How the operating system answers: the reason of a refusal. -/
structure DirectoryWatch where
  add : FilePath → Option String := fun _ => none
  remove : FilePath → Option String := fun _ => none

/-- What the operating system was asked, and the reason if it refused. -/
inductive WatchCall where
  | add (directory : FilePath) (refusal : Option String)
  | remove (directory : FilePath) (refusal : Option String)
  deriving DecidableEq, Repr

/-- The watched directories and the pending files. -/
structure Watches (α : Type) where
  /-- How long a file must be at rest, in milliseconds. -/
  debounce : Nat
  directories : List (WatchedDirectory α) := []
  pending : List PendingFile := []
  /-- The calls to the operating system, in order. -/
  calls : List WatchCall := []
  deriving Repr

namespace Watches

variable {α : Type}

/-- The watched directory of a path. -/
def directory? (w : Watches α) (path : FilePath) : Option (WatchedDirectory α) :=
  w.directories.find? fun d => d.path.same path

/-- The watched directory in which a file lies. -/
def around? (w : Watches α) (file : FilePath) : Option (WatchedDirectory α) :=
  w.directories.find? fun d => file.isIn d.path

/-- Appends a subscription to those of a watched directory. -/
def append (w : Watches α) (path : FilePath) (s : Subscription α) : Watches α :=
  { w with
    directories := w.directories.map fun d =>
      if d.path.same path then { d with subscriptions := d.subscriptions ++ [s] } else d }

/-- Subscribes to the file of an identifier. -/
def subscribe (w : Watches α) (os : DirectoryWatch) (path : FilePath) (s : Subscription α) :
    Except WatchError Unit × Watches α :=
  match w.directory? path with
  | some d =>
    if d.subscriptions.any fun t => t.identifier == s.identifier then
      (.error (.alreadySubscribing s.botType s.identifier), w)
    else (.ok (), w.append path s)
  | none =>
    let refusal := os.add path
    let asked := { w with calls := w.calls ++ [.add path refusal] }
    match refusal with
    | some reason => (.error (.notify reason), asked)
    | none => (.ok (), { asked with directories := asked.directories ++ [⟨path, [s]⟩] })

/-- The subscriptions that stay when those of an identifier leave or, without an identifier, those
of a bot type. -/
def staying (subscriptions : List (Subscription α)) (bot : BotType) (identifier : Option String) :
    List (Subscription α) :=
  subscriptions.filter fun s =>
    match identifier with
    | some i => s.identifier ≠ i
    | none => s.botType ≠ bot

/-- Stops watching a directory, and drops its pending files. -/
def abandon (w : Watches α) (os : DirectoryWatch) (path : FilePath) :
    Except WatchError Unit × Watches α :=
  let refusal := os.remove path
  let w := { w with
    directories := w.directories.filter fun d => !d.path.same path
    pending := w.pending.filter fun p => !p.path.isIn path
    calls := w.calls ++ [.remove path refusal] }
  match refusal with
  | some reason => (.error (.notify reason), w)
  | none => (.ok (), w)

/-- Ends the subscription to the file of an identifier or, without one, all subscriptions of a bot
type. -/
def unsubscribe (w : Watches α) (os : DirectoryWatch) (path : FilePath) (bot : BotType)
    (identifier : Option String) : Except WatchError Unit × Watches α :=
  match w.directory? path with
  | none =>
    match identifier with
    | some i => (.error (.notFound bot i), w)
    | none => (.ok (), w)
  | some d =>
    let rest := staying d.subscriptions bot identifier
    match identifier, rest.length == d.subscriptions.length with
    | some i, true => (.error (.notFound bot i), w)
    | _, _ =>
      if rest.isEmpty then w.abandon os path
      else
        (.ok (), { w with
          directories := w.directories.map fun d =>
            if d.path.same path then { d with subscriptions := rest } else d })

/-- Makes a file pending; the time begins anew if it was so already. -/
def touch (w : Watches α) (now : Nat) (file : FilePath) : Watches α :=
  if (w.around? file).isSome && (FileFormat.ofPath? file).isSome then
    { w with
      pending := w.pending.filter (fun p => !p.path.same file) ++ [⟨file, now + w.debounce⟩] }
  else w

/-- Takes note of an event: written files of a known format in a watched directory become pending.
-/
def observe (w : Watches α) (now : Nat) (files : FileTree) (e : FileEvent) : Watches α :=
  (e.written files).foldl (fun w file => w.touch now file) w

/-- The targets of those that wait for a file. -/
def targets (w : Watches α) (file : FilePath) : List α :=
  match w.around? file, file.stem? with
  | some d, some stem =>
    (d.subscriptions.filter fun s => s.identifier == stem).map Subscription.target
  | _, _ => []

/-- The pending files that have been at rest for long enough. -/
def ripe (w : Watches α) (now : Nat) : List FilePath :=
  (w.pending.filter fun p => p.due ≤ now).map PendingFile.path

/-- The targets of the files that have been at rest for long enough; those files are no longer
pending. -/
def flush (w : Watches α) (now : Nat) : List α × Watches α :=
  ((w.ripe now).flatMap w.targets, { w with pending := w.pending.filter fun p => now < p.due })

/-- Stops watching everything, and gives the refusals. -/
def shutdown (w : Watches α) (os : DirectoryWatch) : List String × Watches α :=
  let paths := w.directories.map WatchedDirectory.path
  (paths.filterMap os.remove, { w with
    directories := []
    pending := []
    calls := w.calls ++ paths.map fun p => .remove p (os.remove p) })

/-- When the first pending file is due. -/
def nextDue? (w : Watches α) : Option Nat := (w.pending.map PendingFile.due).min?

end Watches

end Switchboard
