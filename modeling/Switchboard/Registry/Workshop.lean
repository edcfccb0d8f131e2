import Switchboard.Processes
import Switchboard.Registry
import Switchboard.Watch.Watcher

/-!
# The workshop

A registry with the configuration files that its templates are bound to. When the workshop opens,
each template is built and, if it has a configuration file, subscribes to its changes; a change
builds it anew. A live task is also handed to whoever runs the tasks. A build that fails leaves what
is live as it was; only a template that is itself at fault ends the opening.
-/

namespace Switchboard

/-- The tasks on their way to those who run them. -/
structure TaskFeed where
  /-- Whether tasks are still taken. -/
  isOpen : Bool := true
  tasks : List ScheduledTask := []

namespace TaskFeed

/-- Hands over a task; nobody takes it after the feed has been closed. -/
def send (f : TaskFeed) (t : ScheduledTask) : TaskFeed :=
  if f.isOpen then { f with tasks := f.tasks ++ [t] } else f

/-- Tasks are no longer taken, and those on their way are dropped. -/
def close (_ : TaskFeed) : TaskFeed := { isOpen := false }

end TaskFeed

/-- What a subscriber builds anew: a template of a registry. Registries are numbered. -/
structure RebuildTarget where
  registry : Nat
  template : TemplateRef
  deriving DecidableEq, Repr, Inhabited

/-- A registry and its configuration files, on a clock. -/
structure Workshop (κ : Type) where
  now : Nat := 0
  registry : Registry κ := {}
  /-- How many registries have been replaced. -/
  replaced : Nat := 0
  files : FileTree := {}
  os : DirectoryWatch := {}
  /-- Watches the configuration files, if there are any. -/
  watcher : Option (Watcher RebuildTarget) := none
  feed : TaskFeed := {}
  notes : List Note := []

namespace Workshop

variable {κ : Type}

/-- Where configuration files are. -/
def source (w : Workshop κ) : Source := (w.watcher.map Watcher.source).getD .nowhere

def tell (w : Workshop κ) (n : Note) : Workshop κ := { w with notes := w.notes ++ [n] }

/-- Makes a task live and hands it over. -/
def publish (w : Workshop κ) (t : ScheduledTask) : Workshop κ :=
  let live := { w with registry := w.registry.install t, feed := w.feed.send t }
  if w.feed.isOpen then live else live.tell .schedulerGone

/-- Builds a template by the files as they are, and makes the result live. There is nothing to do
for a template that is not there. -/
def build (w : Workshop κ) (t : TemplateRef) : Except BuildError (Workshop κ) :=
  match t with
  | .command i =>
    match w.registry.commands[i]? with
    | none => .ok w
    | some c =>
      (c.build w.source w.files).map fun live =>
        { w with registry := w.registry.place c.botType live }
  | .task i =>
    match w.registry.tasks[i]? with
    | none => .ok w
    | some c => (c.build w.source w.files).map w.publish

/-- Builds a template anew; a failure keeps what is live. -/
def rebuild (w : Workshop κ) (t : TemplateRef) : Workshop κ :=
  match w.build t with
  | .ok built => built
  | .error e => w.tell (.rebuildFailed e)

/-- What is told of a template that cannot be built at first. -/
def notBuilt (t : TemplateRef) (e : BuildError) : Note :=
  match t with
  | .command _ => .commandNotBuilt e
  | .task _ => .taskNotBuilt e

/-- Builds a template for the first time. Only a template that is at fault fails. -/
def buildFirst (w : Workshop κ) (t : TemplateRef) : Except BuildError (Workshop κ) :=
  match w.build t with
  | .ok built => .ok built
  | .error e => if e.isFatal then .error e else .ok (w.tell (notBuilt t e))

/-- The bot type and the identifier under which a template has a configuration file. -/
def subscriber? (w : Workshop κ) (t : TemplateRef) : Option (BotType × String) :=
  match t with
  | .command i =>
    (w.registry.commands[i]?.filter CommandTemplate.isConfigurable).map fun c =>
      (c.botType, c.identifier)
  | .task i =>
    (w.registry.tasks[i]?.filter TaskTemplate.isConfigurable).map fun c => (c.botType, c.identifier)

/-- A template subscribes to its configuration file, if it has one. -/
def subscribe (w : Workshop κ) (t : TemplateRef) : Workshop κ :=
  match w.watcher, w.subscriber? t with
  | some watcher, some (botType, identifier) =>
    let (answer, watcher) :=
      watcher.subscribe w.os ⟨botType, identifier, ⟨w.replaced, t⟩⟩
    let w := { w with watcher := some watcher }
    match answer with
    | .ok _ => w
    | .error e => w.tell (.changesMissed e)
  | _, _ => w

/-- The steps of the opening. -/
inductive OpeningStep where
  | build (t : TemplateRef)
  | subscribe (t : TemplateRef)
  deriving DecidableEq, Repr

/-- The opening: each template in turn is built and subscribes. -/
def openingSteps (w : Workshop κ) : List OpeningStep :=
  w.registry.templates.flatMap fun t => [.build t, .subscribe t]

/-- A step of the opening. -/
def openStep (w : Workshop κ) : OpeningStep → Except BuildError (Workshop κ)
  | .build t => w.buildFirst t
  | .subscribe t => .ok (w.subscribe t)

/-- Takes steps of the opening until one fails. -/
def openBy (w : Workshop κ) : List OpeningStep → Option BuildError × Workshop κ
  | [] => (none, w)
  | s :: rest =>
    match w.openStep s with
    | .ok next => next.openBy rest
    | .error e => (some e, w)

/-- Builds all templates for the first time. -/
def openAll (w : Workshop κ) : Option BuildError × Workshop κ := w.openBy w.openingSteps

/-- A subscriber is called; those of an earlier registry do nothing. -/
def call (w : Workshop κ) (target : RebuildTarget) : Workshop κ :=
  if target.registry = w.replaced then w.rebuild target.template else w

/-- The watcher acts, and its targets are called. -/
def watch (w : Workshop κ) : Workshop κ :=
  match w.watcher with
  | none => w
  | some watcher =>
    let (watcher, targets, notes) := watcher.act w.os w.files w.now
    targets.foldl call { w with watcher := some watcher, notes := w.notes ++ notes }

/-- Replaces the registry by an empty one. -/
def dropRegistry (w : Workshop κ) : Workshop κ :=
  { w with registry := {}, replaced := w.replaced + 1 }

/-- The operating system reports to the watcher. -/
def report (w : Workshop κ) (r : WatchReport) : Workshop κ :=
  { w with watcher := w.watcher.map fun watcher => watcher.deliver r }

/-- Ends all subscriptions of a bot type. -/
def unwatch (w : Workshop κ) (bot : BotType) : Except WatchError Unit × Workshop κ :=
  match w.watcher with
  | none => (.ok (), w)
  | some watcher =>
    let (answer, watcher) := watcher.unwatch w.os bot
    (answer, { w with watcher := some watcher })

/-- Cancels the watcher. -/
def cancel (w : Workshop κ) : Workshop κ := { w with watcher := w.watcher.map Watcher.cancel }

/-- Whether the watcher can act. -/
def isAble (w : Workshop κ) : Bool := w.watcher.any fun watcher => watcher.isAble w.now

/-- The times for which the watcher waits. -/
def dues (w : Workshop κ) : List Nat := (w.watcher.map Watcher.dues).getD []

/-- How many steps the watcher takes at most before it waits. -/
def load (w : Workshop κ) : Nat := ((w.watcher.map fun x => x.inbox.length).getD 0) + 3

/-- The watcher as the only process. -/
def processes : Processes (Workshop κ) Unit where
  all _ := [()]
  able _ w := w.isAble
  step _ w := w.watch
  now := Workshop.now
  setNow n w := { w with now := n }
  dues := dues
  load w := 2 * w.load

end Workshop

end Switchboard
