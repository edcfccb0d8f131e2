import Switchboard.Runner.Actors
import Switchboard.Settings.Runner

/-!
# Starting a runner

A plan says what a runner is made of. There must be a bot, and no two of one bot type. A start makes
the watcher, opens the workshop, and only then starts everything else; if either fails, nothing else
is started.
-/

namespace Switchboard

/-- What a runner is made of. -/
structure RunnerPlan (κ : Type) where
  language : Language κ
  origin : Timestamp
  settings : RunnerSettings := {}
  bots : List Bot
  alerters : List Alerter := []
  registry : Registry κ := {}
  files : FileTree := {}
  os : DirectoryWatch := {}
  /-- A watcher that takes the place of the one that the settings ask for. -/
  watcher : Option (Watcher RebuildTarget) := none

namespace RunnerPlan

variable {κ : Type}

/-- The first bot type in a list that occurs in front of its place too. -/
def repeated? (seen : List BotType) : List BotType → Option BotType
  | [] => none
  | b :: rest => if seen.contains b then some b else repeated? (b :: seen) rest

/-- Checks the bots, and notes the bot types that have templates and no bot. -/
def check (p : RunnerPlan κ) : Except RunnerError (List Note) :=
  let bots := p.bots.map Bot.botType
  if bots.isEmpty then .error .noBots
  else
    match repeated? [] bots with
    | some b => .error (.duplicateBot b)
    | none =>
      .ok ((p.registry.botTypes.filter fun b => !bots.contains b).map .botMissing)

/-- The watcher of a run, and whether it was made for it. -/
def makeWatcher (p : RunnerPlan κ) :
    Except WatchError (Option (Watcher RebuildTarget) × Bool) :=
  match p.watcher, p.settings.watch.baseDirectory with
  | some w, _ => .ok (some w, false)
  | none, some directory =>
    (Source.base? p.files ⟨directory⟩).map fun base =>
      (some (.ofBase base p.settings.watch.debounceMillis), true)
  | none, none => .ok (none, false)

/-- The runner before its run, with a watcher. -/
def runner (p : RunnerPlan κ) (watcher : Option (Watcher RebuildTarget)) : Runner κ where
  language := p.language
  origin := p.origin
  workshop := { registry := p.registry, files := p.files, os := p.os, watcher }
  alerters := p.alerters
  pool := .ofSize p.settings.worker.workers p.settings.worker.queueSize
  conversations :=
    { lifetime := p.settings.conversation.ttlSeconds * 1000
      limit := p.settings.conversation.maxEntries }
  status := .ofBots (p.bots.map Bot.botType)

/-- Starts the lanes and everything else once the workshop is open. -/
def launch (p : RunnerPlan κ) (r : Runner κ) : Runner κ :=
  { r with
    lanes := p.bots.map Lane.ofBot
    sweeper := (RunnerSettings.interval? p.settings.conversation.sweepSeconds).bind
      (Ticker.immediate? r.now)
    gauge := (RunnerSettings.interval? p.settings.worker.superviseSeconds).bind
      (Ticker.immediate? r.now)
    status := r.status.setPhase .running }

/-- Starts a run. -/
def start (p : RunnerPlan κ) : Runner κ :=
  match p.makeWatcher with
  | .error e => { p.runner p.watcher with course := .failed (.watch e) }
  | .ok (watcher, ownsWatcher) =>
    let (failure, workshop) := (p.runner watcher).workshop.openAll
    let r := { p.runner watcher with
      ownsWatcher
      workshop := { workshop with notes := [] }
      trace := workshop.notes.map .noted }
    match failure with
    | none => p.launch r
    | some e =>
      { r with
        course := .failed (.build e)
        workshop := if ownsWatcher then r.workshop.cancel else r.workshop }

end RunnerPlan

end Switchboard
