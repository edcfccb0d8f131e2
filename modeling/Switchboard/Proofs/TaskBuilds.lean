import Switchboard.Proofs.Overlays
import Switchboard.Proofs.Startup

/-!
# What comes of building a task

A draft is put together by setters (`TaskSetter`), and its template is built with the settings that
some reader finds for it (`SettingsReader`), be it one of files or any other. A build fails by
settings that are there but cannot be read, else by a schedule that they supply and that is none,
else by a missing schedule, and else it succeeds; the settings win over the draft
(`TaskBuilder.task_builds_come_out`). The schedule of the draft itself is never at fault, since a
draft is not finished unless it is one.
-/

namespace Switchboard

/-! ## Readers of settings -/

/-- Reads the settings of an identifier in their place, whatever their type. -/
structure SettingsReader where
  read : ∀ {α : Type} [Settings α], BotType → String → EStateM WatchError α Unit

namespace SettingsReader

/-- Reads the configuration files of a source. -/
def ofSource (source : Source) (files : FileTree) : SettingsReader where
  read := Settings.layRead source files

/-- The settings as they are read; if nothing is found for them, as they are left. -/
def load {α : Type} [Settings α] (r : SettingsReader) (bot : BotType) (identifier : String)
    (defaults : α) : Except WatchError α :=
  match (r.read bot identifier).run defaults with
  | .ok _ s => .ok s
  | .error e s => if e.isNotFound then .ok s else .error e

/-- What is wrong with a file is not that it is missing. -/
theorem isNotFound_of_overlayFile {α : Type} [Settings α] {files : FileTree} {path : FilePath}
    {defaults : α} {e : WatchError} (failed : Settings.overlayFile files path defaults = .error e) :
    e.isNotFound = false := by
  rw [Settings.overlayFile_eq] at failed
  cases value : Settings.fileValue files path with
  | ok v =>
    simp only [value, Settings.laidOver] at failed
    split at failed
    · cases failed
      rfl
    · cases failed
  | error cause =>
    rw [value] at failed
    cases failed
    unfold Settings.fileValue at value
    split at value
    · cases value; rfl
    · split at value
      · cases value; rfl
      · split at value
        · cases value
        · split at value
          · cases value; rfl
          · cases value

/-- From files the settings are read with the selected file laid over the defaults. -/
theorem load_directory {α : Type} [Settings α] (base : FilePath) (files : FileTree) (bot : BotType)
    (identifier : String) (defaults : α) :
    (ofSource (.directory base) files).load bot identifier defaults =
      match Source.find? files base bot identifier with
      | none => .ok defaults
      | some path => Settings.overlayFile files path defaults := by
  rw [load, ofSource, Settings.run_layRead, Settings.read_directory]
  cases Source.find? files base bot identifier with
  | none => rfl
  | some path =>
    cases value : Settings.overlayFile files path defaults with
    | ok s => simp [Settings.outcome, value]
    | error e => simp [Settings.outcome, value, isNotFound_of_overlayFile value]

end SettingsReader

/-! ## Functions of tasks -/

/-- What a task executes: a function, or one of settings. -/
inductive TaskFunction : Type 1 where
  | plain (run : TaskExecutor)
  | configured {α : Type} [TaskConfiguration α] (defaults : α) (run : α → TaskExecutor)

/-- A task bound to settings. -/
def BoundTask.ofSettings {α : Type} [TaskConfiguration α] (run : α → TaskExecutor) (s : α) :
    BoundTask where
  run := run s
  schedule := TaskConfiguration.schedule s
  destination := TaskConfiguration.destination s

namespace TaskFunction

/-- The function as a template keeps it. -/
def binding : TaskFunction → Binding BoundTask
  | plain run => TaskTemplate.fixed run
  | configured defaults run => TaskTemplate.configured defaults run

/-- The function bound to what a reader finds. -/
def bind (r : SettingsReader) (bot : BotType) (identifier : String) :
    TaskFunction → Except BuildError BoundTask
  | plain run => .ok { run }
  | configured defaults run =>
    match r.load bot identifier defaults with
    | .error e => .error (.config e)
    | .ok s => .ok (.ofSettings run s)

/-- There are settings, and they cannot be read. -/
inductive Unloadable (r : SettingsReader) (bot : BotType) (identifier : String) :
    TaskFunction → WatchError → Prop
  | broken {α : Type} [TaskConfiguration α] {defaults : α} {run : α → TaskExecutor}
    {e : WatchError} {s : α} (failed : (r.read bot identifier).run defaults = .error e s)
    (there : e.isNotFound = false) : Unloadable r bot identifier (.configured defaults run) e

/-- What a function is bound to: to nothing, to the settings as they are read, or to the settings as
they are if nothing is found. -/
inductive Loads (r : SettingsReader) (bot : BotType) (identifier : String) :
    TaskFunction → BoundTask → Prop
  | plain (run : TaskExecutor) : Loads r bot identifier (.plain run) { run }
  | read {α : Type} [TaskConfiguration α] {defaults : α} {run : α → TaskExecutor} {s : α}
    (found : (r.read bot identifier).run defaults = .ok () s) :
    Loads r bot identifier (.configured defaults run) (.ofSettings run s)
  | absent {α : Type} [TaskConfiguration α] {defaults : α} {run : α → TaskExecutor}
    {e : WatchError} {s : α} (failed : (r.read bot identifier).run defaults = .error e s)
    (missing : e.isNotFound = true) :
    Loads r bot identifier (.configured defaults run) (.ofSettings run s)

variable {r : SettingsReader} {bot : BotType} {identifier : String} {f : TaskFunction}

theorem bind_eq_ok_iff {bound : BoundTask} :
    f.bind r bot identifier = .ok bound ↔ f.Loads r bot identifier bound := by
  constructor
  · intro h
    cases f with
    | plain run => cases h; exact .plain run
    | configured defaults run =>
      rw [bind, SettingsReader.load] at h
      cases result : (r.read bot identifier).run defaults with
      | ok _ s =>
        rw [result] at h
        cases h
        exact .read result
      | error e s =>
        rw [result] at h
        cases missing : e.isNotFound with
        | false => simp [missing] at h
        | true =>
          simp only [missing, if_true, Except.ok.injEq] at h
          subst h
          exact .absent result missing
  · intro h
    cases h with
    | plain run => rfl
    | read found => simp [bind, SettingsReader.load, found]
    | absent failed missing => simp [bind, SettingsReader.load, failed, missing]

theorem bind_eq_error_iff {e : BuildError} :
    f.bind r bot identifier = .error e ↔
      ∃ cause, e = .config cause ∧ f.Unloadable r bot identifier cause := by
  constructor
  · intro h
    cases f with
    | plain run => cases h
    | configured defaults run =>
      rw [bind, SettingsReader.load] at h
      cases result : (r.read bot identifier).run defaults with
      | ok _ s => simp [result] at h
      | error cause s =>
        rw [result] at h
        cases missing : cause.isNotFound with
        | true => simp [missing] at h
        | false =>
          simp only [missing, Bool.false_eq_true, if_false, Except.error.injEq] at h
          exact ⟨cause, h.symm, .broken result missing⟩
  · rintro ⟨cause, rfl, broken⟩
    cases broken with
    | broken failed there => simp [bind, SettingsReader.load, failed, there]

theorem Unloadable.isConfigurable {e : WatchError} (h : f.Unloadable r bot identifier e) :
    f.binding.isConfigurable = true := by
  cases h with
  | broken => rfl

-- What a path leads to is of no concern below, and unfolding it is slow.
seal FileTree.isFile Settings.fileValue in
/-- A template resolves its function by the files of a source. -/
theorem resolve_binding (f : TaskFunction) (source : Source) (files : FileTree) (bot : BotType)
    (identifier : String) :
    f.binding.resolve source files bot identifier =
      f.bind (.ofSource source files) bot identifier := by
  cases f with
  | plain run => rfl
  | configured defaults run =>
    cases source with
    | nowhere => rfl
    | directory base =>
      rw [bind, SettingsReader.load_directory, binding, TaskTemplate.configured, Binding.ofSettings,
        Binding.resolve, Source.load_directory]
      cases Source.find? files base bot identifier with
      | none => rfl
      | some path =>
        dsimp only
        rw [Settings.overlayFile]
        cases Settings.fileValue files path with
        | error e => rfl
        | ok v =>
          dsimp only [Except.map]
          cases Settings.overlay? defaults v <;> rfl

end TaskFunction

/-! ## Drafts -/

/-- A part that is given to a draft. -/
inductive TaskSetter : Type 1 where
  | botType (bot : BotType)
  | identifier (i : String)
  | schedule (expression : String)
  | destination (d : Destination)
  | function (f : TaskFunction)

/-- The parts of a task that have been given so far. -/
structure TaskBuilder : Type 1 where
  botType : Option BotType := none
  identifier : Option String := none
  schedule : Option String := none
  destination : Option Destination := none
  function : Option TaskFunction := none

namespace TaskBuilder

/-- The last part of a kind is the one that holds. -/
def set (b : TaskBuilder) : TaskSetter → TaskBuilder
  | .botType bot => { b with botType := some bot }
  | .identifier i => { b with identifier := some i }
  | .schedule expression => { b with schedule := some expression }
  | .destination d => { b with destination := some d }
  | .function f => { b with function := some f }

def ofSetters (setters : List TaskSetter) : TaskBuilder := setters.foldl set {}

def draft (b : TaskBuilder) : TaskDraft where
  botType := b.botType
  identifier := b.identifier
  schedule := b.schedule
  destination := b.destination
  executor := b.function.map TaskFunction.binding

end TaskBuilder

/-! ## Builds -/

namespace TaskTemplate

variable {t : TaskTemplate} {e : BuildError}

/-- The task of a template that is bound. -/
def complete (t : TaskTemplate) (bound : BoundTask) : Except BuildError ScheduledTask := do
  let schedule ← t.scheduleOf bound.schedule
  return {
    botType := t.botType
    identifier := t.identifier
    schedule
    destination := bound.destination.or t.destination
    run := bound.run }

/-- The template is built with what a reader finds for its function. -/
def buildWith (t : TaskTemplate) (f : TaskFunction) (r : SettingsReader) :
    Except BuildError ScheduledTask :=
  f.bind r t.botType t.identifier >>= t.complete

/-- By the files of a source a template is built as its function is. -/
theorem build_eq_buildWith {f : TaskFunction} (h : t.executor = f.binding) (source : Source)
    (files : FileTree) : t.build source files = t.buildWith f (.ofSource source files) := by
  rw [buildWith, ← f.resolve_binding, ← h]
  rfl

/-- The schedule of a build is that of the settings, else the template's. -/
theorem scheduleOf_eq_ok_iff {supplied : Option String} {s : Schedule} :
    t.scheduleOf supplied = .ok s ↔
      ∃ expression, supplied.or t.schedule = some expression ∧
        Schedule.parse expression = .ok s := by
  unfold scheduleOf
  cases supplied with
  | some expression =>
    simp only [Option.some_or, Option.some.injEq, exists_eq_left']
    cases parsed : Schedule.parse expression with
    | ok s' => simp
    | error cause =>
      obtain ⟨x, reason, rfl⟩ := Schedule.exists_of_parse_error parsed
      simp
  | none =>
    cases t.schedule with
    | some expression => simp
    | none => simp

/-- What can be wrong with the schedule of a finished template is what the settings supply, or that
there is none. -/
theorem scheduleOf_eq_error_iff
    (sound : ∀ expression, t.schedule = some expression → ∃ s, Schedule.parse expression = .ok s)
    {supplied : Option String} :
    t.scheduleOf supplied = .error e ↔
      (∃ expression x reason, supplied = some expression ∧
        Schedule.parse expression = .error (.invalidSchedule x reason) ∧
          e = .configuredSchedule x reason) ∨
      (supplied = none ∧ t.schedule = none ∧ e = .missing "schedule") := by
  unfold scheduleOf
  cases supplied with
  | some expression =>
    simp only [Option.some.injEq, exists_and_left, exists_eq_left', reduceCtorEq, false_and,
      or_false]
    cases parsed : Schedule.parse expression with
    | ok s => simp
    | error cause =>
      obtain ⟨x, reason, rfl⟩ := Schedule.exists_of_parse_error parsed
      simp [eq_comm]
  | none =>
    cases given : t.schedule with
    | some expression =>
      obtain ⟨s, parsed⟩ := sound expression given
      simp [parsed]
    | none => simp [eq_comm]

/-- The task that is made of a template, of what it is bound to and of a schedule. -/
def task (t : TaskTemplate) (bound : BoundTask) (schedule : Schedule) : ScheduledTask where
  botType := t.botType
  identifier := t.identifier
  schedule
  destination := bound.destination.or t.destination
  run := bound.run

theorem complete_eq (t : TaskTemplate) (bound : BoundTask) :
    t.complete bound = (t.scheduleOf bound.schedule).map (t.task bound) := by
  unfold complete
  cases t.scheduleOf bound.schedule <;> rfl

variable {f : TaskFunction} {r : SettingsReader} {made : ScheduledTask}

theorem buildWith_eq_ok_iff :
    t.buildWith f r = .ok made ↔
      ∃ bound, f.Loads r t.botType t.identifier bound ∧
        ∃ expression schedule, bound.schedule.or t.schedule = some expression ∧
          Schedule.parse expression = .ok schedule ∧ made = t.task bound schedule := by
  simp only [← TaskFunction.bind_eq_ok_iff, buildWith]
  cases f.bind r t.botType t.identifier with
  | error e => simp [bind, Except.bind]
  | ok bound =>
    simp only [bind, Except.bind, Except.ok.injEq, exists_eq_left', complete_eq]
    constructor
    · intro h
      cases chosen : t.scheduleOf bound.schedule with
      | error e => rw [chosen] at h; cases h
      | ok schedule =>
        rw [chosen] at h
        cases h
        obtain ⟨expression, given, parsed⟩ := scheduleOf_eq_ok_iff.mp chosen
        exact ⟨expression, schedule, given, parsed, rfl⟩
    · rintro ⟨expression, schedule, given, parsed, rfl⟩
      rw [scheduleOf_eq_ok_iff.mpr ⟨expression, given, parsed⟩]
      rfl

/-- All the ways in which the build of a finished template can fail. -/
theorem buildWith_eq_error_iff
    (sound : ∀ expression, t.schedule = some expression → ∃ s, Schedule.parse expression = .ok s) :
    t.buildWith f r = .error e ↔
      (∃ cause, e = .config cause ∧ f.Unloadable r t.botType t.identifier cause) ∨
      ∃ bound, f.Loads r t.botType t.identifier bound ∧
        ((∃ expression x reason, bound.schedule = some expression ∧
            Schedule.parse expression = .error (.invalidSchedule x reason) ∧
            e = .configuredSchedule x reason) ∨
          (bound.schedule = none ∧ t.schedule = none ∧ e = .missing "schedule")) := by
  simp only [← TaskFunction.bind_eq_ok_iff, ← TaskFunction.bind_eq_error_iff, buildWith]
  cases f.bind r t.botType t.identifier with
  | error cause => simp [bind, Except.bind]
  | ok bound =>
    simp only [bind, Except.bind, Except.ok.injEq, exists_eq_left', complete_eq, reduceCtorEq,
      false_or, ← scheduleOf_eq_error_iff sound]
    cases t.scheduleOf bound.schedule <;> simp [Except.map]

end TaskTemplate

namespace TaskBuilder

variable {b : TaskBuilder} {t : TaskTemplate}

theorem eq_some_of_required {α : Type} {argument : String} {x : Option α} {a : α}
    (h : required argument x = .ok a) : x = some a := by
  cases x with
  | none => cases h
  | some a' => cases h; rfl

/-- A finished template has the parts that were given last. -/
theorem exists_of_finish (finished : b.draft.finish = .ok t) :
    ∃ f, b.function = some f ∧ t.executor = f.binding ∧ b.botType = some t.botType ∧
      b.identifier = some t.identifier ∧ t.schedule = b.schedule ∧
      t.destination = b.destination := by
  unfold TaskDraft.finish at finished
  obtain ⟨bot, hbot, finished⟩ := exists_of_bind_eq_ok finished
  obtain ⟨identifier, hid, finished⟩ := exists_of_bind_eq_ok finished
  obtain ⟨executor, hexec, finished⟩ := exists_of_bind_eq_ok finished
  obtain ⟨f, given, rfl⟩ := Option.map_eq_some_iff.mp (eq_some_of_required hexec)
  have named : b.identifier = some identifier :=
    (Option.filter_eq_some_iff.mp (eq_some_of_required hid)).1
  -- Whatever is checked of the schedule, it does not change the template.
  have template : t = { botType := bot, identifier, schedule := b.schedule
                        destination := b.destination, executor := f.binding } := by
    cases hs : b.draft.schedule with
    | some e =>
      rw [hs] at finished
      obtain ⟨_, -, finished⟩ := exists_of_bind_eq_ok finished
      cases finished
      rw [← hs]
      rfl
    | none =>
      rw [hs] at finished
      dsimp only at finished
      split at finished
      · cases finished
        rw [← hs]
        rfl
      · cases finished
  subst template
  exact ⟨f, given, rfl, eq_some_of_required hbot, named, rfl, rfl⟩

/-- **What comes of building a task.** Let a template be finished from parts that were given in any
order, and built with what any reader finds. The build fails by a configuration just if the task is
configurable and its settings are there but cannot be read; else by a configured schedule just if
the settings supply one that is none, whatever the draft has; else by a missing schedule just if
neither of the two supplies one; else it gives the task with the schedule and the default
destination of the settings, or those of the draft where the settings have none. It fails in no
other way. By the files of a source a template is built so too. -/
theorem task_builds_come_out (setters : List TaskSetter)
    (finished : (ofSetters setters).draft.finish = .ok t) :
    let b := ofSetters setters
    ∃ f, b.function = some f ∧
      (∀ source files, t.build source files = t.buildWith f (.ofSource source files)) ∧
      ∀ r : SettingsReader,
        (∀ cause, t.buildWith f r = .error (.config cause) ↔
          t.isConfigurable = true ∧ f.Unloadable r t.botType t.identifier cause) ∧
        (∀ x reason, t.buildWith f r = .error (.configuredSchedule x reason) ↔
          ∃ bound expression, f.Loads r t.botType t.identifier bound ∧
            bound.schedule = some expression ∧
            Schedule.parse expression = .error (.invalidSchedule x reason)) ∧
        (∀ argument, t.buildWith f r = .error (.missing argument) ↔
          argument = "schedule" ∧ ∃ bound, f.Loads r t.botType t.identifier bound ∧
            bound.schedule = none ∧ b.schedule = none) ∧
        (∀ made, t.buildWith f r = .ok made ↔
          ∃ bound expression, f.Loads r t.botType t.identifier bound ∧
            bound.schedule.or b.schedule = some expression ∧
            Schedule.parse expression = .ok made.schedule ∧
            made.destination = bound.destination.or b.destination ∧
            b.botType = some made.botType ∧ b.identifier = some made.identifier ∧
            made.run = bound.run) ∧
        (∀ x reason, t.buildWith f r ≠ .error (.invalidSchedule x reason)) ∧
        ∀ kind bot i, t.buildWith f r ≠ .error (.duplicate kind bot i) := by
  intro b
  obtain ⟨f, given, executor, bot, identifier, schedule, destination⟩ := exists_of_finish finished
  have sound : ∀ expression, t.schedule = some expression →
      ∃ s, Schedule.parse expression = .ok s :=
    fun expression => TaskTemplate.exists_parse_of_finish finished
  refine ⟨f, given, TaskTemplate.build_eq_buildWith executor, fun r => ?_⟩
  refine ⟨fun cause => ?config, fun x reason => ?configured, fun argument => ?missing,
    fun made => ?succeeds, fun x reason => ?invalid, fun kind bot i => ?duplicate⟩
  case config =>
    rw [TaskTemplate.buildWith_eq_error_iff sound, TaskTemplate.isConfigurable, executor]
    simpa using fun broken => TaskFunction.Unloadable.isConfigurable broken
  case configured =>
    rw [TaskTemplate.buildWith_eq_error_iff sound]
    simp
  case missing =>
    rw [TaskTemplate.buildWith_eq_error_iff sound, ← schedule]
    constructor
    · rintro (⟨_, other, -⟩ | ⟨bound, loads, ⟨_, _, _, -, -, other⟩ | ⟨unsupplied, lacking, same⟩⟩)
      · cases other
      · cases other
      · cases same
        exact ⟨rfl, bound, loads, unsupplied, lacking⟩
    · rintro ⟨rfl, bound, loads, unsupplied, lacking⟩
      exact .inr ⟨bound, loads, .inr ⟨unsupplied, lacking, rfl⟩⟩
  case succeeds =>
    rw [TaskTemplate.buildWith_eq_ok_iff, ← schedule, ← destination]
    constructor
    · rintro ⟨bound, loads, expression, s, supplied, parsed, rfl⟩
      exact ⟨bound, expression, loads, supplied, parsed, rfl, bot, identifier, rfl⟩
    · rintro ⟨bound, expression, loads, supplied, parsed, goesTo, ofBot, named, runs⟩
      refine ⟨bound, loads, expression, made.schedule, supplied, parsed, ?_⟩
      have sameBot : made.botType = t.botType := Option.some.inj (ofBot.symm.trans bot)
      have sameName : made.identifier = t.identifier :=
        Option.some.inj (named.symm.trans identifier)
      rw [TaskTemplate.task, ← sameBot, ← sameName, ← goesTo, ← runs]
  case invalid =>
    rw [Ne, TaskTemplate.buildWith_eq_error_iff sound]
    simp
  case duplicate =>
    rw [Ne, TaskTemplate.buildWith_eq_error_iff sound]
    simp

/-! ## A schedule that is none -/

namespace HalfHourly

/-- Settings whose schedule names a unit that there is not. -/
def settings : TaskSettings :=
  { schedule := some "@every 30 minutes", destination := none, note := none }

def run (_ : TaskSettings) : TaskExecutor := fun _ => .done []

def setters : List TaskSetter :=
  [.identifier "report", .schedule "@every 1h", .function (.configured settings run),
    .botType ⟨"slack"⟩]

def template : TaskTemplate where
  botType := ⟨"slack"⟩
  identifier := "report"
  schedule := some "@every 1h"
  executor := TaskTemplate.configured settings run

end HalfHourly

open HalfHourly in
/-- The schedule of the draft is valid, but that of the settings is tried, and it is not. -/
theorem half_hourly_report_is_not_built :
    Schedule.parse "@every 1h" = .ok (.every 3600000) ∧
      template.build .nowhere {} =
        .error (.configuredSchedule "@every 30 minutes" "unknown unit ` minutes`") := by
  have parsed : Schedule.parse "@every 1h" = .ok (.every 3600000) := by decide +kernel
  have finished : (ofSetters setters).draft.finish = .ok template := by
    show (discard (Schedule.parse "@every 1h") >>= fun _ => pure template) = _
    rw [parsed]
    rfl
  obtain ⟨f, given, built, outcomes⟩ := task_builds_come_out setters finished
  obtain ⟨-, configured, -⟩ := outcomes (.ofSource .nowhere {})
  obtain rfl : TaskFunction.configured settings run = f := Option.some.inj given
  have rejected : Schedule.parse "@every 30 minutes" =
      .error (.invalidSchedule "@every 30 minutes" "unknown unit ` minutes`") := by decide +kernel
  refine ⟨parsed, ?_⟩
  rw [built]
  exact (configured _ _).mpr ⟨_, _, .absent rfl rfl, rfl, rejected⟩

end TaskBuilder

end Switchboard
