import Switchboard.Proofs.Builds

/-!
# What templates are bound to

A configurable template is bound to its registered defaults with a configuration file laid over
them: the `yaml` file of its identifier, else the `yml` file, else the `json` file, else nothing
(`Source.settings?`). That is what a build resolves (`build_ofSettings`, `build_configured`), and of
all files it reads only the candidates of the identifier (`product?_congr`).
-/

namespace Switchboard

/-- The content of the file that a path leads to. -/
def FileTree.content? (t : FileTree) (p : FilePath) : Option (List UInt8) := (t.read p).toOption

theorem FileTree.isFile_eq (t : FileTree) (p : FilePath) : t.isFile p = (t.content? p).isSome := by
  unfold isFile content?
  cases t.read p <;> rfl

/-- Of a file, only its content is read. -/
theorem Settings.fileValue_congr {files files' : FileTree} {p : FilePath}
    (isFile : files.isFile p = true) (same : files'.content? p = files.content? p) :
    fileValue files' p = fileValue files p := by
  rw [FileTree.isFile_eq] at isFile
  obtain ⟨bytes, hbytes⟩ := Option.isSome_iff_exists.mp isFile
  have read_eq : ∀ t : FileTree, t.content? p = some bytes → t.read p = .ok bytes := by
    intro t ht
    unfold FileTree.content? at ht
    cases hr : t.read p with
    | error e => rw [hr] at ht; cases ht
    | ok b => rw [hr] at ht; cases ht; rfl
  simp only [fileValue, FileTree.readText, read_eq files hbytes,
    read_eq files' (same.trans hbytes)]

-- What a path leads to is of no concern below, and unfolding it is slow.
seal FileTree.isFile Settings.fileValue

namespace Source

variable {base : FilePath} {bot : BotType} {identifier : String}

/-- The file that is read for an identifier: `yaml` before `yml` before `json`. -/
def selected? (files : FileTree) (base : FilePath) (bot : BotType) (identifier : String) :
    Option FilePath :=
  let file (ext : String) := (directoryFor base bot).join (identifier ++ "." ++ ext)
  if files.isFile (file "yaml") then some (file "yaml")
  else if files.isFile (file "yml") then some (file "yml")
  else if files.isFile (file "json") then some (file "json")
  else none

theorem find?_eq_selected? (files : FileTree) :
    find? files base bot identifier = selected? files base bot identifier := by
  have three : candidates base bot identifier =
      [(directoryFor base bot).join (identifier ++ "." ++ "yaml"),
        (directoryFor base bot).join (identifier ++ "." ++ "yml"),
        (directoryFor base bot).join (identifier ++ "." ++ "json")] := rfl
  rw [find?, three, List.find?_cons, List.find?_cons, List.find?_cons, List.find?_nil, selected?]
  cases files.isFile ((directoryFor base bot).join (identifier ++ "." ++ "yaml")) with
  | true => rfl
  | false =>
    cases files.isFile ((directoryFor base bot).join (identifier ++ "." ++ "yml")) with
    | true => rfl
    | false =>
      cases files.isFile ((directoryFor base bot).join (identifier ++ "." ++ "json")) <;> rfl

/-- Defaults with the file of an identifier laid over them, or as they are if there is none.
Nothing if the file cannot be read as such settings. -/
def settings? {α : Type} [Settings α] (files : FileTree) (base : FilePath) (bot : BotType)
    (identifier : String) (defaults : α) : Option α :=
  match selected? files base bot identifier with
  | none => some defaults
  | some path => (Settings.overlayFile files path defaults).toOption

theorem load_directory (files : FileTree) :
    (Source.directory base).load files bot identifier =
      match find? files base bot identifier with
      | none => .ok none
      | some path => (Settings.fileValue files path).map fun v => some (path, v) := rfl

theorem load_congr {files files' : FileTree}
    (same : ∀ p ∈ candidates base bot identifier, files'.content? p = files.content? p) :
    (Source.directory base).load files' bot identifier =
      (Source.directory base).load files bot identifier := by
  have selection : find? files' base bot identifier = find? files base bot identifier := by
    unfold find?
    generalize candidates base bot identifier = ps at same
    induction ps with
    | nil => rfl
    | cons p rest ih =>
      rw [List.find?_cons, List.find?_cons, FileTree.isFile_eq, FileTree.isFile_eq,
        same p List.mem_cons_self, ih fun q hq => same q (List.mem_cons_of_mem p hq)]
  rw [load_directory, load_directory, selection]
  cases hf : find? files base bot identifier with
  | none => rfl
  | some path =>
    have isFile : files.isFile path = true := List.find?_some hf
    have candidate : path ∈ candidates base bot identifier := List.mem_of_find?_eq_some hf
    dsimp only
    rw [Settings.fileValue_congr isFile (same path candidate)]

end Source

/-! ## Builds -/

section Build

variable {κ ε : Type} {base : FilePath} {files : FileTree}

theorem Binding.resolve_congr {files' : FileTree} {bot : BotType} {identifier : String}
    (b : Binding ε)
    (same : ∀ p ∈ Source.candidates base bot identifier, files'.content? p = files.content? p) :
    b.resolve (.directory base) files' bot identifier =
      b.resolve (.directory base) files bot identifier := by
  cases b with
  | fixed made => rfl
  | configured bind => simp only [Binding.resolve, Source.load_congr same]

variable (base files) in
/-- Settings are resolved to the defaults with the selected file laid over them. -/
theorem Binding.toOption_resolve_ofSettings {α : Type} [Settings α] (defaults : α) (make : α → ε)
    (bot : BotType) (identifier : String) :
    ((Binding.ofSettings defaults make).resolve (.directory base) files bot identifier).toOption =
      (Source.settings? files base bot identifier defaults).map make := by
  rw [Binding.ofSettings, Binding.resolve, Source.load_directory, Source.find?_eq_selected?,
    Source.settings?]
  cases Source.selected? files base bot identifier with
  | none => rfl
  | some path =>
    dsimp only
    rw [Settings.overlayFile]
    cases Settings.fileValue files path with
    | error e => rfl
    | ok v =>
      dsimp only [Except.map]
      cases Settings.overlay? defaults v <;> rfl

/-- A command is bound to its defaults with the selected file laid over them. -/
theorem CommandTemplate.build_ofSettings {α : Type} [Settings α] {t : CommandTemplate κ}
    {defaults : α} {make : α → Executor κ} (h : t.executor = .ofSettings defaults make) :
    (t.build (.directory base) files).toOption =
      (Source.settings? files base t.botType t.identifier defaults).map fun s =>
        { identifier := t.identifier, instruction := t.instruction, matcher := t.matcher
          run := make s } := by
  have resolved := Binding.toOption_resolve_ofSettings base files defaults make t.botType
    t.identifier
  rw [CommandTemplate.build, h]
  cases hr : (Binding.ofSettings defaults make).resolve (.directory base) files t.botType
      t.identifier with
  | error e =>
    rw [hr] at resolved
    rw [Option.map_eq_none_iff.mp resolved.symm]
    rfl
  | ok run =>
    rw [hr] at resolved
    obtain ⟨s, hs, rfl⟩ := Option.map_eq_some_iff.mp resolved.symm
    rw [hs]
    rfl

/-- A task is bound to its defaults with the selected file laid over them; what the settings supply
wins over what the template says. -/
theorem TaskTemplate.build_configured {α : Type} [TaskConfiguration α] {t : TaskTemplate}
    {defaults : α} {run : α → TaskExecutor} (h : t.executor = TaskTemplate.configured defaults run) :
    (t.build (.directory base) files).toOption =
      (Source.settings? files base t.botType t.identifier defaults).bind fun s =>
        (t.scheduleOf (TaskConfiguration.schedule s)).toOption.map fun schedule =>
          { botType := t.botType, identifier := t.identifier, schedule
            destination := (TaskConfiguration.destination s).or t.destination, run := run s } := by
  have resolved := Binding.toOption_resolve_ofSettings base files defaults
    (fun s => ({ run := run s, schedule := TaskConfiguration.schedule s
                 destination := TaskConfiguration.destination s } : BoundTask))
    t.botType t.identifier
  rw [TaskTemplate.build, h, TaskTemplate.configured]
  cases hr : (Binding.ofSettings defaults fun s =>
      ({ run := run s, schedule := TaskConfiguration.schedule s
         destination := TaskConfiguration.destination s } : BoundTask)).resolve (.directory base)
      files t.botType t.identifier with
  | error e =>
    rw [hr] at resolved
    rw [Option.map_eq_none_iff.mp resolved.symm]
    rfl
  | ok bound =>
    rw [hr] at resolved
    obtain ⟨s, hs, rfl⟩ := Option.map_eq_some_iff.mp resolved.symm
    rw [hs, Option.bind_some]
    cases hschedule : t.scheduleOf (TaskConfiguration.schedule s) with
    | error e => simp [bind, Except.bind, hschedule, Except.toOption]
    | ok schedule => simp [bind, Except.bind, hschedule, Except.toOption, pure, Except.pure]

end Build

namespace Workshop

variable {κ : Type}

/-- The bot type and the identifier of a template. -/
def nameOf? (w : Workshop κ) : TemplateRef → Option (BotType × String)
  | .command i => w.registry.commands[i]?.map fun t => (t.botType, t.identifier)
  | .task i => w.registry.tasks[i]?.map fun t => (t.botType, t.identifier)

/-- Of all files a build reads only the candidates of its template. -/
theorem product?_congr {w w' : Workshop κ} {base : FilePath} {t : TemplateRef} {bot : BotType}
    {identifier : String} (name : w.nameOf? t = some (bot, identifier))
    (commands : w'.registry.commands = w.registry.commands)
    (tasks : w'.registry.tasks = w.registry.tasks) (source : w.source = .directory base)
    (source' : w'.source = .directory base)
    (same : ∀ p ∈ Source.candidates base bot identifier,
      w'.files.content? p = w.files.content? p) :
    w'.product? t = w.product? t := by
  cases t with
  | command i =>
    obtain ⟨t, ht, hn⟩ := Option.map_eq_some_iff.mp name
    cases hn
    simp only [product?, commands, ht, Option.bind_some, CommandTemplate.build, source, source',
      Binding.resolve_congr t.executor same]
  | task i =>
    obtain ⟨t, ht, hn⟩ := Option.map_eq_some_iff.mp name
    cases hn
    simp only [product?, tasks, ht, Option.bind_some, TaskTemplate.build, source, source',
      Binding.resolve_congr t.executor same]

end Workshop

end Switchboard
