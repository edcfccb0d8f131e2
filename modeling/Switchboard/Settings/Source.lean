import Switchboard.Settings.Overlay

/-!
# Where configuration files are

Each bot type has a directory, named by its lowercase form, and each identifier a file in it. Of
several files for one identifier the one with the preferred extension is read. Without a base
directory nothing is found.
-/

namespace Switchboard

/-- Where configuration files are looked for. -/
inductive Source where
  /-- Nothing is found. -/
  | nowhere
  | directory (base : FilePath)
  deriving DecidableEq, Repr, Inhabited

namespace Source

/-- The directory of a bot type. -/
def directoryFor (base : FilePath) (bot : BotType) : FilePath := base.join bot.directory

/-- The files that may stand for an identifier, the preferred one first. -/
def candidates (base : FilePath) (bot : BotType) (identifier : String) : List FilePath :=
  FileFormat.extensions.map fun e => (directoryFor base bot).join (identifier ++ "." ++ e.1)

/-- The file that stands for an identifier. -/
def find? (files : FileTree) (base : FilePath) (bot : BotType) (identifier : String) :
    Option FilePath :=
  (candidates base bot identifier).find? files.isFile

/-- The file that stands for an identifier and the value that it holds. -/
def load (s : Source) (files : FileTree) (bot : BotType) (identifier : String) :
    Except WatchError (Option (FilePath × Json)) :=
  match s with
  | nowhere => .ok none
  | directory base =>
    match find? files base bot identifier with
    | none => .ok none
    | some path => (Settings.fileValue files path).map fun v => some (path, v)

/-- The settings with the file of an identifier laid over them. -/
def read {α : Type} [Settings α] (s : Source) (files : FileTree) (bot : BotType)
    (identifier : String) (current : α) : Except WatchError α :=
  match s with
  | nowhere => .error (.notFound bot identifier)
  | directory base =>
    match find? files base bot identifier with
    | none => .error (.notFound bot identifier)
    | some path => Settings.overlayFile files path current

/-- The base directory of a path: without dots if it exists, else from the root as it is written.
-/
def base? (files : FileTree) (path : FilePath) : Except WatchError FilePath :=
  match files.canonical? path with
  | some p => .ok p
  | none =>
    if path.text.isEmpty then .error (.io "" "cannot make an empty path absolute")
    else .ok path.tidy

end Source

/-- How a template gets what it makes: as it is, or from the value of a configuration file, where
null stands for no file. -/
inductive Binding (ε : Type) where
  | fixed (made : ε)
  | configured (bind : Json → Option ε)

namespace Binding

variable {ε : Type}

/-- What is made of settings: the file is laid over the defaults. -/
def ofSettings {α : Type} [Settings α] (defaults : α) (make : α → ε) : Binding ε :=
  .configured fun v => (Settings.overlay? defaults v).map make

def isConfigurable : Binding ε → Bool
  | fixed _ => false
  | configured _ => true

/-- What is made by the files as they are now. -/
def resolve (b : Binding ε) (s : Source) (files : FileTree) (bot : BotType) (identifier : String) :
    Except BuildError ε :=
  match b with
  | fixed made => .ok made
  | configured bind =>
    match s.load files bot identifier with
    | .error e => .error (.config e)
    | .ok none =>
      match bind .null with
      | some made => .ok made
      | none => .error (.config (Settings.misfit ⟨""⟩))
    | .ok (some (path, v)) =>
      match bind v with
      | some made => .ok made
      | none => .error (.config (Settings.misfit path))

end Binding

end Switchboard
