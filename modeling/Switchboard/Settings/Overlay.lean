import Switchboard.Error
import Switchboard.Files.Tree
import Switchboard.Json.Merge
import Switchboard.Settings.Format
import Switchboard.Text.Blank

/-!
# Overlays

Settings have a document value and are read from one. To overlay a value on settings is to merge it
into the document value of the settings and to read the result; null changes nothing. A file is
overlaid by its content, and a blank file changes nothing.
-/

namespace Switchboard

/-- Settings that have a document value. -/
class Settings (α : Type) where
  toJson : α → Json
  ofJson? : Json → Option α

namespace Settings

variable {α : Type} [Settings α]

/-- The settings with a value laid over them. -/
def overlay? (current : α) (value : Json) : Option α :=
  match value with
  | .null => some current
  | v => ofJson? (Json.merge (toJson current) v)

/-- What is said of a file whose extension tells no format. -/
def unsupportedExtension : String := "unsupported file extension"

/-- The value that a file holds; a blank file holds null. -/
def fileValue (files : FileTree) (path : FilePath) : Except WatchError Json :=
  match FileFormat.ofPath? path with
  | none => .error (.decode path.text unsupportedExtension)
  | some format =>
    match files.readText path with
    | .error e => .error (.io path.text e.message)
    | .ok text =>
      if Text.isBlankText text then .ok .null
      else
        match format.decode? text with
        | none => .error (.decode path.text "not a document")
        | some value => .ok value

/-- What is said of a file that does not fit the settings. -/
def misfit (path : FilePath) : WatchError := .decode path.text "not a value of these settings"

/-- The settings with a file laid over them. -/
def overlayFile (files : FileTree) (path : FilePath) (current : α) : Except WatchError α :=
  match fileValue files path with
  | .error e => .error e
  | .ok value =>
    match overlay? current value with
    | none => .error (misfit path)
    | some new => .ok new

end Settings

end Switchboard
