import Switchboard.Bundled.Settings
import Switchboard.Settings.Source

/-!
# Settings of a chosen type

Settings whose type is chosen by name, when the program runs. Each type has defaults, which a
document may replace; where none of the types is named, the settings are any document.
-/

namespace Switchboard

/-- Settings together with their type. -/
structure TypedSettings where
  type : Type
  [settings : Settings type]
  value : type

attribute [instance] TypedSettings.settings

namespace TypedSettings

/-- Settings of the type of that name. -/
def ofJson (name : String) (v : Json) : TypedSettings :=
  match name with
  | "typed" => ⟨ServiceSettings, (Settings.ofJson? v).getD ServiceSettings.standard⟩
  | "task" => ⟨TaskSettings, (Settings.ofJson? v).getD ⟨none, none, none⟩⟩
  | "greet" => ⟨GreetSettings, (Settings.ofJson? v).getD {}⟩
  | _ => ⟨Json, v⟩

def toJson (s : TypedSettings) : Json := Settings.toJson s.value

/-- The settings with a value laid over them. -/
def overlay? (s : TypedSettings) (v : Json) : Option TypedSettings :=
  (Settings.overlay? s.value v).map fun value => ⟨s.type, value⟩

/-- The settings with a file laid over them. -/
def overlayFile (s : TypedSettings) (files : FileTree) (path : FilePath) :
    Except WatchError TypedSettings :=
  (Settings.overlayFile files path s.value).map fun value => ⟨s.type, value⟩

/-- The settings with the file of an identifier laid over them. -/
def read (s : TypedSettings) (source : Source) (files : FileTree) (bot : BotType)
    (identifier : String) : Except WatchError TypedSettings :=
  (source.read files bot identifier s.value).map fun value => ⟨s.type, value⟩

end TypedSettings

end Switchboard
