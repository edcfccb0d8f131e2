import Switchboard.Files.Path
import Switchboard.Json.Reader
import Switchboard.Yaml.Json

/-!
# Formats of configuration files

A configuration file is in one of two formats, which its extension tells. Where several files stand
for one identifier, the first extension of the list wins.
-/

namespace Switchboard

/-- The format of a configuration file. -/
inductive FileFormat where
  | yaml
  | json
  deriving DecidableEq, Repr, Inhabited

namespace FileFormat

/-- Extensions with their formats, the preferred ones first. -/
def extensions : List (String × FileFormat) := [("yaml", .yaml), ("yml", .yaml), ("json", .json)]

/-- Whether two texts differ at most in the case of ASCII letters. -/
def equalIgnoringCase (s t : String) : Bool :=
  s.toList.map Char.toLower == t.toList.map Char.toLower

/-- The format that a path's extension tells, in any case. -/
def ofPath? (p : FilePath) : Option FileFormat :=
  p.extension?.bind fun ext =>
    (extensions.find? fun e => equalIgnoringCase e.1 ext).map Prod.snd

/-- The value that a text in a format holds. -/
def decode? : FileFormat → String → Option Json
  | .yaml, s => (Yaml.Document.parse? s).bind Yaml.Document.toJson?
  | .json, s => Json.parse? s

end FileFormat

end Switchboard
