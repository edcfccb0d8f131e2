import Switchboard.Property.Age
import Switchboard.Property.Break
import Switchboard.Property.Script

/-!
# Properties by name

`Property.find?` gives the property of a name: one that is had or not, a general category or a
script. `Property.ofPair?` gives the property of a kind of property and a value of that kind.
-/

namespace Switchboard.Property

/-- The property of a name. -/
def find? (name : String) : Option Property :=
  let plain := plainName name
  (named? flags plain).or ((named? categories plain).or (script? plain))

/-- The property that a kind of property and a value name. -/
def ofPair? (kind value : String) : Option Property :=
  let value := plainName value
  match plainName kind with
  | "gc" => named? categories value
  | "generalcategory" => named? categories value
  | "sc" => script? value
  | "script" => script? value
  | "scx" => sharing? value
  | "scriptextensions" => sharing? value
  | "age" => age? value
  | "gcb" => named? clusterClasses value
  | "graphemeclusterbreak" => named? clusterClasses value
  | "wb" => named? wordClasses value
  | "wordbreak" => named? wordClasses value
  | "sb" => named? sentenceClasses value
  | "sentencebreak" => named? sentenceClasses value
  | _ => none

end Switchboard.Property
