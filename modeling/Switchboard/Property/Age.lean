import Switchboard.Property.Basic
import Switchboard.Property.AgeTable

/-!
# Ages

The age of a character is the edition that was the first to assign it. An edition as a property
is the set of all characters that it assigns, those of earlier editions among them.
-/

namespace Switchboard.Property

/-- The characters that the edition with a plain name assigns. -/
def age? (plain : String) : Option Property :=
  (ageTable.findIdx? fun e => e.1.contains plain).map fun i =>
    ⟨(ageTable.take (i + 1)).map Prod.snd, []⟩

end Switchboard.Property
