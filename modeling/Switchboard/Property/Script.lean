import Switchboard.Property.Basic
import Switchboard.Property.ScriptTable
import Switchboard.Property.SharedTable

/-!
# Scripts

Each character belongs to one script, or is common to all, or takes the script of the character
before it. Some that are common in this sense are used by a few scripts only: `sharing?` gives a
script with the characters that it shares with others.
-/

namespace Switchboard.Property

open Switchboard.Text

/-- The characters of the script with a plain name. -/
def script? (plain : String) : Option Property :=
  (named? scriptTable plain).map fun rs => ⟨[rs], []⟩

/-- The characters that are in use in the script with a plain name. For the characters without a
script of their own these are the ones that no script shares with a few others. -/
def sharing? (plain : String) : Option Property := do
  let (names, own) ← scriptTable.find? fun e => e.1.contains plain
  let name := names.headD ""
  if name == "common" || name == "inherited" then some ⟨[own], sharedTable.map Prod.snd⟩
  else some ⟨own :: ((sharedTable.lookup name).map fun rs => [rs]).getD [], []⟩

end Switchboard.Property
