import Switchboard.Text.Ranges

/-!
# Properties of characters

A property is a set of characters: those that lie on one of some runs of code points and on none of
some others. A property is known by its names; `plainName` brings a name to the form in which it
stands in the tables: case, spaces, hyphens and underscores in a name make no difference, nor does
`is` in front of it.
-/

namespace Switchboard

/-- The characters on one of the runs `within` and on none of the runs `without`. -/
structure Property where
  within : List Text.Runs
  without : List Text.Runs := []
  deriving Repr, Inhabited

namespace Property

/-- Whether a character has the property. -/
def has (p : Property) (c : Char) : Bool :=
  p.within.any (·.has c.toNat) && !p.without.any (·.has c.toNat)

/-- All characters. -/
def any : Property := ⟨[[(0, 0x10FFFF, 1)]], []⟩

/-- A name as it is looked up. -/
def plainName (name : String) : String :=
  let plain (cs : List Char) : List Char :=
    (cs.filter fun c => c != ' ' && c != '_' && c != '-' && c.toNat < 0x80).map Char.toLower
  match name.toList.map Char.toLower with
  | 'i' :: 's' :: _ =>
    let rest := String.ofList (plain (name.toList.drop 2))
    -- the other control characters have a name that begins like this by itself
    if rest == "c" then "isc" else rest
  | _ => String.ofList (plain name.toList)

/-- What the tables hold under a plain name. -/
def named? {α : Type} (table : List (List String × α)) (plain : String) : Option α :=
  (table.find? fun e => e.1.contains plain).map Prod.snd

end Property

end Switchboard
