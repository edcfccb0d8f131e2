import Switchboard.Property.FoldingTable

/-!
# Letters that differ by case alone

Simple case folding: every character has one folded form, its lowercase letter for most, the usual
form of the letter for variants such as the long s. Two characters are variants of each other if
their folded forms are equal. `asciiVariants` knows only the letters from A to Z.
-/

namespace Switchboard.Property

open Switchboard.Text

/-- The folded form of a character. -/
def foldChar (c : Char) : Char := shiftCase foldingRuns c

/-- The characters other than `c` whose folded form is `c`. -/
def unfolded (c : Char) : List Char :=
  foldingRuns.filterMap fun r => (r.origin? c.toNat).map Char.ofNat

/-- All characters that differ from `c` by case alone, `c` among them. -/
def caseVariants (c : Char) : List Char :=
  let d := foldChar c
  c :: d :: unfolded d

/-- The characters that differ from `c` by the case of a letter from A to Z, `c` among them. -/
def asciiVariants (c : Char) : List Char := [c, c.toLower, c.toUpper]

end Switchboard.Property
