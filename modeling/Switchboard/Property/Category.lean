import Switchboard.Property.Basic
import Switchboard.Property.CategoryTable

/-!
# General categories

The general categories and their groups, each under its long name and its short one. The
characters that are assigned and stand for something are the base for the groups of others.
-/

namespace Switchboard.Property

open Switchboard.Text

def casedLetters : List Runs := [lowercaseLetters, uppercaseLetters, titlecaseLetters]

def letters : List Runs := casedLetters ++ [modifierLetters, otherLetters]

def marks : List Runs := [nonspacingMarks, spacingMarks, enclosingMarks]

def numbers : List Runs := [decimalNumbers, letterNumbers, otherNumbers]

def punctuation : List Runs :=
  [connectors, dashes, openingMarks, closingMarks, initialQuotes, finalQuotes, otherPunctuation]

def symbols : List Runs := [mathSymbols, currencySymbols, modifierSymbols, otherSymbols]

def separators : List Runs := [spaces, lineSeparators, paragraphSeparators]

/-- All characters that are assigned and stand for something. -/
def significant : List Runs := letters ++ marks ++ numbers ++ punctuation ++ symbols ++ separators

/-- All characters that are assigned. -/
def assigned : List Runs := significant ++ [controls, formats, privateUse]

/-- The decimal digits of all scripts. -/
def digit : Property := ⟨[decimalNumbers], []⟩

/-- The general categories by their names. -/
def categories : List (List String × Property) :=
  [(["lu", "uppercaseletter"], ⟨[uppercaseLetters], []⟩),
    (["ll", "lowercaseletter"], ⟨[lowercaseLetters], []⟩),
    (["lt", "titlecaseletter"], ⟨[titlecaseLetters], []⟩),
    (["lc", "casedletter"], ⟨casedLetters, []⟩),
    (["lm", "modifierletter"], ⟨[modifierLetters], []⟩),
    (["lo", "otherletter"], ⟨[otherLetters], []⟩),
    (["l", "letter"], ⟨letters, []⟩),
    (["mn", "nonspacingmark"], ⟨[nonspacingMarks], []⟩),
    (["mc", "spacingmark"], ⟨[spacingMarks], []⟩),
    (["me", "enclosingmark"], ⟨[enclosingMarks], []⟩),
    (["m", "mark", "combiningmark"], ⟨marks, []⟩),
    (["nd", "decimalnumber", "digit"], digit),
    (["nl", "letternumber"], ⟨[letterNumbers], []⟩),
    (["no", "othernumber"], ⟨[otherNumbers], []⟩),
    (["n", "number"], ⟨numbers, []⟩),
    (["pc", "connectorpunctuation"], ⟨[connectors], []⟩),
    (["pd", "dashpunctuation"], ⟨[dashes], []⟩),
    (["ps", "openpunctuation"], ⟨[openingMarks], []⟩),
    (["pe", "closepunctuation"], ⟨[closingMarks], []⟩),
    (["pi", "initialpunctuation"], ⟨[initialQuotes], []⟩),
    (["pf", "finalpunctuation"], ⟨[finalQuotes], []⟩),
    (["po", "otherpunctuation"], ⟨[otherPunctuation], []⟩),
    (["p", "punctuation", "punct"], ⟨punctuation, []⟩),
    (["sm", "mathsymbol"], ⟨[mathSymbols], []⟩),
    (["sc", "currencysymbol"], ⟨[currencySymbols], []⟩),
    (["sk", "modifiersymbol"], ⟨[modifierSymbols], []⟩),
    (["so", "othersymbol"], ⟨[otherSymbols], []⟩),
    (["s", "symbol"], ⟨symbols, []⟩),
    (["zs", "spaceseparator"], ⟨[spaces], []⟩),
    (["zl", "lineseparator"], ⟨[lineSeparators], []⟩),
    (["zp", "paragraphseparator"], ⟨[paragraphSeparators], []⟩),
    (["z", "separator"], ⟨separators, []⟩),
    (["cc", "control", "cntrl"], ⟨[controls], []⟩),
    (["cf", "format"], ⟨[formats], []⟩),
    (["co", "privateuse"], ⟨[privateUse], []⟩),
    (["cn", "unassigned"], ⟨any.within, assigned⟩),
    (["c", "other"], ⟨any.within, significant⟩),
    (["any"], any),
    (["assigned"], ⟨assigned, []⟩),
    (["ascii"], ⟨[[(0, 0x7F, 1)]], []⟩)]

end Switchboard.Property
