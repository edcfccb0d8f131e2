import Switchboard.Property.Flag
import Switchboard.Property.Folding

/-!
# Patterns

A pattern describes a set of texts: single characters of a class, conditions on the place between
two characters, sequences, alternatives and repetitions.
-/

namespace Switchboard

/-- A class of characters. -/
inductive CharClass where
  /-- Code points in one of the ranges. -/
  | ranges (rs : Text.Ranges)
  | property (p : Property)
  | not (c : CharClass)
  | union (c d : CharClass)
  | inter (c d : CharClass)
  /-- Characters that differ from one of the class by case alone. -/
  | caseless (c : CharClass)
  /-- Characters that differ from one of the class by the case of a letter from A to Z. -/
  | asciiCaseless (c : CharClass)
  deriving Repr, Inhabited

namespace CharClass

/-- Whether a character belongs to a class. -/
def has : CharClass → Char → Bool
  | ranges rs, x => rs.has x.toNat
  | property p, x => p.has x
  | not c, x => !c.has x
  | union c d, x => c.has x || d.has x
  | inter c d, x => c.has x && d.has x
  | caseless c, x => (Property.caseVariants x).any c.has
  | asciiCaseless c, x => (Property.asciiVariants x).any c.has

/-- The class without members. -/
def empty : CharClass := ranges []

/-- The class of one character. -/
def single (c : Char) : CharClass := ranges [(c.toNat, c.toNat)]

/-- The members of `c` that are not members of `d`. -/
def minus (c d : CharClass) : CharClass := inter c (not d)

/-- The members of exactly one of the two. -/
def differ (c d : CharClass) : CharClass := union (minus c d) (minus d c)

end CharClass

/-- What a place has to do with words, by the characters on its two sides. -/
inductive WordEdge where
  | boundary
  | noBoundary
  | start
  | stop
  /-- No word stands in front. -/
  | startHalf
  /-- No word follows. -/
  | stopHalf
  deriving Repr, DecidableEq, Inhabited

/-- A condition on a place in a text. -/
inductive Anchor where
  | textStart
  | textEnd
  | lineStart
  | lineEnd
  /-- The start of a line, where a line ends with a line feed, a carriage return or the two. -/
  | returnLineStart
  /-- The end of such a line. -/
  | returnLineEnd
  /-- A place at an edge of words that are made up of some letters. -/
  | word (edge : WordEdge) (letters : CharClass)
  deriving Repr, Inhabited

/-- A pattern over texts. -/
inductive Pattern where
  | empty
  | one (c : CharClass)
  | anchor (a : Anchor)
  | seq (p q : Pattern)
  | alt (p q : Pattern)
  /-- At least `least` and at most `most` times. -/
  | repeated (p : Pattern) (least : Nat) (most : Option Nat)
  deriving Repr, Inhabited

end Switchboard
