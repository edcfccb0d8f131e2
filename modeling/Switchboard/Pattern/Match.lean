import Switchboard.Pattern.Basic

/-!
# Where a pattern matches

A place in a text lies between two characters, or at an end. A set of places holds one truth value
for each place, from the first on. `Pattern.reach` gives the places at which a match can end that
begins at one of a set of places. A pattern occurs in a text if it matches between some two places.
-/

namespace Switchboard

/-- A place: the characters in front of it and after it. -/
structure Place where
  before : Option Char
  after : Option Char
  deriving DecidableEq, Repr, Inhabited

namespace Place

/-- The places of a text whose rest is ahead, after a character or none. -/
def allFrom (before : Option Char) : List Char → List Place
  | [] => [⟨before, none⟩]
  | c :: rest => ⟨before, some c⟩ :: allFrom (some c) rest

/-- The places of a text. -/
def all (text : List Char) : List Place := allFrom none text

end Place

/-- Whether a place is such an edge, by whether the characters on its two sides are of words. -/
def WordEdge.holds (e : WordEdge) (before after : Bool) : Bool :=
  match e with
  | boundary => before != after
  | noBoundary => before == after
  | start => !before && after
  | stop => before && !after
  | startHalf => !before
  | stopHalf => !after

/-- Whether the condition holds at a place. -/
def Anchor.holds (a : Anchor) (p : Place) : Bool :=
  match a with
  | textStart => p.before.isNone
  | textEnd => p.after.isNone
  | lineStart => p.before.all (· == '\n')
  | lineEnd => p.after.all (· == '\n')
  | returnLineStart => p.before.all fun c => c == '\n' || (c == '\r' && p.after != some '\n')
  | returnLineEnd => p.after.all fun c => c == '\r' || (c == '\n' && p.before != some '\r')
  | word edge letters => edge.holds (p.before.any letters.has) (p.after.any letters.has)

/-- A set of places: one truth value for each place of a text. -/
abbrev PlaceSet := List Bool

namespace PlaceSet

/-- Whether there is a place in the set. -/
def any (s : PlaceSet) : Bool := List.any s id

/-- The places in one of two sets. -/
def union (s t : PlaceSet) : PlaceSet := List.zipWith (· || ·) s t

/-- The places in `s` that are not in `t`. -/
def minus (s t : PlaceSet) : PlaceSet := List.zipWith (fun a b => a && !b) s t

/-- The places in the set where a condition holds. -/
def filter (places : List Place) (holds : Place → Bool) (s : PlaceSet) : PlaceSet :=
  List.zipWith (fun p b => b && holds p) places s

/-- The places one character behind those in the set. -/
def shift (s : PlaceSet) : PlaceSet := false :: s.dropLast

/-- The places reached by exactly `n` steps. -/
def steps (step : PlaceSet → PlaceSet) : Nat → PlaceSet → PlaceSet
  | 0, s => s
  | n + 1, s => steps step n (step s)

/-- The places of `reached`, and those that at most `n` steps reach from `latest`; ends when a step
reaches nothing new. -/
def spread (step : PlaceSet → PlaceSet) : Nat → PlaceSet → PlaceSet → PlaceSet
  | 0, reached, _ => reached
  | n + 1, reached, latest =>
    let new := minus (step latest) reached
    if any new then spread step n (union reached new) new else reached

end PlaceSet

namespace Pattern

open PlaceSet

/-- The places at which a match can end that begins at a place of the set. -/
def reach (places : List Place) : Pattern → PlaceSet → PlaceSet
  | empty, s => s
  | one c, s => shift (s.filter places fun p => p.after.any c.has)
  | anchor a, s => s.filter places a.holds
  | seq p q, s => reach places q (reach places p s)
  | alt p q, s => union (reach places p s) (reach places q s)
  | repeated p least most, s =>
    let start := steps (reach places p) least s
    -- a step more than there are places reaches nothing new
    spread (reach places p) ((most.map (· - least)).getD places.length) start start

/-- Whether the pattern occurs in a text. -/
def occursIn (p : Pattern) (text : String) : Bool :=
  let places := Place.all text.toList
  any (p.reach places (places.map fun _ => true))

end Pattern

end Switchboard
