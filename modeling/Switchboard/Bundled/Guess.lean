import Switchboard.Text.Blank

/-!
# The guessing game

The game has picked a number. Each guess is answered with a hint until it is right; a message that
is no number is not counted.
-/

namespace Switchboard

/-- An open game: the number to guess and how many guesses there have been. -/
structure Guess where
  answer : Nat
  tries : Nat := 0
  deriving DecidableEq, Repr, Inhabited

namespace Guess

/-- How long an open game waits for a guess, in milliseconds. -/
def ttl : Nat := 120000

/-- The largest number that may be guessed. -/
def numberMax : Nat := 0xFFFFFFFF

/-- The number that a message writes: digits, with or without a plus sign, between blanks. -/
def number? (message : String) : Option Nat :=
  let cs := Text.trim message.toList
  let ds :=
    match cs with
    | '+' :: rest => rest
    | ds => ds
  if ds.isEmpty || !ds.all Char.isDigit then none
  else
    let n := ds.foldl (fun a c => a * 10 + (c.toNat - 48)) 0
    if n ≤ numberMax then some n else none

/-- The game that begins with a fraction of a second. -/
def start (nanos : Nat) : Guess := { answer := nanos % 100 + 1 }

/-- What is said when a game begins. -/
def opening : String := "I picked a number between 1 and 100. Your guess?"

/-- The reply to a message, and the game that stays open. -/
def turn (g : Guess) (message : String) : String × Option Guess :=
  match number? message with
  | none => ("Please enter a number between 1 and 100.", some g)
  | some n =>
    let tries := g.tries + 1
    if n < g.answer then ("Try bigger.", some { g with tries })
    else if g.answer < n then ("Try smaller.", some { g with tries })
    else (s!"Correct! It was {g.answer}, you needed {tries} tries.", none)

end Guess

end Switchboard
