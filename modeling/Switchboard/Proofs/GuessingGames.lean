import Mathlib.Data.List.Basic
import Switchboard.Bundled.Commands

/-!
# Guessing games

A game is a step that leaves another of its kind with each turn, until the guess is right. All that
it remembers is the answer and the number of guesses: the turn for a message goes by the message and
by how many of those before it were numbers (`Guess.getElem?_turns`), and the game is open as long
as none was the answer (`Guess.next?_eq`). Both are inductions over the messages, from what a
single turn may be (`Guess.turn_of_unread`, `Guess.turn_of_guess`, `Guess.turn_of_answer`).

Which messages are numbers is said by `Guess.number?_eq_some_iff`. Together these give the whole
play (`Guess.games_close_with_the_answer`).
-/

namespace Switchboard

/-! ## Steps in a row -/

namespace Routine

/-- Feeds calls one after another to a step and to those that it leaves: the turns, and the step
that is left in the end. Without a step no call is taken. -/
def feed : Option (Step Routine) → List Call → List (Turn Routine) × Option (Step Routine)
  | next, [] => ([], next)
  | none, _ :: _ => ([], none)
  | some step, c :: rest =>
    match (run step.code c).outcome with
    | .done turn => (turn :: (feed turn.next rest).1, (feed turn.next rest).2)
    | _ => ([], none)

theorem feed_none (calls : List Call) : feed none calls = ([], none) := by
  cases calls <;> rfl

end Routine

namespace Guess

variable {g : Guess} {message : String} {answer n : Nat}

/-! ## Numbers -/

/-- A text writes a number of 32 bits: digits, with or without a plus sign. -/
def IsNumeral (text : List Char) (n : Nat) : Prop :=
  ∃ digits, (text = digits ∨ text = '+' :: digits) ∧ digits ≠ [] ∧
    (∀ c ∈ digits, c.isDigit = true) ∧ n = Nat.ofDigitChars 10 digits 0 ∧ n ≤ numberMax

theorem foldl_eq_ofDigitChars (digits : List Char) :
    digits.foldl (fun a c => a * 10 + (c.toNat - 48)) 0 = Nat.ofDigitChars 10 digits 0 := by
  rw [Nat.ofDigitChars_eq_foldl]
  congr 1
  funext a c
  rw [Nat.mul_comm]
  rfl

/-- A text without a plus sign in front. -/
def unsigned : List Char → List Char
  | '+' :: rest => rest
  | digits => digits

theorem eq_or_eq_of_unsigned (text : List Char) :
    text = unsigned text ∨ text = '+' :: unsigned text := by
  unfold unsigned
  split
  · exact .inr rfl
  · exact .inl rfl

/-- A digit is no plus sign. -/
theorem unsigned_of_isDigit {digits : List Char} (all : ∀ c ∈ digits, c.isDigit = true) :
    unsigned digits = digits := by
  unfold unsigned
  split
  · cases all '+' List.mem_cons_self
  · rfl

theorem number?_eq (message : String) :
    number? message =
      let digits := unsigned (Text.trim message.toList)
      if digits.isEmpty || !digits.all Char.isDigit then none
      else if Nat.ofDigitChars 10 digits 0 ≤ numberMax then some (Nat.ofDigitChars 10 digits 0)
      else none := by
  dsimp only
  rw [← foldl_eq_ofDigitChars]
  rfl

/-- The number that a message is read as is the one that it writes between blanks. -/
theorem number?_eq_some_iff :
    number? message = some n ↔ IsNumeral (Text.trim message.toList) n := by
  rw [number?_eq]
  dsimp only
  constructor
  · intro read
    split at read
    · cases read
    · next digits =>
      split at read
      · next small =>
        cases read
        simp only [Bool.or_eq_true, Bool.not_eq_true', not_or, List.isEmpty_iff,
          Bool.not_eq_false, List.all_eq_true] at digits
        exact ⟨_, eq_or_eq_of_unsigned _, digits.1, digits.2, rfl, small⟩
      · cases read
  · rintro ⟨digits, text, some, all, rfl, small⟩
    have same : unsigned (Text.trim message.toList) = digits := by
      rcases text with text | text
      · rw [text, unsigned_of_isDigit all]
      · rw [text, unsigned]
    have allDigits : digits.all Char.isDigit = true := List.all_eq_true.mpr all
    rw [same, if_neg (by simp [some, allDigits]), if_pos small]

/-! ## Turns -/

/-- The step at which an open game waits for a guess. -/
def step (g : Guess) : Step Routine := ⟨some ttl, .guess g⟩

/-- The turn of a message. -/
def reply (g : Guess) (message : String) : Turn Routine :=
  { content := some (.text (g.turn message).1), next := (g.turn message).2.map step }

/-- A hint says on which side of the answer a guess is. -/
theorem hint_iff (apart : n ≠ answer) :
    let hint := if n < answer then "Try bigger." else "Try smaller."
    (some (Content.text hint) = some (.text "Try bigger.") ↔ n < answer) ∧
      (some (Content.text hint) = some (.text "Try smaller.") ↔ answer < n) := by
  intro hint
  by_cases low : n < answer
  · simp [hint, low, Nat.lt_asymm low]
  · have high : answer < n := Nat.lt_of_le_of_ne (Nat.not_lt.mp low) (Ne.symm apart)
    simp [hint, low, high]

theorem turn_of_unread (unread : number? message = none) :
    g.turn message = ("Please enter a number between 1 and 100.", some g) := by
  rw [turn, unread]

/-- A wrong guess is counted, and answered with a hint. -/
theorem turn_of_guess (read : number? message = some n) (apart : n ≠ g.answer) :
    g.turn message = (if n < g.answer then "Try bigger." else "Try smaller.",
      some { g with tries := g.tries + 1 }) := by
  rw [turn, read]
  dsimp only
  rcases Nat.lt_or_gt_of_ne apart with low | high
  · rw [if_pos low, if_pos low]
  · rw [if_neg (Nat.lt_asymm high), if_neg (Nat.lt_asymm high), if_pos high]

/-- The right guess closes the game. -/
theorem turn_of_answer (read : number? message = some g.answer) :
    g.turn message =
      (s!"Correct! It was {g.answer}, you needed {g.tries + 1} tries.", none) := by
  rw [turn, read]
  dsimp only
  rw [if_neg (Nat.lt_irrefl _), if_neg (Nat.lt_irrefl _)]

/-! ## Plays -/

/-- Whether a message is the answer. -/
def isHit (answer : Nat) (c : Call) : Bool := number? c.input.message == some answer

/-- How many messages are numbers. -/
def guesses (calls : List Call) : Nat := calls.countP fun c => (number? c.input.message).isSome

/-- The turns for a list of messages. -/
def turns (g : Guess) (calls : List Call) : List (Turn Routine) :=
  (Routine.feed (some g.step) calls).1

/-- The step that is left after a list of messages. -/
def next? (g : Guess) (calls : List Call) : Option (Step Routine) :=
  (Routine.feed (some g.step) calls).2

theorem feed_step_cons (g : Guess) (c : Call) (rest : List Call) :
    Routine.feed (some g.step) (c :: rest) =
      (g.reply c.input.message :: (Routine.feed (g.reply c.input.message).next rest).1,
        (Routine.feed (g.reply c.input.message).next rest).2) := rfl

theorem turns_cons (g : Guess) (c : Call) (rest : List Call) :
    g.turns (c :: rest) = g.reply c.input.message ::
      (g.turn c.input.message).2.elim [] fun g' => g'.turns rest := by
  rw [turns, feed_step_cons, reply]
  cases (g.turn c.input.message).2 with
  | none => rw [Option.map_none, Routine.feed_none]; rfl
  | some g' => rfl

theorem next?_cons (g : Guess) (c : Call) (rest : List Call) :
    g.next? (c :: rest) = (g.turn c.input.message).2.bind fun g' => g'.next? rest := by
  rw [next?, feed_step_cons, reply]
  cases (g.turn c.input.message).2 with
  | none => rw [Option.map_none, Routine.feed_none]; rfl
  | some g' => rfl

/-! ## Histories -/

theorem guesses_cons (c : Call) (rest : List Call) :
    guesses (c :: rest) =
      guesses rest + if (number? c.input.message).isSome = true then 1 else 0 :=
  List.countP_cons

/-- The game that is left after a list of messages. -/
theorem next?_eq (answer tries : Nat) (calls : List Call) :
    (Guess.mk answer tries).next? calls =
      if calls.any (isHit answer) then none else some (step ⟨answer, tries + guesses calls⟩) := by
  induction calls generalizing tries with
  | nil => rfl
  | cons c rest ih =>
    rw [next?_cons, List.any_cons, guesses_cons, isHit]
    cases read : number? c.input.message with
    | none => simp [turn_of_unread read, ih]
    | some n =>
      by_cases hit : n = answer
      · subst hit
        simp [turn_of_answer (g := ⟨n, tries⟩) read]
      · have turn := turn_of_guess (g := ⟨answer, tries⟩) read hit
        simp [turn, hit, ih, Nat.add_assoc, Nat.add_comm 1]

/-- The turn for a message goes by the message and by how many before it were numbers; there is
none after the answer. -/
theorem getElem?_turns (answer tries : Nat) (calls : List Call) (i : Nat) :
    ((Guess.mk answer tries).turns calls)[i]? =
      if (calls.take i).any (isHit answer) then none
      else calls[i]?.map fun c =>
        (Guess.mk answer (tries + guesses (calls.take i))).reply c.input.message := by
  induction calls generalizing tries i with
  | nil => simp [turns, Routine.feed]
  | cons c rest ih =>
    rw [turns_cons]
    cases i with
    | zero => simp [guesses]
    | succ i =>
      rw [List.getElem?_cons_succ, List.take_succ_cons, List.any_cons, guesses_cons, isHit,
        List.getElem?_cons_succ]
      cases read : number? c.input.message with
      | none => simp [turn_of_unread read, ih]
      | some n =>
        by_cases hit : n = answer
        · subst hit
          simp [turn_of_answer (g := ⟨n, tries⟩) read]
        · have turn := turn_of_guess (g := ⟨answer, tries⟩) read hit
          simp [turn, hit, ih, Nat.add_assoc, Nat.add_comm 1]

theorem guesses_take_le (calls : List Call) (i : Nat) : guesses (calls.take i) ≤ calls.length :=
  Nat.le_trans List.countP_le_length (List.length_take_le' i calls)

theorem guesses_take_succ {calls : List Call} {i : Nat} {c : Call} (at_ : calls[i]? = some c) :
    guesses (calls.take (i + 1)) =
      guesses (calls.take i) + if (number? c.input.message).isSome = true then 1 else 0 := by
  rw [List.take_add_one, at_, guesses, List.countP_append, ← guesses, Option.toList_some,
    List.countP_singleton]

theorem any_isHit_iff {calls : List Call} :
    calls.any (isHit answer) = true ↔ ∃ c ∈ calls, number? c.input.message = some answer := by
  simp only [List.any_eq_true, isHit, beq_iff_eq]

theorem length_turns_le (answer tries : Nat) (calls : List Call) :
    ((Guess.mk answer tries).turns calls).length ≤ calls.length := by
  have beyond := getElem?_turns answer tries calls calls.length
  rw [List.getElem?_eq_none (Nat.le_refl _), Option.map_none, ite_self] at beyond
  exact List.getElem?_eq_none_iff.mp beyond

/-- A message is a number if it writes one of 32 bits between blanks. Of messages whose number has
32 bits: the game is open after them as long as none was the answer, and it takes none after the
answer. Whatever is no number changes nothing. Any other number is answered with a hint and counted.
The answer is answered with the count of the numbers up to it, and leaves no game. Every game that
is left waits for two minutes, and counts with 32 bits. -/
theorem games_close_with_the_answer (answer : Nat) (calls : List Call)
    (few : calls.length ≤ numberMax) :
    let game : Guess := { answer }
    (∀ message n, number? message = some n ↔ IsNumeral (Text.trim message.toList) n) ∧
    ((game.next? calls).isSome = true ↔ ∀ c ∈ calls, number? c.input.message ≠ some answer) ∧
    (∀ left, game.next? calls = some left →
      left = ⟨some 120000, .guess ⟨answer, guesses calls⟩⟩ ∧ guesses calls ≤ numberMax) ∧
    (game.turns calls).length ≤ calls.length ∧
    ∀ i c, calls[i]? = some c →
      let before := guesses (calls.take i)
      let tries := guesses (calls.take (i + 1))
      ((game.turns calls)[i]? = none ↔
        ∃ c' ∈ calls.take i, number? c'.input.message = some answer) ∧
      tries ≤ numberMax ∧
      ∀ turn, (game.turns calls)[i]? = some turn →
        (number? c.input.message = none →
          turn = ⟨some (.text "Please enter a number between 1 and 100."),
            some ⟨some 120000, .guess ⟨answer, before⟩⟩⟩ ∧ tries = before) ∧
        (∀ n, number? c.input.message = some n → n ≠ answer →
          (turn.content = some (.text "Try bigger.") ↔ n < answer) ∧
          (turn.content = some (.text "Try smaller.") ↔ answer < n) ∧
          turn.next = some ⟨some 120000, .guess ⟨answer, tries⟩⟩ ∧ tries = before + 1) ∧
        (number? c.input.message = some answer →
          turn = ⟨some (.text s!"Correct! It was {answer}, you needed {tries} tries."), none⟩ ∧
            tries = before + 1) := by
  intro game
  have counted : ∀ i, guesses (calls.take i) ≤ numberMax :=
    fun i => Nat.le_trans (guesses_take_le calls i) few
  have left : game.next? calls =
      if calls.any (isHit answer) then none else some (step ⟨answer, guesses calls⟩) := by
    rw [next?_eq, Nat.zero_add]
  refine ⟨fun _ _ => number?_eq_some_iff, ?_, ?_, length_turns_le answer 0 calls,
    fun i c at_ => ⟨?_, counted (i + 1), fun turn given => ?_⟩⟩
  · rw [left]
    by_cases hit : calls.any (isHit answer) = true
    · obtain ⟨c, hc, found⟩ := any_isHit_iff.mp hit
      rw [if_pos hit]
      exact ⟨fun some => (Bool.false_ne_true some).elim, fun none => absurd found (none c hc)⟩
    · rw [if_neg hit]
      exact ⟨fun _ c hc found => hit (any_isHit_iff.mpr ⟨c, hc, found⟩), fun _ => rfl⟩
  · intro step remains
    rw [left] at remains
    split at remains
    · cases remains
    · cases remains
      exact ⟨rfl, Nat.le_trans List.countP_le_length few⟩
  · rw [getElem?_turns, at_, ← any_isHit_iff]
    split
    · next hit => exact ⟨fun _ => hit, fun _ => rfl⟩
    · next goesOn =>
      exact ⟨fun none => (Option.some_ne_none _ none).elim, fun hit => absurd hit goesOn⟩
  · rw [getElem?_turns, at_, Nat.zero_add] at given
    split at given
    · cases given
    · cases given
      dsimp only
      rw [guesses_take_succ at_, reply]
      refine ⟨fun unread => ?_, fun n read apart => ?_, fun read => ?_⟩
      · rw [turn_of_unread unread, unread]
        exact ⟨rfl, rfl⟩
      · obtain ⟨bigger, smaller⟩ := hint_iff apart
        rw [turn_of_guess read apart, read]
        exact ⟨bigger, smaller, rfl, rfl⟩
      · rw [turn_of_answer read, read]
        exact ⟨rfl, rfl⟩

end Guess

/-- The command opens a game with a number between 1 and 100. -/
theorem Bundled.exists_game_of_guess (bot : BotType) (source : Source) (files : FileTree) :
    ∃ command, (Bundled.guess bot).build source files = .ok command ∧
      ∀ c, ∃ answer, 1 ≤ answer ∧ answer ≤ 100 ∧
        (command.run c).outcome = .done
          { content := some (.text Guess.opening), next := some (Guess.step { answer }) } := by
  refine ⟨_, rfl, fun c => ⟨c.clock.nanos % 100 + 1, Nat.le_add_left .., ?_, rfl⟩⟩
  exact Nat.mod_lt _ (by decide)

/-! ## A play -/

namespace GuessingPlay

def call (message : String) : Call where
  botType := ⟨"console"⟩
  input := { sender := "ann", message, replyTo := ⟨"ann"⟩ }
  clock := default

/-- A number with a sign and blanks, two messages that are no numbers of 32 bits, a number that is
too large, the answer, and the answer once more. -/
def calls : List Call := [" +7\t", "-42", "4294967296", "99", "042", "42"].map call

/-- The answer comes with the third number, and what follows is not taken. -/
theorem third_number_closes_game :
    let game : Guess := { answer := 42 }
    calls.length ≤ Guess.numberMax ∧ game.next? calls = none ∧
    (game.turns calls)[3]? =
      some ⟨some (.text "Try smaller."), some ⟨some 120000, .guess ⟨42, 2⟩⟩⟩ ∧
    (game.turns calls)[4]? =
      some ⟨some (.text "Correct! It was 42, you needed 3 tries."), none⟩ ∧
    (game.turns calls)[5]? = none := by
  intro game
  have few : calls.length ≤ Guess.numberMax := by decide
  obtain ⟨-, open_, -, -, each⟩ := Guess.games_close_with_the_answer 42 calls few
  obtain ⟨taken, -, fourth⟩ := each 3 (call "99") rfl
  obtain ⟨taken', -, fifth⟩ := each 4 (call "042") rfl
  obtain ⟨taken'', -⟩ := each 5 (call "42") rfl
  refine ⟨few, ?_, ?_, ?_, taken''.mpr (by decide)⟩
  · by_contra some
    have never := open_.mp (Option.isSome_iff_ne_none.mpr some)
    exact never (call "042") (List.mem_map_of_mem (by decide)) (by decide)
  · obtain ⟨⟨content, next⟩, found⟩ :=
      Option.ne_none_iff_exists'.mp (mt taken.mp (by decide))
    obtain ⟨-, smaller, left, -⟩ := (fourth _ found).2.1 99 (by decide) (by decide)
    obtain rfl : content = _ := smaller.mpr (by decide)
    obtain rfl : next = _ := left
    exact found
  · obtain ⟨turn, found⟩ := Option.ne_none_iff_exists'.mp (mt taken'.mp (by decide))
    rw [found, ((fifth _ found).2.2 (by decide)).1]
    rfl

end GuessingPlay

end Switchboard
