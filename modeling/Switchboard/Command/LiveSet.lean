import Switchboard.Command.Template

/-!
# Live commands

The live commands of one bot type, in order. An input goes to the first whose matcher accepts it,
unless a matcher panics before (`LiveSet.search_spec`).
-/

namespace Switchboard

/-- The live commands of a bot type. -/
structure LiveSet (κ : Type) where
  botType : BotType
  commands : List (Command κ) := []

namespace LiveSet

variable {κ : Type}

/-- Looks for the first command that takes an input. A matcher that panics ends the search. -/
def search (s : LiveSet κ) (i : Input) : Except String (Option (Command κ)) :=
  s.commands.findM? fun c => c.matcher.answer i

/-- The first command that takes an input, if no matcher panics before. -/
def find? (s : LiveSet κ) (i : Input) : Option (Command κ) := (s.search i).toOption.join

theorem search_cons (bot : BotType) (c : Command κ) (rest : List (Command κ)) (i : Input) :
    (⟨bot, c :: rest⟩ : LiveSet κ).search i =
      match c.matcher.answer i with
      | .error m => .error m
      | .ok true => .ok (some c)
      | .ok false => (⟨bot, rest⟩ : LiveSet κ).search i := by
  show (c.matcher.answer i >>= _) = _
  cases c.matcher.answer i with
  | error m => rfl
  | ok takes => cases takes <;> rfl

/-- A search passes the commands whose matchers refuse the input, and what comes of it is said by
the matcher of the next. -/
theorem search_spec (s : LiveSet κ) (i : Input) :
    (∀ c ∈ s.commands, c.matcher.answer i = .ok false) ∧ s.search i = .ok none ∨
      ∃ front c back, s.commands = front ++ c :: back ∧
        (∀ d ∈ front, d.matcher.answer i = .ok false) ∧
        (c.matcher.answer i = .ok true ∧ s.search i = .ok (some c) ∨
          ∃ m, c.matcher.answer i = .error m ∧ s.search i = .error m) := by
  obtain ⟨bot, commands⟩ := s
  induction commands with
  | nil => exact .inl ⟨nofun, rfl⟩
  | cons c rest ih =>
    rw [search_cons]
    cases answer : c.matcher.answer i with
    | error m => exact .inr ⟨[], c, rest, rfl, nofun, .inr ⟨m, answer, rfl⟩⟩
    | ok takes =>
      cases takes with
      | true => exact .inr ⟨[], c, rest, rfl, nofun, .inl ⟨answer, rfl⟩⟩
      | false =>
        rcases ih with ⟨refused, none⟩ | ⟨front, d, back, split, passed, found⟩
        · exact .inl ⟨List.forall_mem_cons.mpr ⟨answer, refused⟩, none⟩
        · exact .inr ⟨c :: front, d, back, congrArg (c :: ·) split,
            List.forall_mem_cons.mpr ⟨answer, passed⟩, found⟩

theorem mem_of_search {s : LiveSet κ} {i : Input} {c : Command κ}
    (found : s.search i = .ok (some c)) : c ∈ s.commands := by
  rcases s.search_spec i with ⟨-, none⟩ | ⟨front, d, back, split, -, ⟨-, here⟩ | ⟨m, -, broken⟩⟩
  · cases none.symm.trans found
  · cases here.symm.trans found
    exact split ▸ List.mem_append_right _ List.mem_cons_self
  · cases broken.symm.trans found

/-- Where no matcher panics, a search finds the first command that takes the input. -/
theorem search_of_calm {s : LiveSet κ} {i : Input}
    (calm : ∀ c ∈ s.commands, ∀ m, c.matcher.answer i ≠ .error m) :
    s.search i = .ok (s.commands.find? fun c => c.matcher.accepts i) := by
  obtain ⟨bot, commands⟩ := s
  induction commands with
  | nil => rfl
  | cons c rest ih =>
    obtain ⟨here, later⟩ := List.forall_mem_cons.mp calm
    rw [search_cons, List.find?_cons, Matcher.accepts]
    cases answer : c.matcher.answer i with
    | error m => exact absurd answer (here m)
    | ok takes =>
      cases takes with
      | true => rfl
      | false => exact ih later

/-- The identifiers of the commands, in order. -/
def identifiers (s : LiveSet κ) : List String := s.commands.map Command.identifier

/-- The help listing: the commands that have an instruction. -/
def help (s : LiveSet κ) : List HelpEntry :=
  (s.commands.filter fun c => !c.instruction.isEmpty).map fun c => ⟨c.identifier, c.instruction⟩

/-- Adds a command behind all others. -/
def push (s : LiveSet κ) (c : Command κ) : LiveSet κ := { s with commands := s.commands ++ [c] }

/-- Puts a command in the place of those with its identifier. -/
def replace (s : LiveSet κ) (c : Command κ) : LiveSet κ :=
  { s with commands := s.commands.map fun d => if d.identifier = c.identifier then c else d }

/-- Removes the commands with an identifier. -/
def remove (s : LiveSet κ) (identifier : String) : LiveSet κ :=
  { s with commands := s.commands.filter fun d => d.identifier ≠ identifier }

/-- The same commands in the opposite order. -/
def reverse (s : LiveSet κ) : LiveSet κ := { s with commands := s.commands.reverse }

/-- The text of the set for people who read logs. -/
def describe (s : LiveSet κ) : String :=
  "CommandSet \x7b bot_type: " ++ s.botType.describe ++ ", commands: [" ++
    ", ".intercalate (s.identifiers.map Text.quoted) ++ "] \x7d"

end LiveSet

end Switchboard
