/-!
# White space

The 25 characters of the Unicode property White_Space, and trimming by them. `trimStart` and
`trimEnd` drop the maximal blank run at one end; `trim` does both. `stripPrefix?` takes a fixed
text off the front.
-/

namespace Switchboard.Text

/-- The Unicode property White_Space. -/
def isBlank (c : Char) : Bool :=
  let n := c.toNat
  (0x09 ≤ n && n ≤ 0x0D) || n == 0x20 || n == 0x85 || n == 0xA0 || n == 0x1680 ||
    (0x2000 ≤ n && n ≤ 0x200A) || n == 0x2028 || n == 0x2029 || n == 0x202F || n == 0x205F ||
    n == 0x3000

/-- Drops the blanks in front. -/
def trimStart (s : List Char) : List Char := s.dropWhile isBlank

/-- Drops the blanks at the end. -/
def trimEnd (s : List Char) : List Char := (s.reverse.dropWhile isBlank).reverse

/-- Drops the blanks at both ends. -/
def trim (s : List Char) : List Char := trimEnd (trimStart s)

/-- What trimming leaves does not start with a blank. -/
theorem head_trimStart {s r : List Char} {c : Char} (h : trimStart s = c :: r) :
    isBlank c = false := by
  induction s with
  | nil => simp [trimStart] at h
  | cons a s ih =>
    rw [trimStart, List.dropWhile_cons] at h
    by_cases ha : isBlank a = true
    · rw [if_pos ha] at h
      exact ih h
    · rw [if_neg ha] at h
      injection h with h1 _
      subst h1
      simpa using ha

/-- `trim` on a whole text. -/
def trimmed (s : String) : String := String.ofList (trim s.toList)

/-- The text after `p`, if the text starts with `p`. -/
def stripPrefix? (p s : List Char) : Option (List Char) := p.isPrefixOf? s

/-- Whether a text holds nothing but white space. -/
def isBlankText (s : String) : Bool := s.toList.all isBlank

/-- Whether `needle` occurs somewhere in `hay`. -/
def occursIn (needle : List Char) : List Char → Bool
  | [] => needle.isEmpty
  | c :: rest => needle.isPrefixOf (c :: rest) || occursIn needle rest

end Switchboard.Text
