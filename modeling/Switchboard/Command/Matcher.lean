import Switchboard.Message
import Switchboard.Pattern.Match
import Switchboard.Text.Quoted

/-!
# Matchers

A matcher decides whether a command takes an input: by the first word of the message, by a pattern
that occurs in it, or by any predicate on inputs. A predicate may panic instead.
-/

namespace Switchboard

/-- Decides whether a command takes an input. -/
inductive Matcher where
  /-- The first word of the message is this one. -/
  | word (w : String)
  /-- The pattern occurs in the message. -/
  | pattern (source : String) (p : Pattern)
  | predicate (answer : Input → Except String Bool)
  deriving Inhabited

namespace Matcher

/-- Whether a matcher takes an input; an error is the message of a panic. -/
def answer : Matcher → Input → Except String Bool
  | word w, i => .ok (i.afterWord? w).isSome
  | pattern _ p, i => .ok (p.occursIn i.message)
  | predicate f, i => f i

/-- Whether a matcher takes an input without a panic. -/
def accepts (m : Matcher) (i : Input) : Bool := (m.answer i).toOption.getD false

/-- The text of a matcher for people who read logs. -/
def describe : Matcher → String
  | word w => s!"Prefix({Text.quoted w})"
  | pattern source _ => s!"Pattern({Text.quoted source})"
  | predicate _ => "Func(..)"

end Matcher

end Switchboard
