/-!
# Log lines

What is told to the people who run the program.
-/

namespace Switchboard

inductive Severity where
  | info
  | warning
  | failure
  deriving DecidableEq, Repr, Inhabited

def Severity.label : Severity → String
  | .info => "INFO"
  | .warning => "WARN"
  | .failure => "ERROR"

/-- A line of the log. -/
structure LogLine where
  severity : Severity
  text : String
  deriving DecidableEq, Repr, Inhabited

namespace LogLine

def warning (text : String) : LogLine := ⟨.warning, text⟩

def failure (text : String) : LogLine := ⟨.failure, text⟩

def render (l : LogLine) : String := l.severity.label ++ " " ++ l.text

end LogLine

end Switchboard
