/-!
# The command line

What may be said on the command line: where the settings are, whether to tell more, and how often
the metrics are logged.
-/

namespace Switchboard

/-- The options of a run. -/
structure CommandLine where
  config : String := "config/switchboard.yaml"
  /-- Log more than warnings. -/
  verbose : Bool := false
  /-- Seconds between reports of the metrics; zero turns them off. -/
  reportSeconds : Nat := 60
  deriving DecidableEq, Repr, Inhabited

/-- Why a command line is refused. -/
inductive UsageError where
  | unknown (word : String)
  | valueMissing (option : String)
  | invalidNumber (option value : String)
  deriving DecidableEq, Repr, Inhabited

def UsageError.message : UsageError → String
  | .unknown w => s!"unexpected argument '{w}'"
  | .valueMissing o => s!"a value is required for '{o}'"
  | .invalidNumber o v => s!"invalid value '{v}' for '{o}'"

namespace CommandLine

/-- The options that words say; an option that is said again replaces the earlier one. -/
def parse (c : CommandLine) : List String → Except UsageError CommandLine
  | [] => .ok c
  | "-v" :: rest => parse { c with verbose := true } rest
  | "--verbose" :: rest => parse { c with verbose := true } rest
  | "--config" :: path :: rest => parse { c with config := path } rest
  | "--metrics-interval-secs" :: n :: rest =>
    match n.toNat? with
    | some seconds => parse { c with reportSeconds := seconds } rest
    | none => .error (.invalidNumber "--metrics-interval-secs" n)
  | ["--config"] => .error (.valueMissing "--config")
  | ["--metrics-interval-secs"] => .error (.valueMissing "--metrics-interval-secs")
  | word :: _ => .error (.unknown word)

/-- The report interval in milliseconds. -/
def reportPeriod (c : CommandLine) : Nat := c.reportSeconds * 1000

end CommandLine

end Switchboard
