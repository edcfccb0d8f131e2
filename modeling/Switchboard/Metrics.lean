import Switchboard.Table

/-!
# Metrics

Counters, gauges and durations, kept by series key: the name, and the labels in the order of their
keys. Sums stop at the largest unsigned word of 64 bits.
-/

namespace Switchboard

/-- Label keys with their values. -/
abbrev Labels := List (String × String)

namespace Metrics

/-- The largest value of a counter. -/
def limit : Nat := 0xFFFFFFFFFFFFFFFF

/-- Addition that stops at the limit. -/
def saturatingAdd (a b : Nat) : Nat := min limit (a + b)

/-- Labels in the order of their keys; labels of one key stay in their order. -/
def sortLabels (labels : Labels) : Labels := labels.mergeSort fun a b => !(b.1 < a.1)

/-- The key of a series: the name, then the labels in the order of their keys. -/
def seriesKey (name : String) (labels : Labels) : String :=
  if labels.isEmpty then name
  else
    name ++ "\x7b" ++
      ",".intercalate ((sortLabels labels).map fun l => l.1 ++ "=" ++ l.2) ++ "\x7d"

/-- What is kept of a series of durations. -/
structure Durations where
  count : Nat := 0
  sum : Nat := 0
  max : Nat := 0
  deriving DecidableEq, Repr, Inhabited

namespace Durations

/-- Adds an observation of `ms` milliseconds. -/
def record (d : Durations) (ms : Nat) : Durations :=
  ⟨saturatingAdd d.count 1, saturatingAdd d.sum ms, Nat.max d.max ms⟩

/-- The mean, rounded down; zero without observations. -/
def mean (d : Durations) : Nat := d.sum / d.count

end Durations

end Metrics

/-- All series, by key. -/
structure Metrics where
  counters : Table Nat := []
  gauges : Table Nat := []
  durations : Table Metrics.Durations := []
  deriving Repr, Inhabited

namespace Metrics

/-- Adds to a counter, which starts at zero. -/
def increment (m : Metrics) (name : String) (value : Nat) (labels : Labels := []) : Metrics :=
  { m with
    counters := Table.update (seriesKey name labels)
      (fun old => saturatingAdd (old.getD 0) value) m.counters }

/-- Records a duration. -/
def observe (m : Metrics) (name : String) (ms : Nat) (labels : Labels := []) : Metrics :=
  { m with
    durations := Table.update (seriesKey name labels)
      (fun old => (old.getD {}).record ms) m.durations }

/-- Sets a gauge. -/
def setGauge (m : Metrics) (name : String) (value : Nat) (labels : Labels := []) : Metrics :=
  { m with gauges := Table.insert (seriesKey name labels) value m.gauges }

def counter (m : Metrics) (name : String) (labels : Labels := []) : Nat :=
  (Table.find? (seriesKey name labels) m.counters).getD 0

def gauge? (m : Metrics) (name : String) (labels : Labels := []) : Option Nat :=
  Table.find? (seriesKey name labels) m.gauges

def duration? (m : Metrics) (name : String) (labels : Labels := []) : Option Durations :=
  Table.find? (seriesKey name labels) m.durations

def isEmpty (m : Metrics) : Bool :=
  m.counters.isEmpty && m.gauges.isEmpty && m.durations.isEmpty

/-- The lines that a periodic report writes; none when nothing has been recorded. -/
def reportLines (m : Metrics) : List String :=
  (m.counters.map fun e => s!"counter {e.1} = {e.2}") ++
    (m.gauges.map fun e => s!"gauge {e.1} = {e.2}") ++
    m.durations.map fun e =>
      s!"duration {e.1} count={e.2.count} mean_ms={e.2.mean} max_ms={e.2.max}"

end Metrics

end Switchboard
