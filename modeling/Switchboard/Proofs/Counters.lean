import Switchboard.Proofs.SortedTables
import Switchboard.Runner.Actors

/-!
# What counters add up to

A runner books what it counts: an input, the end of an execution, a panic, a firing, the length of
the queue (`Record`). All series of one name together are their `Metrics.total`; as long as no
counter has come to its limit, the total of a name is the number of records that count under it
(`total_foldl_book`).

Under each set of labels as many durations as executions are booked, and no more failures
(`isEven_foldl_book`), whether or not counters have come to their limit.
-/

namespace Switchboard

namespace Table

/-- The sum of the values whose keys are selected. -/
def total (p : String → Bool) : Table Nat → Nat
  | [] => 0
  | (k, v) :: rest => (if p k then v else 0) + total p rest

/-- An insertion adds its value to the sum and takes away the one in its place. -/
theorem IsSorted.total_insert {t : Table Nat} (h : t.IsSorted) (p : String → Bool) (key : String)
    (value : Nat) :
    total p (Table.insert key value t) + (if p key then (find? key t).getD 0 else 0) =
      total p t + if p key then value else 0 := by
  induction t with
  | nil => simp [Table.insert, total]
  | cons d rest ih =>
    obtain ⟨k, v⟩ := d
    obtain ⟨before, rest_sorted⟩ := List.pairwise_cons.mp h
    rw [Table.insert]
    split
    · next same =>
      subst same
      simp only [total, find?, if_true, Option.getD_some]
      omega
    · next apart =>
      split
      · next sooner =>
        have absent : find? key ((k, v) :: rest) = none := by
          refine find?_eq_none_of_lt fun e he => ?_
          rcases List.mem_cons.mp he with rfl | later
          · exact sooner
          · exact sooner.trans (before e later)
        rw [absent]
        simp only [total, Option.getD_none, ite_self]
        omega
      · rw [find?, if_neg apart, total, total]
        have := ih rest_sorted
        omega

end Table

namespace Metrics

variable {m : Metrics} {name other : String} {labels : Labels}

/-! ## Series of a name -/

/-- The name of a series: what is in front of its labels. -/
def seriesName (key : String) : String := .ofList (key.toList.takeWhile (· ≠ '\x7b'))

/-- All counters of a name together. -/
def total (m : Metrics) (name : String) : Nat :=
  m.counters.total fun key => seriesName key == name

/-- A name that does not look like one with labels. -/
def IsPlain (name : String) : Prop := '\x7b' ∉ name.toList

instance : Decidable (IsPlain name) := inferInstanceAs (Decidable (_ ∉ _))

/-- A series key is a name followed by what the labels make of no name. -/
theorem seriesKey_eq (name : String) (labels : Labels) :
    seriesKey name labels = name ++ seriesKey "" labels := by
  unfold seriesKey
  split
  · rw [String.append_empty]
  · simp only [String.empty_append, String.append_assoc]

theorem seriesKey_eq_iff (name : String) {labels' : Labels} :
    seriesKey name labels = seriesKey name labels' ↔
      seriesKey "" labels = seriesKey "" labels' := by
  rw [seriesKey_eq name labels, seriesKey_eq name labels']
  simp [← String.toList_inj]

theorem seriesName_seriesKey (plain : IsPlain name) :
    seriesName (seriesKey name labels) = name := by
  have inside : ∀ c ∈ name.toList, decide (c ≠ '\x7b') = true := fun c hc => by
    simpa using fun same : c = '\x7b' => plain (same ▸ hc)
  unfold seriesName seriesKey
  split
  · rw [← List.append_nil name.toList, List.takeWhile_append_of_pos inside, List.takeWhile_nil,
      List.append_nil, String.ofList_toList]
  · simp only [String.toList_append, List.append_assoc]
    rw [List.takeWhile_append_of_pos inside]
    simp

theorem seriesKey_ne (plain : IsPlain name) (plain' : IsPlain other) (apart : name ≠ other)
    (labels labels' : Labels) : seriesKey name labels ≠ seriesKey other labels' := by
  intro same
  have names := congrArg seriesName same
  rw [seriesName_seriesKey plain, seriesName_seriesKey plain'] at names
  exact apart names

/-! ## Counting by one -/

/-- No counter has come to its limit. -/
def IsLow (m : Metrics) : Prop := ∀ e ∈ m.counters, e.2 < limit

/-- No counter is above a bound. -/
def IsWithin (m : Metrics) (bound : Nat) : Prop := ∀ e ∈ m.counters, e.2 ≤ bound

theorem counters_increment (m : Metrics) (name : String) (labels : Labels) :
    (m.increment name 1 labels).counters =
      Table.insert (seriesKey name labels) (min limit (m.counter name labels + 1)) m.counters := rfl

/-- A counter that is not at its limit was not at it before. -/
theorem IsLow.of_increment (sorted : m.counters.IsSorted)
    (low : (m.increment name 1 labels).IsLow) : m.IsLow ∧ m.counter name labels + 1 < limit := by
  rw [IsLow, counters_increment] at low
  have here : m.counter name labels + 1 < limit := by
    have := low _ (Table.mem_of_find? (Table.find?_insert_self ..))
    dsimp only at this
    omega
  refine ⟨fun e he => ?_, here⟩
  have found := sorted.find?_of_mem he
  by_cases same : e.1 = seriesKey name labels
  · rw [counter, ← same, found, Option.getD_some] at here
    omega
  · exact low e (Table.mem_of_find? ((Table.find?_insert_of_ne same ..).trans found))

/-- Below its limit a counter counts for its name, and for no other. -/
theorem total_increment (sorted : m.counters.IsSorted) (plain : IsPlain name)
    (low : m.counter name labels + 1 < limit) :
    (m.increment name 1 labels).total other = m.total other + if name = other then 1 else 0 := by
  have sum := sorted.total_insert (fun key => seriesName key == other) (seriesKey name labels)
    (min limit (m.counter name labels + 1))
  rw [Nat.min_eq_right low.le] at sum
  rw [total, counters_increment, Nat.min_eq_right low.le, total]
  simp only [seriesName_seriesKey plain, beq_iff_eq] at sum
  by_cases same : name = other
  · simp only [same, if_true, counter] at sum ⊢
    omega
  · simpa [same] using sum

theorem isSorted_increment (sorted : m.counters.IsSorted) (name : String) (labels : Labels) :
    (m.increment name 1 labels).counters.IsSorted :=
  sorted.insert ..

theorem IsWithin.increment {bound : Nat} (h : m.IsWithin bound) (name : String) (labels : Labels) :
    (m.increment name 1 labels).IsWithin (bound + 1) := by
  have here : m.counter name labels ≤ bound := by
    rw [counter]
    cases found : Table.find? (seriesKey name labels) m.counters with
    | none => exact Nat.zero_le _
    | some value => exact h _ (Table.mem_of_find? found)
  intro e he
  rw [counters_increment] at he
  rcases Table.mem_or_of_mem_insert he with rfl | old
  · exact (Nat.min_le_right ..).trans (Nat.succ_le_succ here)
  · exact (h e old).trans bound.le_succ

end Metrics

/-! ## Records -/

/-- What a runner counts. -/
inductive Record where
  | input (bot : BotType)
  /-- An execution of a command or a step has ended. -/
  | execution (bot : BotType) (label : String) (ms : Nat) (failed : Bool)
  | panic
  | firing (task : String)
  | queueLength (n : Nat)

namespace Record

/-- The counter that a record counts under. Failures are counted next to executions. -/
def counter? : Record → Option String
  | input _ => some Runner.inputCounter
  | execution .. => some Runner.executionCounter
  | panic => some Pool.panicCounter
  | firing _ => some Runner.firingCounter
  | queueLength _ => none

/-- Whether a record counts under a name. -/
def counts (name : String) (r : Record) : Bool := r.counter? == some name

end Record

namespace Metrics

variable {m : Metrics} {name other : String} {labels : Labels} {r : Record}

/-- Counts an execution with its duration. -/
def execute (m : Metrics) (labels : Labels) (ms : Nat) : Metrics :=
  (m.increment Runner.executionCounter 1 labels).observe Runner.executionDuration ms labels

/-- Books a record. -/
def book (m : Metrics) : Record → Metrics
  | .input bot => m.increment Runner.inputCounter 1 (Runner.botLabels bot)
  | .execution bot label ms failed =>
    let labels := Runner.commandLabels bot label
    if failed then (m.execute labels ms).increment Runner.failureCounter 1 labels
    else m.execute labels ms
  | .panic => m.increment Pool.panicCounter 1
  | .firing task => m.increment Runner.firingCounter 1 [("task", task)]
  | .queueLength n => m.setGauge Pool.lengthGauge n

theorem isSorted_book (sorted : m.counters.IsSorted) (r : Record) :
    (m.book r).counters.IsSorted := by
  cases r with
  | input bot => exact isSorted_increment sorted ..
  | execution bot label ms failed =>
    have executed := isSorted_increment sorted Runner.executionCounter
      (Runner.commandLabels bot label)
    cases failed with
    | false => exact executed
    | true => exact isSorted_increment executed ..
  | panic => exact isSorted_increment sorted ..
  | firing task => exact isSorted_increment sorted ..
  | queueLength n => exact sorted

theorem IsLow.of_book (sorted : m.counters.IsSorted) (low : (m.book r).IsLow) : m.IsLow := by
  cases r with
  | input bot => exact (low.of_increment sorted).1
  | execution bot label ms failed =>
    have executed : (m.execute (Runner.commandLabels bot label) ms).IsLow := by
      cases failed with
      | false => exact low
      | true => exact (low.of_increment (isSorted_increment sorted ..)).1
    exact (executed.of_increment sorted).1
  | panic => exact (low.of_increment sorted).1
  | firing task => exact (low.of_increment sorted).1
  | queueLength n => exact low

/-- A record counts for the name that it counts under. Failures are counted under a name of their
own. -/
theorem total_book (sorted : m.counters.IsSorted) (low : (m.book r).IsLow)
    (h : Runner.failureCounter ≠ name) :
    (m.book r).total name = m.total name + if r.counts name then 1 else 0 := by
  have once : ∀ {counted : String} {labels : Labels}, IsPlain counted →
      (m.increment counted 1 labels).IsLow →
      (m.increment counted 1 labels).total name =
        m.total name + if some counted == some name then 1 else 0 := by
    intro counted labels plain low
    rw [total_increment sorted plain (low.of_increment sorted).2]
    simp
  cases r with
  | input bot => exact once (by decide) low
  | panic => exact once (by decide) low
  | firing task => exact once (by decide) low
  | queueLength n => rfl
  | execution bot label ms failed =>
    cases failed with
    | false => exact once (by decide) low
    | true =>
      have executed := isSorted_increment sorted Runner.executionCounter
        (Runner.commandLabels bot label)
      obtain ⟨before, below⟩ := low.of_increment executed
      refine (total_increment executed (by decide) below).trans ?_
      rw [if_neg h]
      exact once (by decide) before

theorem IsLow.of_foldl_book (sorted : m.counters.IsSorted) {records : List Record}
    (low : (records.foldl book m).IsLow) : m.IsLow := by
  induction records generalizing m with
  | nil => exact low
  | cons r rest ih => exact (ih (isSorted_book sorted r) low).of_book sorted

/-- Counters count. As long as no counter has come to its limit, the series of a name grow by the
number of records that count under it. -/
theorem total_foldl_book (sorted : m.counters.IsSorted) (records : List Record)
    (h : Runner.failureCounter ≠ name) (low : (records.foldl book m).IsLow) :
    (records.foldl book m).total name = m.total name + records.countP (Record.counts name) := by
  induction records generalizing m with
  | nil => rfl
  | cons r rest ih =>
    have booked := isSorted_book sorted r
    rw [List.foldl_cons, ih booked low,
      total_book sorted (IsLow.of_foldl_book booked low) h, List.countP_cons]
    omega

/-- A record counts under two names at most. -/
theorem IsWithin.book {bound : Nat} (h : m.IsWithin bound) (r : Record) :
    (m.book r).IsWithin (bound + 2) := by
  have once : ∀ {m : Metrics}, m.IsWithin (bound + 1) → m.IsWithin (bound + 2) :=
    fun h e he => (h e he).trans (bound + 1).le_succ
  cases r with
  | execution bot label ms failed =>
    have executed := h.increment Runner.executionCounter (Runner.commandLabels bot label)
    cases failed with
    | false => exact once executed
    | true => exact executed.increment _ _
  | queueLength n => exact fun e he => (h e he).trans (Nat.le_add_right ..)
  | _ => exact once (h.increment _ _)

theorem isWithin_foldl_book {bound : Nat} (h : m.IsWithin bound) (records : List Record) :
    (records.foldl book m).IsWithin (bound + 2 * records.length) := by
  induction records generalizing m bound with
  | nil => exact h
  | cons r rest ih =>
    refine fun e he => (ih (h.book r) e he).trans ?_
    rw [List.length_cons]
    omega

/-! ## Executions -/

theorem counter_increment_self (m : Metrics) (name : String) (labels labels' : Labels) :
    (m.increment name 1 labels).counter name labels' =
      if seriesKey "" labels' = seriesKey "" labels then min limit (m.counter name labels' + 1)
      else m.counter name labels' := by
  rw [counter, counters_increment, Table.find?_insert]
  by_cases same : seriesKey name labels' = seriesKey name labels
  · rw [if_pos same, if_pos ((seriesKey_eq_iff name).mp same), counter, counter, same]
    rfl
  · rw [if_neg same, if_neg (mt (seriesKey_eq_iff name).mpr same), counter]

theorem counter_increment_other (plain : IsPlain name) (plain' : IsPlain other)
    (apart : other ≠ name) (labels labels' : Labels) :
    (m.increment name 1 labels).counter other labels' = m.counter other labels' := by
  rw [counter, counters_increment,
    Table.find?_insert_of_ne (seriesKey_ne plain' plain apart labels' labels), counter]

theorem duration?_increment (m : Metrics) (name other : String) (labels labels' : Labels) :
    (m.increment name 1 labels).duration? other labels' = m.duration? other labels' := rfl

theorem duration?_observe_self (m : Metrics) (name : String) (ms : Nat) (labels labels' : Labels) :
    (m.observe name ms labels).duration? name labels' =
      if seriesKey "" labels' = seriesKey "" labels
      then some (((m.duration? name labels').getD {}).record ms)
      else m.duration? name labels' := by
  rw [duration?, observe, Table.find?_update]
  by_cases same : seriesKey name labels' = seriesKey name labels
  · rw [if_pos same, if_pos ((seriesKey_eq_iff name).mp same), duration?, same]
  · rw [if_neg same, if_neg (mt (seriesKey_eq_iff name).mpr same), duration?]

theorem count_observe_self (m : Metrics) (name : String) (ms : Nat) (labels labels' : Labels) :
    (((m.observe name ms labels).duration? name labels').getD {}).count =
      if seriesKey "" labels' = seriesKey "" labels
      then min limit (((m.duration? name labels').getD {}).count + 1)
      else ((m.duration? name labels').getD {}).count := by
  rw [duration?_observe_self]
  split <;> rfl

/-- Under each set of labels there are as many durations as executions, and at most as many
failures. -/
structure IsEven (m : Metrics) : Prop where
  durations : ∀ labels, ((m.duration? Runner.executionDuration labels).getD {}).count =
    m.counter Runner.executionCounter labels
  failures : ∀ labels,
    m.counter Runner.failureCounter labels ≤ m.counter Runner.executionCounter labels
  bounded : ∀ labels, m.counter Runner.failureCounter labels ≤ limit

/-- Counting something else does not matter. -/
theorem IsEven.increment (even : m.IsEven) (plain : IsPlain name)
    (executions : Runner.executionCounter ≠ name) (failures : Runner.failureCounter ≠ name)
    (labels : Labels) : (m.increment name 1 labels).IsEven where
  durations := by
    intro labels'
    rw [duration?_increment, counter_increment_other plain (by decide) executions]
    exact even.durations labels'
  failures := by
    intro labels'
    rw [counter_increment_other plain (by decide) executions,
      counter_increment_other plain (by decide) failures]
    exact even.failures labels'
  bounded := by
    intro labels'
    rw [counter_increment_other plain (by decide) failures]
    exact even.bounded labels'

section Execute

variable (m : Metrics) (labels labels' : Labels) (ms : Nat)

theorem executions_execute : (m.execute labels ms).counter Runner.executionCounter labels' =
    if seriesKey "" labels' = seriesKey "" labels
    then min limit (m.counter Runner.executionCounter labels' + 1)
    else m.counter Runner.executionCounter labels' :=
  counter_increment_self m _ labels labels'

theorem failures_execute : (m.execute labels ms).counter Runner.failureCounter labels' =
    m.counter Runner.failureCounter labels' :=
  counter_increment_other (by decide) (by decide) (by decide) labels labels'

theorem durations_execute :
    (((m.execute labels ms).duration? Runner.executionDuration labels').getD {}).count =
      if seriesKey "" labels' = seriesKey "" labels
      then min limit (((m.duration? Runner.executionDuration labels').getD {}).count + 1)
      else ((m.duration? Runner.executionDuration labels').getD {}).count :=
  count_observe_self (m.increment Runner.executionCounter 1 labels) _ ms labels labels'

end Execute

theorem IsEven.execute (even : m.IsEven) (labels : Labels) (ms : Nat) :
    (m.execute labels ms).IsEven where
  durations := by
    intro labels'
    rw [durations_execute, executions_execute, even.durations labels']
  failures := by
    intro labels'
    have bounded := even.bounded labels'
    have below := even.failures labels'
    rw [failures_execute, executions_execute]
    split <;> omega
  bounded := by
    intro labels'
    rw [failures_execute]
    exact even.bounded labels'

/-- A failure is counted after the execution that failed. -/
theorem IsEven.fail (even : m.IsEven) (labels : Labels) (ms : Nat) :
    ((m.execute labels ms).increment Runner.failureCounter 1 labels).IsEven where
  durations := by
    intro labels'
    rw [duration?_increment, counter_increment_other (by decide) (by decide) (by decide)]
    exact (even.execute labels ms).durations labels'
  failures := by
    intro labels'
    have below := even.failures labels'
    rw [counter_increment_self, counter_increment_other (by decide) (by decide) (by decide),
      failures_execute, executions_execute]
    split <;> omega
  bounded := by
    intro labels'
    have bounded := even.bounded labels'
    rw [counter_increment_self, failures_execute]
    split <;> omega

theorem IsEven.book (even : m.IsEven) (r : Record) : (m.book r).IsEven := by
  cases r with
  | input bot => exact even.increment (by decide) (by decide) (by decide) _
  | panic => exact even.increment (by decide) (by decide) (by decide) _
  | firing task => exact even.increment (by decide) (by decide) (by decide) _
  | queueLength n => exact ⟨even.durations, even.failures, even.bounded⟩
  | execution bot label ms failed =>
    cases failed with
    | false => exact even.execute ..
    | true => exact even.fail ..

theorem isEven_foldl_book (even : m.IsEven) (records : List Record) :
    (records.foldl Metrics.book m).IsEven := by
  induction records generalizing m with
  | nil => exact even
  | cons r rest ih => exact ih (even.book r)

end Metrics

end Switchboard
