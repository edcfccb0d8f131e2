import Mathlib.Data.List.Basic
import Mathlib.Data.List.TakeWhile
import Switchboard.Proofs.Startup

/-!
# Intervals as they are written

An interval is written as parts in a row, each a number and a unit (`Interval.Part`,
`Interval.written`), and no text is that of two rows (`Interval.written_injective`). It is read as
the exact sum of its parts, where this is more than nothing and at most a hundred years, and refused
otherwise (`Interval.parse_eq_ok_iff`). On the way numbers that are too large are refused, minutes
and hours stop at the largest number of seconds, and so does the sum. None of this shows: whatever
stops there is longer than any interval (`Interval.TimeUnit.capped_eq`), and whatever is not too
long never comes near (`Interval.sum_written`).

So a timer for the interval of a task always has a period and a first tick
(`intervals_are_read_exactly`).
-/

namespace Switchboard

namespace Interval

/-- A unit of time. -/
inductive TimeUnit where
  | millisecond
  | second
  | minute
  | hour
  deriving DecidableEq, Repr

namespace TimeUnit

/-- How a unit is written. -/
def text : TimeUnit → List Char
  | millisecond => ['m', 's']
  | second => ['s']
  | minute => ['m']
  | hour => ['h']

/-- The length of a unit in milliseconds. -/
def millis : TimeUnit → Nat
  | millisecond => 1
  | second => 1000
  | minute => 60 * 1000
  | hour => 60 * 60 * 1000

/-- The length of so many units where minutes and hours stop at the largest number of seconds. -/
def capped (amount : Nat) : TimeUnit → Nat
  | millisecond => amount
  | second => amount * 1000
  | minute => min (amount * 60) wordMax * 1000
  | hour => min (amount * 3600) wordMax * 1000

theorem not_isDigit_of_mem_text {u : TimeUnit} {c : Char} (h : c ∈ u.text) :
    c.isDigit = false := by
  cases u <;> simp only [text, List.mem_cons, List.not_mem_nil, or_false] at h
  · rcases h with rfl | rfl <;> rfl
  all_goals subst h; rfl

theorem text_injective : Function.Injective text := by
  intro u v same
  cases u <;> cases v <;> first | rfl | cases same

theorem text_ne_nil (u : TimeUnit) : u.text ≠ [] := by
  cases u <;> simp [text]

theorem part?_text (amount : Nat) (u : TimeUnit) :
    part? amount u.text = some (u.capped amount) := by
  cases u <;> simp [part?, text, capped]

theorem exists_of_part? {amount ms : Nat} {unit : List Char} (h : part? amount unit = some ms) :
    ∃ u : TimeUnit, unit = u.text ∧ ms = u.capped amount := by
  unfold part? at h
  split at h
  · cases h; exact ⟨millisecond, ‹_›, rfl⟩
  split at h
  · cases h; exact ⟨second, ‹_›, rfl⟩
  split at h
  · cases h; exact ⟨minute, ‹_›, rfl⟩
  split at h
  · cases h; exact ⟨hour, ‹_›, rfl⟩
  · cases h

/-- A length that was cut off is longer than any interval, and so it was before. -/
theorem capped_eq {amount : Nat} {u : TimeUnit}
    (h : u.capped amount ≤ longest ∨ amount * u.millis ≤ longest) :
    u.capped amount = amount * u.millis := by
  cases u <;> simp only [capped, millis, longest, wordMax] at * <;> omega

theorem le_mul_millis (amount : Nat) (u : TimeUnit) : amount ≤ amount * u.millis :=
  Nat.le_mul_of_pos_right amount (by cases u <;> decide)

end TimeUnit

/-- A part of an interval: a number and its unit. -/
@[ext]
structure Part where
  digits : List Char
  unit : TimeUnit
  digits_ne_nil : digits ≠ []
  isDigit_of_mem : ∀ c ∈ digits, c.isDigit = true

namespace Part

def text (p : Part) : List Char := p.digits ++ p.unit.text

/-- The length of a part in milliseconds. -/
def millis (p : Part) : Nat := number p.digits * p.unit.millis

end Part

/-- Parts in a row. -/
def written (parts : List Part) : List Char := parts.flatMap Part.text

/-- The length of all parts in milliseconds. -/
def total : List Part → Nat
  | [] => 0
  | p :: parts => p.millis + total parts

@[simp] theorem written_nil : written [] = [] := rfl

@[simp] theorem written_cons (p : Part) (parts : List Part) :
    written (p :: parts) = p.text ++ written parts := rfl

@[simp] theorem total_nil : total [] = 0 := rfl

@[simp] theorem total_cons (p : Part) (parts : List Part) :
    total (p :: parts) = p.millis + total parts := rfl

/-- What may follow a part: nothing, or a digit. -/
def EndsPart (rest : List Char) : Prop := ∀ c ∈ rest.head?, c.isDigit = true

theorem endsPart_written : ∀ parts : List Part, EndsPart (written parts)
  | [] => by simp [EndsPart]
  | p :: parts => by
    intro c hc
    obtain ⟨d, ds, digits_eq⟩ := List.exists_cons_of_ne_nil p.digits_ne_nil
    rw [written_cons, Part.text, digits_eq] at hc
    cases hc
    exact p.isDigit_of_mem c (digits_eq ▸ List.mem_cons_self)

section Split

variable {p : Part} {c : Char} {more rest : List Char}

theorem Part.takeWhile_isDigit (p : Part) (rest : List Char) :
    (p.text ++ rest).takeWhile Char.isDigit = p.digits := by
  obtain ⟨c, cs, unit_eq⟩ := List.exists_cons_of_ne_nil p.unit.text_ne_nil
  have first : c.isDigit = false :=
    TimeUnit.not_isDigit_of_mem_text (unit_eq ▸ List.mem_cons_self)
  rw [Part.text, List.append_assoc, List.takeWhile_append_of_pos p.isDigit_of_mem, unit_eq,
    List.cons_append, List.takeWhile_cons_of_neg (by simp [first]), List.append_nil]

theorem Part.dropWhile_isDigit (p : Part) (rest : List Char) :
    (p.text ++ rest).dropWhile Char.isDigit = p.unit.text ++ rest := by
  obtain ⟨c, cs, unit_eq⟩ := List.exists_cons_of_ne_nil p.unit.text_ne_nil
  have first : c.isDigit = false :=
    TimeUnit.not_isDigit_of_mem_text (unit_eq ▸ List.mem_cons_self)
  rw [Part.text, List.append_assoc, List.dropWhile_append_of_pos p.isDigit_of_mem, unit_eq,
    List.cons_append, List.dropWhile_cons_of_neg (by simp [first])]

theorem EndsPart.takeWhile (h : EndsPart rest) : rest.takeWhile (fun d => !d.isDigit) = [] := by
  cases rest with
  | nil => rfl
  | cons d rest => exact List.takeWhile_cons_of_neg (by simp [h d rfl])

theorem EndsPart.dropWhile (h : EndsPart rest) : rest.dropWhile (fun d => !d.isDigit) = rest := by
  cases rest with
  | nil => rfl
  | cons d rest => exact List.dropWhile_cons_of_neg (by simp [h d rfl])

theorem endsPart_dropWhile (cs : List Char) : EndsPart (cs.dropWhile fun d => !d.isDigit) := by
  intro d hd
  have := List.head?_dropWhile_not (fun d : Char => !d.isDigit) cs
  rw [Option.mem_def.mp hd] at this
  simpa using this

theorem EndsPart.takeWhile_text_append (h : EndsPart rest) (u : TimeUnit) :
    (u.text ++ rest).takeWhile (fun d => !d.isDigit) = u.text := by
  rw [List.takeWhile_append_of_pos fun d hd => by simp [TimeUnit.not_isDigit_of_mem_text hd],
    h.takeWhile, List.append_nil]

theorem EndsPart.dropWhile_text_append (h : EndsPart rest) (u : TimeUnit) :
    (u.text ++ rest).dropWhile (fun d => !d.isDigit) = rest := by
  rw [List.dropWhile_append_of_pos fun d hd => by simp [TimeUnit.not_isDigit_of_mem_text hd],
    h.dropWhile]

end Split

/-! ## The sum of the parts -/

theorem sum_nil (before : Nat) : sum before [] = .ok before := by
  rw [sum]
  rfl

/-- A part is counted and the sum goes on behind it. -/
theorem sum_text_append (p : Part) {rest : List Char} (ends : EndsPart rest) (before : Nat) :
    sum before (p.text ++ rest) =
      if wordMax < number p.digits then .error (.numberTooLarge (String.ofList p.digits))
      else if wordMax < (before + p.unit.capped (number p.digits)) / 1000 then .error .tooLarge
      else sum (before + p.unit.capped (number p.digits)) rest := by
  obtain ⟨c, more, unit_eq⟩ := List.exists_cons_of_ne_nil p.unit.text_ne_nil
  have nonDigits : ∀ d ∈ more, (!d.isDigit) = true := fun d hd => by
    rw [TimeUnit.not_isDigit_of_mem_text (unit_eq ▸ List.mem_cons_of_mem c hd), Bool.not_false]
  have behind : (p.text ++ rest).dropWhile Char.isDigit = c :: (more ++ rest) := by
    rw [p.dropWhile_isDigit, unit_eq, List.cons_append]
  have filled : (p.text ++ rest).isEmpty = false := by
    simp [Part.text, p.digits_ne_nil]
  rw [sum, if_neg (by simp [filled])]
  simp only [p.takeWhile_isDigit]
  split
  · next none => rw [behind] at none; cases none
  · next d ds some =>
    rw [behind] at some
    cases some
    rw [if_neg (by simp [p.digits_ne_nil]), List.takeWhile_append_of_pos nonDigits,
      List.dropWhile_append_of_pos nonDigits, ends.takeWhile, ends.dropWhile, List.append_nil,
      ← unit_eq, TimeUnit.part?_text]

/-- A text with a sum begins with a part, unless it is empty. -/
theorem exists_text_append_of_sum {before n : Nat} {cs : List Char} (filled : cs ≠ [])
    (h : sum before cs = .ok n) : ∃ (p : Part) (rest : List Char), cs = p.text ++ rest ∧
      EndsPart rest := by
  rw [sum, if_neg (by simpa using filled)] at h
  dsimp only at h
  split at h
  · cases h
  · next c more behind =>
    split at h
    · cases h
    next digits_ne_nil =>
    split at h
    · cases h
    split at h
    · cases h
    next ms counted =>
    obtain ⟨u, unit_eq, -⟩ := TimeUnit.exists_of_part? counted
    refine ⟨⟨cs.takeWhile Char.isDigit, u, by simpa using digits_ne_nil,
      fun d hd => List.mem_takeWhile_imp hd⟩, more.dropWhile fun d => !d.isDigit, ?_,
      endsPart_dropWhile more⟩
    rw [Part.text, ← unit_eq, List.append_assoc, List.cons_append, List.takeWhile_append_dropWhile,
      ← behind, List.takeWhile_append_dropWhile]

/-- A text with a sum is parts in a row, and unless the sum is too long for an interval it is that
of the parts. -/
theorem exists_written_of_sum {before n : Nat} {cs : List Char} (h : sum before cs = .ok n) :
    ∃ parts, cs = written parts ∧ before ≤ n ∧ (n ≤ longest → n = before + total parts) := by
  -- The sum goes on behind each part, and no part is empty.
  induction hn : cs.length using Nat.strong_induction_on generalizing cs before with
  | _ size ih =>
  by_cases filled : cs = []
  · subst filled
    rw [sum_nil] at h
    cases h
    exact ⟨[], rfl, Nat.le_refl _, fun _ => rfl⟩
  obtain ⟨p, rest, rfl, ends⟩ := exists_text_append_of_sum filled h
  rw [sum_text_append p ends] at h
  split at h
  · cases h
  split at h
  · cases h
  have shorter : rest.length < size := by
    have := List.length_pos_iff.mpr p.digits_ne_nil
    simp only [← hn, Part.text, List.length_append]
    omega
  obtain ⟨parts, rfl, le, exact⟩ := ih _ shorter h rfl
  refine ⟨p :: parts, rfl, by omega, fun short => ?_⟩
  have counted : p.unit.capped (number p.digits) = p.millis := TimeUnit.capped_eq (.inl (by omega))
  rw [exact short, counted, total_cons, Nat.add_assoc]

/-- Parts whose sum is not too long for an interval are added up: no number, no product and no sum
on the way is too large. -/
theorem sum_written {before : Nat} {parts : List Part} (h : before + total parts ≤ longest) :
    sum before (written parts) = .ok (before + total parts) := by
  induction parts generalizing before with
  | nil => rw [written_nil, sum_nil, total_nil, Nat.add_zero]
  | cons p parts ih =>
    rw [total_cons, ← Nat.add_assoc] at h
    have short : p.millis ≤ longest := by omega
    have counted : p.unit.capped (number p.digits) = p.millis := TimeUnit.capped_eq (.inr short)
    -- A number is at most its product with the unit, and that is far below the largest word.
    have amount : number p.digits ≤ p.millis := TimeUnit.le_mul_millis _ _
    have fits : longest < wordMax := by decide
    rw [written_cons, sum_text_append p (endsPart_written parts), counted, if_neg (by omega),
      if_neg (by omega), ih h, total_cons, Nat.add_assoc]

/-- The parts of a text can be told from it. -/
theorem written_injective : Function.Injective written := by
  intro parts others same
  induction parts generalizing others with
  | nil =>
    cases others with
    | nil => rfl
    | cons q others => simp [Part.text, q.digits_ne_nil] at same
  | cons p parts ih =>
    cases others with
    | nil => simp [Part.text, p.digits_ne_nil] at same
    | cons q others =>
      rw [written_cons, written_cons] at same
      have digits := congrArg (List.takeWhile Char.isDigit) same
      have behind := congrArg (List.dropWhile Char.isDigit) same
      rw [p.takeWhile_isDigit, q.takeWhile_isDigit] at digits
      rw [p.dropWhile_isDigit, q.dropWhile_isDigit] at behind
      have units := congrArg (List.takeWhile fun d => !d.isDigit) behind
      have rests := congrArg (List.dropWhile fun d => !d.isDigit) behind
      rw [(endsPart_written parts).takeWhile_text_append,
        (endsPart_written others).takeWhile_text_append] at units
      rw [(endsPart_written parts).dropWhile_text_append,
        (endsPart_written others).dropWhile_text_append] at rests
      rw [Part.ext digits (TimeUnit.text_injective units), ih rests]

/-- An interval is some parts whose sum is more than nothing and at most a hundred years. -/
theorem parse_eq_ok_iff {cs : List Char} {ms : Nat} :
    parse cs = .ok ms ↔
      ∃ parts, parts ≠ [] ∧ cs = written parts ∧ ms = total parts ∧ 0 < ms ∧ ms ≤ longest := by
  constructor
  · intro h
    unfold parse at h
    split at h
    · cases h
    next filled =>
    split at h
    · cases h
    next n summed =>
    split at h
    · cases h
    split at h
    · cases h
    cases h
    obtain ⟨parts, rfl, -, exact⟩ := exists_written_of_sum summed
    refine ⟨parts, ?_, rfl, ?_, by omega, by omega⟩
    · rintro rfl
      exact filled rfl
    · rw [exact (by omega), Nat.zero_add]
  · rintro ⟨parts, some, rfl, rfl, positive, short⟩
    have filled : (written parts).isEmpty = false := by
      obtain ⟨p, ps, rfl⟩ := List.exists_cons_of_ne_nil some
      simp [Part.text, p.digits_ne_nil]
    have summed : sum 0 (written parts) = .ok (total parts) := by
      rw [sum_written (by omega), Nat.zero_add]
    rw [parse, filled, summed]
    simp only [Bool.false_eq_true, if_false]
    rw [if_neg (by omega), if_neg (by omega)]

end Interval

/-! ## Schedules with an interval -/

namespace Schedule

open Switchboard.Interval

variable {text : String} {rest : List Char}

/-- Behind its word an interval is read, and nothing else. -/
theorem parse_everyWord (h : Text.trim text.toList = everyWord ++ rest) :
    parse text =
      match Interval.parse (Text.trim rest) with
      | .ok ms => .ok (.every ms)
      | .error e => .error (.invalidSchedule (Text.trimmed text) e.message) := by
  have stripped : Text.stripPrefix? everyWord (Text.trimmed text).toList = some rest := by
    rw [Text.trimmed, String.toList_ofList, h]
    exact List.isPrefixOf?_eq_some_iff_append_eq.mpr rfl
  unfold parse
  dsimp only
  split
  · next found =>
    rw [stripped] at found
    cases found
    rfl
  · next missing =>
    rw [stripped] at missing
    cases missing

/-- The interval of a schedule is one that can be written. -/
theorem interval_of_parse {ms : Nat} (h : parse text = .ok (.every ms)) :
    0 < ms ∧ ms ≤ longest := by
  unfold parse at h
  dsimp only at h
  split at h
  · split at h
    · next n read =>
      cases h
      obtain ⟨_, _, _, _, positive, short⟩ := parse_eq_ok_iff.mp read
      exact ⟨positive, short⟩
    · cases h
  · split at h <;> cases h

end Schedule

/-! ## Timers of built tasks -/

/-- The schedule of a task is one that was read. -/
theorem TaskTemplate.exists_parse_of_build {t : TaskTemplate} {source : Source} {files : FileTree}
    {task : ScheduledTask} (h : t.build source files = .ok task) :
    ∃ text, Schedule.parse text = .ok task.schedule := by
  obtain ⟨bound, -, h⟩ := exists_of_bind_eq_ok h
  obtain ⟨schedule, scheduled, h⟩ := exists_of_bind_eq_ok h
  cases h
  unfold TaskTemplate.scheduleOf at scheduled
  split at scheduled
  · next supplied =>
    split at scheduled
    · cases scheduled
    · exact ⟨_, scheduled⟩
  · exact ⟨_, scheduled⟩
  · cases scheduled

/-- How a timer for an interval begins. -/
inductive Beginning where
  /-- It waits for the ticks of a ticker. -/
  | waits (ticker : Ticker)
  /-- Its first tick lies behind the end of the clock, and it never runs. -/
  | outOfRange
  /-- It breaks down, since there is no ticker without a period. -/
  | withoutPeriod
  deriving DecidableEq, Repr

/-- The beginning at `now` of a timer that fires every `ms` milliseconds, on a clock that ends at
`last`. -/
def Ticker.begin (last now ms : Nat) : Beginning :=
  if last < now + ms then .outOfRange
  else if ms = 0 then .withoutPeriod
  else .waits (.later now ms)

open Switchboard.Interval in
/-- On a clock that goes on for a hundred years, a timer of an interval that can be written begins
to wait, and this is how every timer is started. -/
theorem Timer.begin_eq_waits {task : ScheduledTask} {ms : Nat} (h : task.schedule = .every ms)
    (positive : 0 < ms) (short : ms ≤ longest) {last now : Nat} (ample : now + longest ≤ last)
    (number : Nat) (clock : Timestamp) :
    ∃ ticker, Ticker.begin last now ms = .waits ticker ∧
      (Timer.start number task now clock).due = some ticker.due := by
  refine ⟨.later now ms, ?_, ?_⟩
  · rw [Ticker.begin, if_neg (by omega), if_neg (by omega)]
  · rw [Timer.start, h]
    rfl

open Switchboard.Interval in
/-- A text that begins with the word for intervals is read as a schedule just if numbers with units
follow whose exact sum is more than nothing and at most a hundred years, and it is read as that sum;
every other such text is refused. So a task with an interval never has one for which its timer
breaks down or does not run. -/
theorem intervals_are_read_exactly :
    (∀ text rest, Text.trim text.toList = Schedule.everyWord ++ rest →
      (∀ s, Schedule.parse text = .ok s ↔
        ∃ parts, parts ≠ [] ∧ Text.trim rest = written parts ∧
          0 < total parts ∧ total parts ≤ longest ∧ s = .every (total parts)) ∧
      ((∀ s, Schedule.parse text ≠ .ok s) →
        ∃ e : IntervalError,
          Schedule.parse text = .error (.invalidSchedule (Text.trimmed text) e.message))) ∧
    Function.Injective written ∧
    ∀ (t : TaskTemplate) (source : Source) (files : FileTree) (task : ScheduledTask) (ms : Nat),
      t.build source files = .ok task → task.schedule = .every ms →
      0 < ms ∧ ms ≤ longest ∧
        ∀ number now clock last, now + longest ≤ last →
          ∃ ticker, Ticker.begin last now ms = .waits ticker ∧
            (Timer.start number task now clock).due = some ticker.due := by
  refine ⟨fun text rest h => ?_, written_injective, ?_⟩
  · rw [Schedule.parse_everyWord h]
    constructor
    · intro s
      constructor
      · intro read
        split at read
        · next ms ok =>
          cases read
          obtain ⟨parts, some, whole, rfl, positive, short⟩ := parse_eq_ok_iff.mp ok
          exact ⟨parts, some, whole, positive, short, rfl⟩
        · cases read
      · rintro ⟨parts, some, whole, positive, short, rfl⟩
        rw [parse_eq_ok_iff.mpr ⟨parts, some, whole, rfl, positive, short⟩]
    · intro refused
      split at refused
      · exact absurd rfl (refused _)
      · next e failed => exact ⟨e, rfl⟩
  · intro t source files task ms built every
    obtain ⟨text, read⟩ := t.exists_parse_of_build built
    obtain ⟨positive, short⟩ := Schedule.interval_of_parse (every ▸ read)
    exact ⟨positive, short, fun number now clock last ample =>
      Timer.begin_eq_waits every positive short ample number clock⟩

/-! ### A task for every hour and a half -/

namespace HourAndHalf

open Switchboard.Interval

/-- White space of any kind may stand around an interval. -/
def text : String := "\u3000@every\u0085 1h030m\n"

def behind : List Char := "\u0085 1h030m".toList

def parts : List Part :=
  [⟨['1'], .hour, List.cons_ne_nil _ _, List.all_eq_true.mp rfl⟩,
    ⟨['0', '3', '0'], .minute, List.cons_ne_nil _ _, List.all_eq_true.mp rfl⟩]

def template : TaskTemplate where
  botType := ⟨"slack"⟩
  identifier := "report"
  schedule := some text
  executor := TaskTemplate.fixed fun _ => .done []

def task : ScheduledTask where
  botType := ⟨"slack"⟩
  identifier := "report"
  schedule := .every 5400000
  run := fun _ => .done []

/-- The text is read as 5400000 milliseconds, and the timer of the task that is built waits for
them. -/
theorem report_waits_hour_and_half :
    Text.trim text.toList = Schedule.everyWord ++ behind ∧
    Schedule.parse text = .ok (.every 5400000) ∧
    template.build .nowhere {} = .ok task ∧
    ∃ ticker, Ticker.begin (longest + 7) 7 5400000 = .waits ticker ∧
      (Timer.start 0 task 7 default).due = some ticker.due := by
  have word : Text.trim text.toList = Schedule.everyWord ++ behind := by decide +kernel
  obtain ⟨reads, -, timers⟩ := intervals_are_read_exactly
  have read : Schedule.parse text = .ok (.every 5400000) :=
    ((reads text behind word).1 _).mpr
      ⟨parts, by decide, by decide +kernel, by decide, by decide, rfl⟩
  have built : template.build .nowhere {} = .ok task := by
    show (Schedule.parse text >>= fun schedule => _) = _
    rw [read]
    rfl
  obtain ⟨-, -, waits⟩ := timers template .nowhere {} task 5400000 built rfl
  exact ⟨word, read, built, waits 0 7 default _ (Nat.le_of_eq (Nat.add_comm _ _))⟩

end HourAndHalf

end Switchboard
