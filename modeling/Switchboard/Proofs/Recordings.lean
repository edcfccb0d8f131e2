import Mathlib.Data.List.Forall2
import Switchboard.Proofs.SeriesKeys

/-!
# Recordings in any order

Workers record increments and durations as they come, so what metrics say must not depend on the
order. A recording changes the value of one series, and two changes of one value commute, even where
it stops at the limit (`Metrics.saturatingAdd_comm`, `Metrics.Durations.record_comm`). So metrics
say the same after recordings in any order, with labels in any order
(`Metrics.recordAll_eq_of_isReordered`): of each counter the sum of what was added, and of each
duration the number, the sum and the largest of what was observed
(`Metrics.recordings_commute_and_add_up`).
-/

namespace Switchboard

/-- A value that is recorded under a name with labels. -/
inductive Recording where
  | increment (name : String) (value : Nat) (labels : Labels)
  | observe (name : String) (ms : Nat) (labels : Labels)
  deriving DecidableEq, Repr

namespace Recording

/-- Recordings that differ in the order of their labels at most. -/
inductive Like : Recording → Recording → Prop
  | increment (name : String) (value : Nat) {labels labels' : Labels}
    (distinct : (labels.map Prod.fst).Nodup) (perm : labels.Perm labels') :
    Like (.increment name value labels) (.increment name value labels')
  | observe (name : String) (ms : Nat) {labels labels' : Labels}
    (distinct : (labels.map Prod.fst).Nodup) (perm : labels.Perm labels') :
    Like (.observe name ms labels) (.observe name ms labels')

/-- Lists of recordings that differ in their order, and in the order of labels, at most. -/
def IsReordered (cs cs' : List Recording) : Prop :=
  ∃ middle, List.Forall₂ Like cs middle ∧ middle.Perm cs'

/-- What is added to the counter of a key. -/
def increment? (key : String) : Recording → Option Nat
  | increment name value labels => if Metrics.seriesKey name labels = key then some value else none
  | observe .. => none

/-- What is observed under a key. -/
def observation? (key : String) : Recording → Option Nat
  | increment .. => none
  | observe name ms labels => if Metrics.seriesKey name labels = key then some ms else none

/-- All that is added to the counter of a key, in order. -/
def increments (key : String) (cs : List Recording) : List Nat := cs.filterMap (increment? key)

/-- All that is observed under a key, in order. -/
def observations (key : String) (cs : List Recording) : List Nat := cs.filterMap (observation? key)

variable {c c' : Recording} {cs cs' : List Recording}

theorem Like.increment?_eq (h : Like c c') (key : String) :
    c.increment? key = c'.increment? key := by
  cases h with
  | increment name value distinct perm =>
    rw [increment?, increment?, Metrics.seriesKey_eq_of_perm name distinct perm]
  | observe => rfl

theorem Like.observation?_eq (h : Like c c') (key : String) :
    c.observation? key = c'.observation? key := by
  cases h with
  | increment => rfl
  | observe name ms distinct perm =>
    rw [observation?, observation?, Metrics.seriesKey_eq_of_perm name distinct perm]

/-- Whatever is read off recordings without regard to the order of labels is the same for all of
their orders, but for the order. -/
theorem IsReordered.filterMap_perm {β : Type} {f : Recording → Option β}
    (blind : ∀ c c', Like c c' → f c = f c') (h : IsReordered cs cs') :
    (cs.filterMap f).Perm (cs'.filterMap f) := by
  obtain ⟨middle, like, perm⟩ := h
  have same : cs.filterMap f = middle.filterMap f := by
    clear perm
    induction like with
    | nil => rfl
    | cons head _ ih => rw [List.filterMap_cons, List.filterMap_cons, blind _ _ head, ih]
  rw [same]
  exact perm.filterMap f

theorem IsReordered.increments_perm (h : IsReordered cs cs') (key : String) :
    (increments key cs).Perm (increments key cs') :=
  h.filterMap_perm fun _ _ like => like.increment?_eq key

theorem IsReordered.observations_perm (h : IsReordered cs cs') (key : String) :
    (observations key cs).Perm (observations key cs') :=
  h.filterMap_perm fun _ _ like => like.observation?_eq key

end Recording

namespace Metrics

variable {m : Metrics} {c : Recording} {cs cs' : List Recording} {values : List Nat}

/-! ## Changes of a value -/

/-- What a change by a number makes of a value, which begins with `zero`. -/
def changed {α : Type} (zero : α) (change : α → Nat → α) (old : Option α) (n : Nat) : Option α :=
  some (change (old.getD zero) n)

section Changes

variable {α : Type} {zero : α} {change : α → Nat → α}

theorem foldl_changed_some (values : List Nat) (a : α) :
    values.foldl (changed zero change) (some a) = some (values.foldl change a) := by
  induction values generalizing a with
  | nil => rfl
  | cons n rest ih => exact ih _

/-- The first change makes the value. -/
theorem foldl_changed_none (values : List Nat) :
    values.foldl (changed zero change) none =
      if values = [] then none else some (values.foldl change zero) := by
  cases values with
  | nil => rfl
  | cons n rest =>
    rw [if_neg (List.cons_ne_nil n rest)]
    exact foldl_changed_some rest _

/-- Changes that commute may come in any order. -/
theorem foldl_changed_eq_of_perm (comm : ∀ a n k, change (change a n) k = change (change a k) n)
    {values values' : List Nat} (perm : values.Perm values') (old : Option α) :
    values.foldl (changed zero change) old = values'.foldl (changed zero change) old :=
  perm.foldl_eq' (fun n _ k _ old => congrArg some (comm (old.getD zero) n k)) old

end Changes

theorem saturatingAdd_comm (a n k : Nat) :
    saturatingAdd (saturatingAdd a n) k = saturatingAdd (saturatingAdd a k) n := by
  unfold saturatingAdd
  omega

theorem Durations.record_comm (d : Durations) (n k : Nat) :
    (d.record n).record k = (d.record k).record n := by
  have largest : Nat.max (Nat.max d.max n) k = Nat.max (Nat.max d.max k) n := by
    simp only [Nat.max_def]
    split_ifs <;> omega
  simp only [record, saturatingAdd_comm, largest]

/-! ## Sums -/

/-- The sum of some numbers. -/
def sumOf : List Nat → Nat
  | [] => 0
  | n :: rest => n + sumOf rest

theorem sumOf_concat (values : List Nat) (n : Nat) : sumOf (values ++ [n]) = sumOf values + n := by
  induction values with
  | nil => exact Nat.add_comm n 0
  | cons k rest ih => rw [List.cons_append, sumOf, ih, sumOf, Nat.add_assoc]

theorem sumOf_le {bound : Nat} (h : ∀ n ∈ values, n ≤ bound) :
    sumOf values ≤ values.length * bound := by
  induction values with
  | nil => exact Nat.zero_le _
  | cons n rest ih =>
    obtain ⟨first, others⟩ := List.forall_mem_cons.mp h
    have := ih others
    rw [sumOf, List.length_cons, Nat.succ_mul]
    omega

theorem foldl_saturatingAdd (values : List Nat) :
    values.foldl saturatingAdd 0 = min limit (sumOf values) := by
  induction values using List.reverseRecOn with
  | nil => rfl
  | append_singleton rest n ih =>
    rw [List.foldl_concat, ih, sumOf_concat, saturatingAdd]
    omega

/-- What is kept of some observations. -/
structure Durations.Summarizes (d : Durations) (values : List Nat) : Prop where
  count : d.count = min limit values.length
  sum : d.sum = min limit (sumOf values)
  bound : ∀ ms ∈ values, ms ≤ d.max
  attained : d.max = 0 ∨ d.max ∈ values

namespace Durations

variable {d : Durations}

theorem Summarizes.record (h : d.Summarizes values) (ms : Nat) :
    (d.record ms).Summarizes (values ++ [ms]) where
  count := by
    show min limit (d.count + 1) = _
    rw [h.count, List.length_append, List.length_singleton]
    omega
  sum := by
    show min limit (d.sum + ms) = _
    rw [h.sum, sumOf_concat]
    omega
  bound := by
    intro n hn
    rcases List.mem_append.mp hn with old | new
    · exact (h.bound n old).trans (Nat.le_max_left ..)
    · exact List.mem_singleton.mp new ▸ Nat.le_max_right ..
  attained := by
    show Nat.max d.max ms = 0 ∨ Nat.max d.max ms ∈ values ++ [ms]
    rcases Nat.le_total d.max ms with le | le
    · exact .inr (List.mem_append_right _ (List.mem_singleton.mpr (Nat.max_eq_right le)))
    · have same : Nat.max d.max ms = d.max := Nat.max_eq_left le
      rw [same]
      exact h.attained.imp_right (List.mem_append_left _)

/-- Durations summarize what is recorded. -/
theorem summarizes_foldl_record (values : List Nat) :
    (values.foldl Durations.record {}).Summarizes values := by
  induction values using List.reverseRecOn with
  | nil => exact ⟨rfl, rfl, fun ms none => absurd none List.not_mem_nil, .inl rfl⟩
  | append_singleton rest ms ih =>
    rw [List.foldl_concat]
    exact ih.record ms

namespace Summarizes

theorem max_mem (h : d.Summarizes values) (some : values ≠ []) : d.max ∈ values := by
  rcases h.attained with zero | found
  · obtain ⟨ms, there⟩ := List.exists_mem_of_ne_nil values some
    have least := h.bound ms there
    have same : d.max = ms := by omega
    exact same ▸ there
  · exact found

/-- The sum is no more than if all observations were the largest, even where it or the count has
stopped at the limit. -/
theorem sum_le (h : d.Summarizes values) : d.sum ≤ d.count * d.max := by
  have whole := sumOf_le h.bound
  rcases Nat.le_total values.length limit with few | many
  · rw [h.sum, h.count, Nat.min_eq_right few]
    exact (Nat.min_le_right ..).trans whole
  · rw [h.sum, h.count, Nat.min_eq_left many]
    rcases Nat.eq_zero_or_pos d.max with zero | pos
    · rw [zero, Nat.mul_zero] at whole ⊢
      exact (Nat.min_le_right ..).trans whole
    · exact (Nat.min_le_left ..).trans (Nat.le_mul_of_pos_right limit pos)

theorem mean_le_max (h : d.Summarizes values) : d.mean ≤ d.max := Nat.div_le_of_le_mul h.sum_le

end Summarizes

end Durations

/-! ## Recordings -/

/-- Records a value. -/
def record (m : Metrics) : Recording → Metrics
  | .increment name value labels => m.increment name value labels
  | .observe name ms labels => m.observe name ms labels

/-- Records values one after another. -/
def recordAll (m : Metrics) (cs : List Recording) : Metrics := cs.foldl record m

/-- The counters and the durations are in the order of their keys, each once. -/
structure IsInOrder (m : Metrics) : Prop where
  counters : m.counters.IsSorted
  durations : m.durations.IsSorted

theorem IsInOrder.record (h : m.IsInOrder) (c : Recording) : (m.record c).IsInOrder := by
  cases c with
  | increment name value labels => exact ⟨h.counters.insert .., h.durations⟩
  | observe name ms labels => exact ⟨h.counters, h.durations.insert ..⟩

theorem IsInOrder.recordAll (h : m.IsInOrder) (cs : List Recording) :
    (m.recordAll cs).IsInOrder :=
  List.foldlRecOn cs Metrics.record h fun _ sorted c _ => sorted.record c

/-- What is found under a key after a series has been changed. -/
theorem find?_update_changed {α : Type} {zero : α} {change : α → Nat → α} (t : Table α)
    (series key : String) (n : Nat) :
    Table.find? key (Table.update series (fun old => change (old.getD zero) n) t) =
      (if series = key then some n else none).toList.foldl (changed zero change)
        (Table.find? key t) := by
  rw [Table.find?_update]
  by_cases same : series = key
  · rw [if_pos same.symm, if_pos same, same]
    rfl
  · rw [if_neg (Ne.symm same), if_neg same]
    rfl

/-- A recording changes the counter of its key. -/
theorem find?_counters_record (key : String) (m : Metrics) (c : Recording) :
    Table.find? key (m.record c).counters =
      (c.increment? key).toList.foldl (changed 0 saturatingAdd) (Table.find? key m.counters) := by
  cases c with
  | observe => rfl
  | increment name value labels => exact find?_update_changed m.counters ..

theorem find?_durations_record (key : String) (m : Metrics) (c : Recording) :
    Table.find? key (m.record c).durations =
      (c.observation? key).toList.foldl (changed {} Durations.record)
        (Table.find? key m.durations) := by
  cases c with
  | increment => rfl
  | observe name ms labels => exact find?_update_changed m.durations ..

/-- What each recording changes by the number that it has for it, all of them change by these
numbers one after another. -/
theorem foldl_of_record {α : Type} (view : Metrics → α) {number? : Recording → Option Nat}
    {change : α → Nat → α}
    (step : ∀ m c, view (m.record c) = (number? c).toList.foldl change (view m)) (m : Metrics)
    (cs : List Recording) :
    view (m.recordAll cs) = (cs.filterMap number?).foldl change (view m) := by
  induction cs generalizing m with
  | nil => rfl
  | cons c rest ih =>
    rw [recordAll, List.foldl_cons, ← recordAll, ih, step, ← List.foldl_append]
    congr 1
    cases h : number? c <;> simp [h]

theorem find?_counters_recordAll (m : Metrics) (cs : List Recording) (key : String) :
    Table.find? key (m.recordAll cs).counters =
      (Recording.increments key cs).foldl (changed 0 saturatingAdd)
        (Table.find? key m.counters) :=
  foldl_of_record (fun m => Table.find? key m.counters) (find?_counters_record key) m cs

theorem find?_durations_recordAll (m : Metrics) (cs : List Recording) (key : String) :
    Table.find? key (m.recordAll cs).durations =
      (Recording.observations key cs).foldl (changed {} Durations.record)
        (Table.find? key m.durations) :=
  foldl_of_record (fun m => Table.find? key m.durations) (find?_durations_record key) m cs

theorem gauges_recordAll (m : Metrics) (cs : List Recording) :
    (m.recordAll cs).gauges = m.gauges := by
  induction cs generalizing m with
  | nil => rfl
  | cons c rest ih => exact (ih (m.record c)).trans (by cases c <;> rfl)

/-- It does not matter in which order values are recorded, and labels given. -/
theorem recordAll_eq_of_isReordered (inOrder : m.IsInOrder)
    (reordered : Recording.IsReordered cs cs') : m.recordAll cs = m.recordAll cs' := by
  have counters : (m.recordAll cs).counters = (m.recordAll cs').counters := by
    refine (inOrder.recordAll cs).counters.ext (inOrder.recordAll cs').counters fun key => ?_
    rw [find?_counters_recordAll, find?_counters_recordAll]
    exact foldl_changed_eq_of_perm saturatingAdd_comm (reordered.increments_perm key) _
  have durations : (m.recordAll cs).durations = (m.recordAll cs').durations := by
    refine (inOrder.recordAll cs).durations.ext (inOrder.recordAll cs').durations fun key => ?_
    rw [find?_durations_recordAll, find?_durations_recordAll]
    exact foldl_changed_eq_of_perm Durations.record_comm (reordered.observations_perm key) _
  have gauges : (m.recordAll cs).gauges = (m.recordAll cs').gauges := by
    rw [gauges_recordAll, gauges_recordAll]
  calc m.recordAll cs
      = ⟨(m.recordAll cs).counters, (m.recordAll cs).gauges, (m.recordAll cs).durations⟩ := rfl
    _ = m.recordAll cs' := by rw [counters, gauges, durations]

/-- In whichever order values are recorded, and labels given, metrics say the same in the end. Each
counter that was added to is the sum of what was added, up to the limit. Of each duration that was
observed the number, the sum and the largest of the observations are kept, number and sum up to the
limit, and the mean is never above the largest. Both lists are in the order of their keys, each
once. -/
theorem recordings_commute_and_add_up (reordered : Recording.IsReordered cs cs') :
    let m := ({} : Metrics).recordAll cs
    ({} : Metrics).recordAll cs' = m ∧ m.counters.IsSorted ∧ m.durations.IsSorted ∧
    (∀ key, Table.find? key m.counters =
      if Recording.increments key cs = [] then none
      else some (min limit (sumOf (Recording.increments key cs)))) ∧
    ∀ key,
      (Table.find? key m.durations = none ↔ Recording.observations key cs = []) ∧
      ∀ d, Table.find? key m.durations = some d →
        d.count = min limit (Recording.observations key cs).length ∧
        d.sum = min limit (sumOf (Recording.observations key cs)) ∧
        d.max ∈ Recording.observations key cs ∧
        (∀ ms ∈ Recording.observations key cs, ms ≤ d.max) ∧ d.mean ≤ d.max := by
  intro m
  have empty : ({} : Metrics).IsInOrder := ⟨.nil, .nil⟩
  have sorted := empty.recordAll cs
  refine ⟨(recordAll_eq_of_isReordered empty reordered).symm, sorted.counters, sorted.durations,
    fun key => ?_, fun key => ?_⟩
  · rw [find?_counters_recordAll, ← foldl_saturatingAdd]
    exact foldl_changed_none _
  · have found : Table.find? key m.durations = _ := find?_durations_recordAll {} cs key
    rw [Table.find?_nil, foldl_changed_none] at found
    rw [found]
    by_cases none : Recording.observations key cs = []
    · simp [none]
    · rw [if_neg none]
      refine ⟨by simp [none], fun d same => ?_⟩
      cases same
      have kept := Durations.summarizes_foldl_record (Recording.observations key cs)
      exact ⟨kept.count, kept.sum, kept.max_mem none, kept.bound, kept.mean_le_max⟩

end Metrics

/-! ## A counter at its limit -/

namespace FullCounter

def labels : Labels := [("bot_type", "slack"), ("command", "echo")]

/-- The same labels in another order. -/
def labels' : Labels := [("command", "echo"), ("bot_type", "slack")]

def recordings : List Recording :=
  [.increment "runs" Metrics.limit labels, .observe "ms" 10 [], .increment "runs" 5 labels',
    .observe "ms" 41 []]

/-- The same recordings in another order. -/
def recordings' : List Recording :=
  [.observe "ms" 41 [], .increment "runs" 5 labels, .observe "ms" 10 [],
    .increment "runs" Metrics.limit labels']

/-- A counter stays at its limit, whether or not it is there from the beginning. -/
theorem counter_is_full_in_any_order :
    Recording.IsReordered recordings recordings' ∧
    ({} : Metrics).recordAll recordings' = ({} : Metrics).recordAll recordings ∧
    (({} : Metrics).recordAll recordings').counter "runs" labels = Metrics.limit ∧
    ∃ d, (({} : Metrics).recordAll recordings').duration? "ms" = some d ∧
      d.count = 2 ∧ d.sum = 51 ∧ d.mean ≤ d.max := by
  have distinct : (labels.map Prod.fst).Nodup := by decide
  have distinct' : (labels'.map Prod.fst).Nodup := by decide
  have perm : labels.Perm labels' := by decide
  have reordered : Recording.IsReordered recordings recordings' := by
    refine ⟨[.increment "runs" Metrics.limit labels', .observe "ms" 10 [],
      .increment "runs" 5 labels, .observe "ms" 41 []], ?_, by decide⟩
    exact .cons (.increment _ _ distinct perm) (.cons (.observe _ _ .nil .nil)
      (.cons (.increment _ _ distinct' perm.symm) (.cons (.observe _ _ .nil .nil) .nil)))
  obtain ⟨same, -, -, counters, durations⟩ := Metrics.recordings_commute_and_add_up reordered
  have increments : Recording.increments (Metrics.seriesKey "runs" labels) recordings =
      [Metrics.limit, 5] := by
    have key := Metrics.seriesKey_eq_of_perm "runs" distinct perm
    simp only [Recording.increments, recordings, List.filterMap_cons, Recording.increment?, key,
      if_true, List.filterMap_nil]
  have observations : Recording.observations "ms" recordings = [10, 41] := by decide
  obtain ⟨found, kept⟩ := durations "ms"
  refine ⟨reordered, same, ?_, ?_⟩
  · rw [same, Metrics.counter, counters, increments]
    decide
  · rw [observations] at found kept
    obtain ⟨d, hd⟩ := Option.ne_none_iff_exists'.mp (mt found.mp (List.cons_ne_nil 10 [41]))
    obtain ⟨count, sum, -, -, mean⟩ := kept d hd
    exact ⟨d, by rw [same]; exact hd, count, sum, mean⟩

end FullCounter

end Switchboard
