import Mathlib.Algebra.Order.Group.Multiset
import Mathlib.Tactic.Abel
import Switchboard.Pool

/-!
# The jobs of a pool

Which jobs a pool has, wherever they are: with a producer that waits, in the queue, or in a worker's
hands. Moving a job from one of these places to the next keeps the jobs of the pool (`jobs_take`,
`jobs_admitted`); they change when a job comes (`jobs_push`, `jobs_keepWaiting`), when a worker
changes or finishes the one in its hands (`exists_jobs_eq`), and when a closed pool drops some.

`own` selects the jobs that are of interest. Other producers may wait with the others.
-/

namespace Switchboard

/-- The selected elements of a list, in no order. -/
def pick {ι : Type} (own : ι → Bool) (l : List ι) : Multiset ι := ↑(l.filter own)

section Pick

variable {ι : Type} {own : ι → Bool}

theorem pick_append (l more : List ι) : pick own (l ++ more) = pick own l + pick own more := by
  simp [pick, List.filter_append]

theorem pick_cons (x : ι) (l : List ι) : pick own (x :: l) = pick own [x] + pick own l :=
  pick_append [x] l

theorem pick_of_own {x : ι} (h : own x = true) : pick own [x] = {x} := by simp [pick, h]

theorem pick_of_not_own {x : ι} (h : own x = false) : pick own [x] = 0 := by simp [pick, h]

end Pick

namespace Pool

variable {ι : Type} {own : ι → Bool} {p : Pool ι} {n : Nat}

/-- The selected jobs of the pool. -/
def jobs (own : ι → Bool) (p : Pool ι) : Multiset ι :=
  pick own (p.waiting.map Prod.snd) + pick own p.queue + pick own (p.busy.map Prod.snd)

/-- Every worker is there once, and no producer waits with two selected jobs. -/
structure IsOrderly (own : ι → Bool) (p : Pool ι) : Prop where
  workers : (p.idle ++ p.busy.map Prod.fst).Nodup
  producers : ((p.waiting.filter fun e => own e.2).map Prod.fst).Nodup

/-! ## Jobs come -/

theorem jobs_push (p : Pool ι) (job : ι) : (p.push job).jobs own = pick own [job] + p.jobs own := by
  simp only [jobs, push, pick_append]
  abel

theorem jobs_keepWaiting (p : Pool ι) (producer : Nat) (job : ι) :
    (p.keepWaiting producer job).jobs own = pick own [job] + p.jobs own := by
  simp only [jobs, keepWaiting, List.map_append, List.map_singleton, pick_append]
  abel

theorem IsOrderly.push (h : p.IsOrderly own) (job : ι) : (p.push job).IsOrderly own :=
  ⟨h.workers, h.producers⟩

/-- A producer that does not wait yet may wait with a job, and one that has no selected job too. -/
theorem IsOrderly.keepWaiting (h : p.IsOrderly own) {producer : Nat} {job : ι}
    (fresh : own job = true → ∀ e ∈ p.waiting, own e.2 = true → e.1 ≠ producer) :
    (p.keepWaiting producer job).IsOrderly own := by
  refine ⟨h.workers, ?_⟩
  simp only [Pool.keepWaiting, List.filter_append, List.map_append]
  cases hj : own job with
  | false => simpa [hj] using h.producers
  | true =>
    rw [List.nodup_append]
    refine ⟨h.producers, by simp [hj], ?_⟩
    intro a ha b hb same
    obtain ⟨e, he, rfl⟩ := List.mem_map.mp ha
    have : b = producer := by simpa [hj] using hb
    exact fresh hj e (List.mem_filter.mp he).1 (by simpa using (List.mem_filter.mp he).2)
      (same.trans this)

/-! ## Producers -/

theorem jobs_withdraw_le (p : Pool ι) (producer : Nat) :
    (p.withdraw producer).jobs own ≤ p.jobs own := by
  unfold jobs withdraw
  gcongr
  unfold pick
  rw [Multiset.coe_le]
  exact ((List.filter_sublist.map _).filter _).subperm

theorem IsOrderly.withdraw (h : p.IsOrderly own) (producer : Nat) :
    (p.withdraw producer).IsOrderly own := by
  refine ⟨h.workers, ?_⟩
  exact h.producers.sublist ((List.filter_sublist.filter _).map _)

/-- When a producer leaves without a selected job, nothing of interest is gone. -/
theorem jobs_withdraw_other (producer : Nat)
    (other : ∀ e ∈ p.waiting, e.1 = producer → own e.2 = false) :
    (p.withdraw producer).jobs own = p.jobs own := by
  unfold jobs withdraw
  congr 2
  unfold pick
  rw [List.filter_map, List.filter_map, List.filter_filter]
  congr 2
  apply List.filter_congr
  intro e he
  by_cases same : e.1 = producer
  · simp [other e he same]
  · simp [same]

/-- A producer that is admitted leaves with its job. -/
theorem jobs_admitted (h : p.IsOrderly own) {producer : Nat} {job : ι}
    (mine : ∀ e ∈ p.waiting, e.1 = producer → own e.2 = true)
    (admitted : p.admitted? producer = some job) :
    p.jobs own = job ::ₘ (p.withdraw producer).jobs own := by
  obtain ⟨e, found, rfl⟩ := Option.map_eq_some_iff.mp admitted
  have mem : e ∈ p.waiting := List.mem_of_mem_take (List.mem_of_find?_eq_some found)
  have same : e.1 = producer := by simpa using List.find?_some found
  have own_e := mine e mem same
  obtain ⟨front, back, waiting⟩ := List.append_of_mem mem
  -- No other job of this producer waits, so the rest stays.
  have alone : ∀ d ∈ front ++ back, d.1 = producer → False := by
    intro d hd hsame
    have nodup := h.producers
    rw [waiting, List.filter_append, List.filter_cons_of_pos (by simpa using own_e),
      List.map_append, List.map_cons, List.nodup_middle, List.nodup_cons] at nodup
    apply nodup.1
    rw [← List.map_append, ← List.filter_append]
    refine List.mem_map.mpr ⟨d, List.mem_filter.mpr ⟨hd, ?_⟩, hsame.trans same.symm⟩
    refine mine d ?_ hsame
    rw [waiting]
    rcases List.mem_append.mp hd with hd | hd
    · exact List.mem_append_left _ hd
    · exact List.mem_append_right _ (List.mem_cons_of_mem _ hd)
  have rest : p.waiting.filter (fun w => w.1 ≠ producer) = front ++ back := by
    rw [waiting, List.filter_append, List.filter_cons_of_neg (by simpa using same),
      ← List.filter_append, List.filter_eq_self]
    intro d hd
    simpa using alone d hd
  have left : (p.withdraw producer).jobs own = pick own ((front ++ back).map Prod.snd) +
      pick own p.queue + pick own (p.busy.map Prod.snd) := by
    rw [← rest]
    rfl
  rw [left, jobs, waiting, ← Multiset.singleton_add]
  simp only [List.map_append, List.map_cons, pick_append]
  rw [pick_cons e.2, pick_of_own own_e]
  abel

/-! ## Workers -/

/-- The first worker in line takes the first job of the queue. -/
theorem exists_take_eq {job : ι} (offered : p.offered? n = some job) :
    ∃ idle queue, p.idle = n :: idle ∧ p.queue = job :: queue ∧
      p.take n = { p with idle, queue, busy := p.busy ++ [(n, job)] } := by
  have first := offered
  unfold offered? isNext at first
  split at first
  · next next =>
    obtain ⟨idle, hi⟩ :=
      List.head?_eq_some_iff.mp (by simpa using (Bool.and_eq_true_iff.mp next).1)
    obtain ⟨queue, hq⟩ := List.head?_eq_some_iff.mp first
    refine ⟨idle, queue, hi, hq, ?_⟩
    rw [take, offered]
    simp only [hi, hq, List.drop_one, List.tail_cons]
  · cases first

theorem take_of_offered?_eq_none (h : p.offered? n = none) : p.take n = p := by rw [take, h]

/-- A worker takes a job from the queue into its hands. -/
theorem jobs_take (p : Pool ι) (n : Nat) : (p.take n).jobs own = p.jobs own := by
  cases offered : p.offered? n with
  | none => rw [take_of_offered?_eq_none offered]
  | some job =>
    obtain ⟨idle, queue, -, hq, taken⟩ := exists_take_eq offered
    rw [taken]
    simp only [jobs, hq, List.map_append, List.map_cons, List.map_nil, pick_append]
    rw [pick_cons job queue]
    abel

theorem IsOrderly.take (h : p.IsOrderly own) (n : Nat) : (p.take n).IsOrderly own := by
  cases offered : p.offered? n with
  | none => rwa [take_of_offered?_eq_none offered]
  | some job =>
    obtain ⟨idle, queue, hi, -, taken⟩ := exists_take_eq offered
    rw [taken]
    refine ⟨?_, h.producers⟩
    have nodup := h.workers
    rw [hi, List.cons_append] at nodup
    simp only [List.map_append, List.map_cons, List.map_nil, ← List.append_assoc]
    exact (List.perm_append_singleton n _).symm.nodup nodup

/-- A worker's job among those in hand: what the worker does with it does not touch the others. -/
theorem exists_busy_eq (h : p.IsOrderly own) {job : ι} (held : p.job? n = some job) :
    ∃ front back, p.busy = front ++ (n, job) :: back ∧
      (∀ next, (p.setJob n next).busy = front ++ (n, next) :: back) ∧
      (p.finish n).busy = front ++ back := by
  obtain ⟨front, back, busy, -⟩ := List.lookup_eq_some_iff.mp held
  have others : ∀ e ∈ front ++ back, e.1 ≠ n := by
    have nodup := (List.nodup_append.mp h.workers).2.1
    rw [busy, List.map_append, List.map_cons, List.nodup_middle, List.nodup_cons,
      ← List.map_append] at nodup
    intro e he same
    exact nodup.1 (List.mem_map.mpr ⟨e, he, same⟩)
  refine ⟨front, back, busy, fun next => ?_, ?_⟩
  · have set : ∀ l : List (Nat × ι), (∀ e ∈ l, e.1 ≠ n) →
        l.map (fun b => if b.1 = n then (n, next) else b) = l := by
      intro l hl
      refine (List.map_congr_left ?_).trans (List.map_id l)
      intro e he
      rw [if_neg (hl e he), id]
    have front_set := set front fun e he => others e (List.mem_append_left _ he)
    have back_set := set back fun e he => others e (List.mem_append_right _ he)
    simp only [setJob, busy, List.map_append, List.map_cons, front_set, back_set, ↓reduceIte]
  · simp only [finish]
    rw [busy, List.filter_append, List.filter_cons_of_neg (by simp), ← List.filter_append,
      List.filter_eq_self]
    intro e he
    simpa using others e he

/-- A worker's job among the jobs of the pool: what it does with it does not touch the others. -/
theorem exists_jobs_eq (h : p.IsOrderly own) {job : ι} (held : p.job? n = some job) :
    ∃ rest, p.jobs own = pick own [job] + rest ∧
      (∀ next, (p.setJob n next).jobs own = pick own [next] + rest) ∧
      (p.finish n).jobs own = rest := by
  obtain ⟨front, back, busy, set, gone⟩ := exists_busy_eq h held
  refine ⟨pick own (p.waiting.map Prod.snd) + pick own p.queue +
    pick own ((front ++ back).map Prod.snd), ?_, ?_, ?_⟩
  · simp only [jobs, busy, List.map_append, List.map_cons, pick_append]
    rw [pick_cons job]
    abel
  · intro next
    rw [jobs, set next]
    simp only [setJob, List.map_append, List.map_cons, pick_append]
    rw [pick_cons next]
    abel
  · rw [jobs, gone]
    rfl

theorem IsOrderly.setJob (h : p.IsOrderly own) (n : Nat) (job : ι) :
    (p.setJob n job).IsOrderly own := by
  refine ⟨?_, h.producers⟩
  have names : (p.setJob n job).busy.map Prod.fst = p.busy.map Prod.fst := by
    simp only [Pool.setJob, List.map_map]
    apply List.map_congr_left
    intro e _
    by_cases same : e.1 = n
    · simp [same]
    · simp [same]
  rw [names]
  exact h.workers

theorem IsOrderly.finish (h : p.IsOrderly own) {job : ι} (held : p.job? n = some job) :
    (p.finish n).IsOrderly own := by
  refine ⟨?_, h.producers⟩
  obtain ⟨front, back, busy, -, gone⟩ := exists_busy_eq h held
  have nodup := h.workers
  rw [busy] at nodup
  rw [gone]
  refine (List.Perm.nodup_iff ?_).mp nodup
  simp only [Pool.finish, List.map_append, List.map_cons, List.append_assoc]
  exact List.perm_middle.append_left _

/-- A worker that leaves has no job; the queue may be dropped with the last. -/
theorem jobs_leave_le (p : Pool ι) (n : Nat) : (p.leave n).jobs own ≤ p.jobs own := by
  unfold leave
  dsimp only
  split
  · unfold jobs
    gcongr
    exact Multiset.zero_le _
  · exact le_refl _

theorem IsOrderly.leave (h : p.IsOrderly own) (n : Nat) : (p.leave n).IsOrderly own := by
  have workers : (p.idle.erase n ++ p.busy.map Prod.fst).Nodup :=
    h.workers.sublist (List.erase_sublist.append_right _)
  unfold Pool.leave
  dsimp only
  split
  · exact ⟨workers, h.producers⟩
  · exact ⟨workers, h.producers⟩

end Pool

end Switchboard
