import Switchboard.Proofs.LaneMoves
import Switchboard.Proofs.PoolMoves
import Switchboard.Proofs.PoolRuns

/-!
# Standing in line at the pool

Jobs stand in line in the queue, idle workers for a job, and producers for a place in the queue.
Unless a worker takes a job, the first jobs and the first workers stay the first
(`Runner.PoolMove.isPrefix`); a producer that waits loses its turn to nobody
(`Runner.PoolMove.isBehind`), and the first of them loses no place that is free for it
(`Runner.PoolMove.room`). Whoever has its turn is able to act (`Runner.exists_taken`,
`Runner.able_of_enters`).
-/

namespace Switchboard

/-- Whoever waits in front of or behind another one that leaves is still there. -/
theorem Pool.waiting_withdraw {ι : Type} {p : Pool ι} {e : Nat × ι} {front back : List (Nat × ι)}
    {producer : Nat} (waiting : p.waiting = front ++ e :: back) (other : e.1 ≠ producer) :
    (p.withdraw producer).waiting =
      (front.filter fun d => d.1 ≠ producer) ++ e :: back.filter fun d => d.1 ≠ producer := by
  rw [withdraw, waiting, List.filter_append, List.filter_cons_of_pos (by simpa using other)]

/-- A busy worker has its job in hand. -/
theorem Pool.IsOrderly.job?_of_mem {ι : Type} {own : ι → Bool} {p : Pool ι} {w : Nat} {job : ι}
    (h : p.IsOrderly own) (busy : (w, job) ∈ p.busy) : p.job? w = some job := by
  obtain ⟨front, back, split⟩ := List.append_of_mem busy
  have nodup := (List.nodup_append.mp h.workers).2.1
  rw [split, List.map_append, List.map_cons, List.nodup_middle, List.nodup_cons] at nodup
  rw [job?, List.lookup_eq_some_iff]
  refine ⟨front, back, split, fun e he => ?_⟩
  have there : e.1 ∈ front.map Prod.fst := List.mem_map_of_mem he
  have other : w ≠ e.1 := by
    rintro rfl
    exact nodup.1 (List.mem_append_left _ there)
  simpa using other

namespace Runner

variable {κ : Type} {r : Runner κ} {m : Move} {a : Actor} {n w : Nat} {e : Nat × Work κ}
  {v : Work κ} {q : Pool (Work κ)}

theorem move_of_unable (unable : able a r = false) : r.move (.act a) = r :=
  if_neg (by rw [unable]; exact Bool.false_ne_true)

theorem move_of_able (able : Runner.able a r = true) : r.move (.act a) = step a r := if_pos able

/-! ## The queue -/

/-- By a move a worker takes a job. -/
def Takes (r : Runner κ) (m : Move) : Prop :=
  ∃ w, m = .act (.worker w) ∧ (r.pool.offered? w).isSome = true

/-- Unless a worker takes a job, the first jobs stay in the queue and the first workers in line. -/
theorem PoolMove.isPrefix (h : r.PoolMove m q) (none : ¬r.Takes m) :
    r.pool.queue <+: q.queue ∧ r.pool.idle <+: q.idle := by
  cases h with
  | same pool => simp [pool]
  | pushes v room pool => simp [pool, Pool.push]
  | waits producer v pool => simp [pool, Pool.keepWaiting]
  | enters producer v acts admitted pool => simp [pool, Pool.push, Pool.withdraw]
  | takes w acts free pool =>
    have nothing : r.pool.offered? w = Option.none := by
      by_contra offered
      exact none ⟨w, acts, Option.isSome_iff_ne_none.mpr offered⟩
    simp [pool, Pool.take_of_offered?_eq_none nothing]
  | handles w v next acts hands pool =>
    cases next with
    | none => simp [pool, putDown, Pool.finish]
    | some u => simp [pool, putDown, Pool.setJob]

/-- A worker that takes a job has none in hand before. -/
theorem IsOrderly.job?_of_offered (orderly : r.IsOrderly) (offered : r.pool.offered? w = some v) :
    r.pool.job? w = none := by
  obtain ⟨idle, queue, line, -, -⟩ := Pool.exists_take_eq offered
  have nodup := orderly.pool.workers
  rw [line, List.cons_append, List.nodup_cons] at nodup
  rw [Pool.job?, List.lookup_eq_none_iff]
  intro e he
  have other : w ≠ e.1 := fun same =>
    nodup.1 (List.mem_append_right _ (same ▸ List.mem_map_of_mem he))
  simpa using other

theorem workerIsAble_of_offered (orderly : r.IsOrderly) (offered : r.pool.offered? w = some v) :
    r.workerIsAble w = true := by
  rw [workerIsAble, orderly.job?_of_offered offered, offered]
  rfl

/-- The first job of the queue comes into the hands of the first worker in line. -/
theorem exists_taken (orderly : r.IsOrderly) (isOpen : r.pool.closed = false)
    (offered : r.pool.offered? w = some v) :
    ∃ queue, r.pool.queue = v :: queue ∧ (r.move (.act (.worker w))).pool.queue = queue ∧
      (r.move (.act (.worker w))).pool.job? w = some v ∧
      (r.move (.act (.worker w))).pool.capacity = r.pool.capacity := by
  have free := orderly.job?_of_offered offered
  have stays : r.pool.canLeave w = false := by rw [Pool.canLeave, isOpen, Bool.false_and]
  have takes : (r.move (.act (.worker w))).pool = r.pool.take w := by
    have able : Runner.able (.worker w) r = true := workerIsAble_of_offered orderly offered
    rw [move_of_able able]
    show (r.workerStep w).pool = _
    simp only [workerStep, free, stays, Bool.false_eq_true, if_false]
  obtain ⟨idle, queue, -, hq, taken⟩ := Pool.exists_take_eq offered
  rw [takes, taken]
  rw [Pool.job?] at free
  refine ⟨queue, hq, rfl, ?_, rfl⟩
  simp [Pool.job?, List.lookup_append, free]

/-! ## Room -/

/-- The queue has places, and it does not hold more jobs than that. -/
structure HasPlaces (r : Runner κ) : Prop where
  some : 1 ≤ r.pool.capacity
  enough : r.pool.queue.length ≤ r.pool.capacity

theorem PoolMove.capacity_eq (h : r.PoolMove m q) : q.capacity = r.pool.capacity := by
  cases h with
  | takes w acts free pool =>
    rw [pool, Pool.take]
    split <;> rfl
  | handles w v next acts hands pool =>
    cases next <;> simp [pool, putDown, Pool.finish, Pool.setJob]
  | _ => simp [*, Pool.push, Pool.keepWaiting, Pool.withdraw]

theorem HasPlaces.of_poolMove (places : r.HasPlaces) (h : r.PoolMove m q) :
    q.queue.length ≤ q.capacity := by
  have enough := places.enough
  rw [h.capacity_eq]
  cases h with
  | same pool => rwa [pool]
  | pushes v room pool =>
    simp only [Pool.hasRoom, decide_eq_true_eq] at room
    simp only [pool, Pool.push, List.length_append, List.length_singleton]
    omega
  | waits producer v pool => rwa [pool]
  | enters producer v acts admitted pool =>
    have room := Pool.length_queue_lt_of_admitted? admitted
    simpa [pool, Pool.push, Pool.withdraw, Nat.succ_le_iff] using room
  | takes w acts free pool =>
    cases offered : r.pool.offered? w with
    | none => rwa [pool, Pool.take_of_offered?_eq_none offered]
    | some v =>
      obtain ⟨idle, queue, -, hq, taken⟩ := Pool.exists_take_eq offered
      rw [hq] at enough
      rw [pool, taken]
      exact Nat.le_of_succ_le enough
  | handles w v next acts hands pool =>
    cases next with
    | none => rwa [pool]
    | some u => rwa [pool]

/-! ## Those who wait -/

/-- An intake that waits at the pool belongs to a lane that has started. -/
def WaitsStarted (r : Runner κ) : Prop :=
  ∀ l ∈ r.lanes, l.intake = .waiting → l.supervisor ≠ .starting

theorem WaitsStarted.move (h : r.WaitsStarted) (going : m ≠ .cancel) :
    (r.move m).WaitsStarted := by
  by_cases idle : ∃ a, m = .act a ∧ able a r = false
  · obtain ⟨a, rfl, unable⟩ := idle
    rwa [move_of_unable unable]
  · intro l' hl' waiting
    obtain ⟨j, hj⟩ := List.getElem?_of_mem hl'
    rcases isAside_or_stepsLane r going with aside | ⟨k, l, l₁, es, hl, steps⟩
    · exact h l' (aside.lanes ▸ hl') waiting
    · rw [steps.lanes] at hj
      split at hj
      · cases hj
        have old := h l (List.mem_of_getElem? hl)
        have done := steps.done
        generalize List.filter _ _ = es' at done
        cases done with
        | accepts i rest intake _ _ after =>
          rcases after with rfl | ⟨job, rfl⟩
          all_goals cases waiting
        | offers intake busy =>
          have able : r.intakeIsAble k = true := by
            by_contra unable
            exact idle ⟨.intake k, rfl, Bool.eq_false_iff.mpr unable⟩
          simp only [intakeIsAble, hl, Bool.and_eq_true, bne_iff_ne] at able
          exact able.1
        | intakeEnds => cases waiting
        | starts => simp
        | closes => simp
        | leaves => simp
        | _ => exact old waiting
      · exact h l' (List.mem_of_getElem? hj) waiting

/-- Nobody waits twice. -/
theorem nodup_producers (orderly : r.IsOrderly) (served : r.IsServed) :
    (r.pool.waiting.map Prod.fst).Nodup := by
  have split := (List.filter_append_perm (fun e : Nat × Work κ => e.2.ofLane) r.pool.waiting).map
    Prod.fst
  refine split.nodup_iff.mp ?_
  rw [List.map_append, List.nodup_append]
  refine ⟨orderly.pool.producers, served.producers, ?_⟩
  intro i hi j hj same
  obtain ⟨e, he, rfl⟩ := List.mem_map.mp hi
  obtain ⟨f, hf, rfl⟩ := List.mem_map.mp hj
  obtain ⟨intake, own⟩ := List.mem_filter.mp he
  obtain ⟨timer, task⟩ := List.mem_filter.mp hf
  obtain ⟨k, l, even, -⟩ := orderly.intakes e intake own
  obtain ⟨n, odd⟩ := orderly.timers f timer (by simpa using task)
  exact intakeProducer_ne_timerProducer k n (even.symm.trans (same.trans odd))

/-- Who is admitted comes with its own job. -/
theorem eq_of_admitted? (alone : (r.pool.waiting.map Prod.fst).Nodup) (waits : e ∈ r.pool.waiting)
    (admitted : r.pool.admitted? e.1 = some v) : v = e.2 := by
  obtain ⟨f, found, rfl⟩ := Option.map_eq_some_iff.mp admitted
  have mem : f ∈ r.pool.waiting := List.mem_of_mem_take (List.mem_of_find?_eq_some found)
  have same : f.1 = e.1 := by simpa using List.find?_some found
  rw [List.inj_on_of_nodup_map alone mem waits same]

/-- By a move a producer that waits puts its job into the queue. -/
def Enters (r : Runner κ) (m : Move) (e : Nat × Work κ) : Prop :=
  m.producer? = some e.1 ∧ r.pool.admitted? e.1 = some e.2

/-- Whoever waits at the pool has an actor, which is able to act when it is admitted. -/
theorem exists_producer? (orderly : r.IsOrderly) (waits : e ∈ r.pool.waiting) :
    ∃ a, (Move.act a).producer? = some e.1 := by
  cases own : e.2.ofLane with
  | true =>
    obtain ⟨k, l, even, -⟩ := orderly.intakes e waits own
    exact ⟨.intake k, congrArg some even.symm⟩
  | false =>
    obtain ⟨n, odd⟩ := orderly.timers e waits own
    exact ⟨.timer n, congrArg some odd.symm⟩

/-- The producer that is admitted is able to act, and its job joins the queue. -/
theorem able_of_enters (orderly : r.IsOrderly) (served : r.IsServed) (started : r.WaitsStarted)
    (isOpen : r.pool.closed = false) (waits : e ∈ r.pool.waiting)
    (enters : r.Enters (.act a) e) :
    Runner.able a r = true ∧ (step a r).pool = (r.pool.withdraw e.1).push e.2 := by
  obtain ⟨acts, admitted⟩ := enters
  have answers : r.poolAnswers e.1 = true := by
    have there : r.pool.isWaiting e.1 = true := by
      rw [Pool.isWaiting, List.any_eq_true]
      exact ⟨e, waits, beq_self_eq_true _⟩
    rw [poolAnswers, there, admitted]
    simp
  cases a with
  | intake k =>
    obtain even : intakeProducer k = e.1 := Option.some_inj.mp acts
    have own := orderly.ofLane_of_intake e waits even.symm
    obtain ⟨k', l, even', hl, waiting⟩ := orderly.intakes e waits own
    obtain rfl : k = k' := by
      rw [even', intakeProducer, intakeProducer] at even
      omega
    have begun : l.supervisor ≠ .starting := started l (List.mem_of_getElem? hl) waiting
    constructor
    · show r.intakeIsAble k = true
      simp [intakeIsAble, hl, waiting, begun, even, answers]
    · show (r.intakeStep k).pool = _
      simp [intakeStep, hl, waiting, enter, isOpen, even, admitted, setLane]
  | timer n =>
    obtain odd : timerProducer n = e.1 := Option.some_inj.mp acts
    have task := orderly.task_of_timer e waits odd.symm
    have mem : e ∈ r.waitingTasks := List.mem_filter.mpr ⟨waits, by simp [Work.ofTask, task]⟩
    obtain ⟨n', odd', firing⟩ := served.firing e mem
    obtain rfl : n = n' := timerProducer_inj (odd.trans odd')
    obtain ⟨timer, found, fires⟩ := (Option.any_eq_true ..).mp firing
    constructor
    · show r.timerIsAble n = true
      simp [timerIsAble, found, fires, odd, answers]
    · show (r.timerStep n).pool = _
      simp [timerStep, found, fires, isOpen, odd, admitted, rearm]
  | _ => cases acts

theorem pool_of_enters (orderly : r.IsOrderly) (served : r.IsServed) (started : r.WaitsStarted)
    (isOpen : r.pool.closed = false) (waits : e ∈ r.pool.waiting) (enters : r.Enters m e) :
    (r.move m).pool = (r.pool.withdraw e.1).push e.2 := by
  cases m with
  | act a =>
    obtain ⟨able, pool⟩ := able_of_enters orderly served started isOpen waits enters
    rw [move_of_able able, pool]
  | _ => cases enters.1

/-- There are at most so many producers in front of one that waits. -/
def IsBehind (r : Runner κ) (e : Nat × Work κ) (k : Nat) : Prop :=
  ∃ front back, r.pool.waiting = front ++ e :: back ∧ front.length ≤ k

theorem IsBehind.mem {k : Nat} (h : r.IsBehind e k) : e ∈ r.pool.waiting := by
  obtain ⟨front, back, waiting, -⟩ := h
  simp [waiting]

/-- A producer that waits loses its turn to nobody. -/
theorem PoolMove.isBehind (h : r.PoolMove m (r.move m).pool)
    (alone : (r.pool.waiting.map Prod.fst).Nodup) (none : ¬r.Enters m e) {k : Nat}
    (behind : r.IsBehind e k) : (r.move m).IsBehind e k := by
  have waits := behind.mem
  obtain ⟨front, back, waiting, few⟩ := behind
  cases h with
  | same pool => exact ⟨front, back, by rw [pool, waiting], few⟩
  | pushes v room pool => exact ⟨front, back, by rw [pool, Pool.push, waiting], few⟩
  | waits producer v pool =>
    refine ⟨front, back ++ [(producer, v)], ?_, few⟩
    rw [pool, Pool.keepWaiting, waiting, List.append_assoc]
    rfl
  | enters producer v acts admitted pool =>
    have other : e.1 ≠ producer := by
      rintro rfl
      exact none ⟨acts, eq_of_admitted? alone waits admitted ▸ admitted⟩
    have after := Pool.waiting_withdraw waiting other
    exact ⟨_, _, by rw [pool]; exact after, (List.length_filter_le _ _).trans few⟩
  | takes w acts free pool =>
    refine ⟨front, back, ?_, few⟩
    rw [pool, Pool.take]
    split <;> exact waiting
  | handles w v next acts hands pool =>
    cases next with
    | none => exact ⟨front, back, by rw [pool, putDown, Pool.finish, waiting], few⟩
    | some u => exact ⟨front, back, by rw [pool, putDown, Pool.setJob, waiting], few⟩

/-- When the first producer has gone, there is one less in front of the others. -/
theorem isBehind_of_pool {f : Nat × Work κ} {k : Nat} {front back : List (Nat × Work κ)}
    (alone : (r.pool.waiting.map Prod.fst).Nodup)
    (waiting : r.pool.waiting = f :: front ++ e :: back) (few : front.length ≤ k)
    (pool : (r.move m).pool = (r.pool.withdraw f.1).push f.2) : (r.move m).IsBehind e k := by
  have other : e.1 ≠ f.1 := by
    rw [waiting, List.cons_append, List.map_cons, List.nodup_cons] at alone
    exact fun same => alone.1 (same ▸ List.mem_map_of_mem (by simp))
  have after := Pool.waiting_withdraw waiting other
  rw [List.filter_cons_of_neg (by simp)] at after
  exact ⟨_, _, by rw [pool]; exact after, (List.length_filter_le _ _).trans few⟩

/-- A place that is free for the first producer that waits stays free for it. -/
theorem PoolMove.room (h : r.PoolMove m q) {rest : List (Nat × Work κ)}
    (waiting : r.pool.waiting = e :: rest) (none : ¬r.Enters m e)
    (room : r.pool.queue.length < r.pool.capacity) : q.queue.length < q.capacity := by
  rw [h.capacity_eq]
  cases h with
  | same pool => rwa [pool]
  | pushes v places pool =>
    simp only [Pool.hasRoom, waiting, decide_eq_true_eq, List.length_cons] at places
    simp only [pool, Pool.push, List.length_append, List.length_singleton]
    omega
  | waits producer v pool => rwa [pool]
  | enters producer v acts admitted pool =>
    have other : producer ≠ e.1 := by
      rintro rfl
      rw [Pool.admitted?_head waiting room] at admitted
      cases admitted
      exact none ⟨acts, Pool.admitted?_head waiting room⟩
    -- Somebody behind the first is admitted, so that there is more than one free place.
    have places : 2 ≤ r.pool.capacity - r.pool.queue.length := by
      by_contra few
      have one : r.pool.capacity - r.pool.queue.length = 1 := by omega
      simp [Pool.admitted?, waiting, one, other.symm] at admitted
    simp only [pool, Pool.push, Pool.withdraw, List.length_append, List.length_singleton]
    omega
  | takes w acts free pool =>
    cases offered : r.pool.offered? w with
    | none => rwa [pool, Pool.take_of_offered?_eq_none offered]
    | some v =>
      obtain ⟨idle, queue, -, hq, taken⟩ := Pool.exists_take_eq offered
      rw [hq] at room
      rw [pool, taken]
      exact (Nat.lt_succ_self _).trans room
  | handles w v next acts hands pool =>
    cases next with
    | none => rwa [pool]
    | some u => rwa [pool]

end Runner

end Switchboard
