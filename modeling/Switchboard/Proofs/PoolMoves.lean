import Mathlib.Data.Prod.Lex
import Switchboard.Proofs.TaskMoves

/-!
# Moves and the pool

All that a move does to an open pool is said by `Runner.PoolMove`, one case for each thing that can
be done to it (`poolMove_move`). A worker that goes on with a job puts it down or brings it closer
to its end, as the rank of its stage says (`Stage.rank`): it begins, its execution waits less and
less often, and fewer and fewer outputs are left to be sent.
-/

namespace Switchboard

/-- How often an activity may wait yet. -/
def Activity.depth {α : Type} : Activity α → Nat
  | .sleep _ after => after.depth + 1
  | .guarded _ _ finished givenUp => max finished.depth givenUp.depth + 1
  | _ => 0

/-- How far a job is from its end. -/
def Stage.rank {κ : Type} : Stage κ → Lex (Nat × Nat)
  | .ready => toLex (2, 0)
  | .talking _ _ e => toLex (1, e.rest.depth)
  | .working e => toLex (1, e.rest.depth)
  | .sending outputs => toLex (0, outputs.length)

theorem Execution.depth_goOn_lt {α : Type} {e : Execution α} (going : e.outcome? = none)
    (now : Nat) (cancelled : Bool) : (e.goOn now cancelled).rest.depth < e.rest.depth := by
  unfold Execution.goOn
  split
  · next rest =>
    rw [rest, rest_start, Activity.depth]
    exact Nat.lt_succ_self _
  · next rest =>
    rw [rest, rest_start, Activity.depth, Nat.lt_succ_iff]
    split
    · exact le_max_right _ _
    · exact le_max_left _ _
  · next noSleep noGuard =>
    rw [outcome?] at going
    split at going
    · cases going
    · cases going
    · cases going
    · next noDone noFail noPanic =>
      cases rest : e.rest with
      | done a => exact absurd rest (noDone a)
      | fail c => exact absurd rest (noFail c)
      | panic m => exact absurd rest (noPanic m)
      | sleep ms after => exact absurd rest (noSleep ms after)
      | guarded ms limit a b => exact absurd rest (noGuard ms limit a b)

namespace Runner

variable {κ : Type} {r r' : Runner κ} {m : Move} {n k : Nat} {es : List (Happening κ)}

/-! ## Workers -/

theorem Labour.rank_lt {w v : Work κ} {conversations : Conversations κ}
    (h : Labour r w (some v) conversations es) : v.stage.rank < w.stage.rank := by
  cases h with
  | deliver => exact .left _ _ (by decide)
  | resume => exact .left _ _ (by decide)
  | execute => exact .left _ _ (by decide)
  | wait _ _ _ _ _ e going => exact .right _ (Execution.depth_goOn_lt going _ _)
  | conclude => exact .left _ _ (by decide)
  | store => exact .left _ _ (by decide)
  | send => exact .right _ (Nat.lt_succ_self _)

theorem TaskLabour.rank_lt {t : ScheduledTask} {s s' : Stage κ}
    (h : TaskLabour r k t s (some s') es) : s'.rank < s.rank := by
  cases h with
  | begins => exact .left _ _ (by decide)
  | waits e going => exact .right _ (Execution.depth_goOn_lt going _ _)
  | returns => exact .left _ _ (by decide)
  | sends => exact .right _ (Nat.lt_succ_self _)

/-- A worker that goes on with its job puts it down or brings it closer to its end. -/
theorem exists_putDown_carryOn (orderly : r.IsOrderly) (fit : r.IsFit) (served : r.IsServed)
    (tasks : r.TasksAreFit) {v : Work κ} (hands : r.pool.job? n = some v) :
    ∃ next, (r.carryOn n v).pool = putDown r.pool n next ∧
      ∀ u, next = some u → u.stage.rank < v.stage.rank := by
  cases own : v.ofLane with
  | true =>
    obtain ⟨fitting, bound⟩ := fit v (orderly.mem_works hands own)
    obtain ⟨next, conversations, es, metrics, labour, frame⟩ :=
      carryOn_spec (n := n) own fitting (List.getElem?_eq_getElem bound)
    refine ⟨next, by rw [frame], ?_⟩
    rintro u rfl
    exact labour.rank_lt
  | false =>
    have task : v.ofTask = true := by simp [Work.ofTask, own]
    obtain ⟨k, t, s, rfl, lane, stage⟩ := tasks.of_hands orderly served hands task
    obtain ⟨l, hl, -⟩ := exists_lane_of_laneOf? lane
    obtain ⟨next, es, done, -, pool, -⟩ := carryOn_perform (n := n) (t := t) stage hl
    refine ⟨_, pool, ?_⟩
    intro u hu
    obtain ⟨s', rfl, rfl⟩ := Option.map_eq_some_iff.mp hu
    exact done.rank_lt

/-! ## Moves -/

/-- What a move does to an open pool. -/
inductive PoolMove (r : Runner κ) (m : Move) (p : Pool (Work κ)) : Prop
  | same (pool : p = r.pool)
  /-- A job joins the queue at once. -/
  | pushes (v : Work κ) (room : r.pool.hasRoom = true) (pool : p = r.pool.push v)
  /-- A job joins those that wait for room. -/
  | waits (producer : Nat) (v : Work κ) (pool : p = r.pool.keepWaiting producer v)
  /-- A job that has waited joins the queue. -/
  | enters (producer : Nat) (v : Work κ) (acts : m.producer? = some producer)
    (admitted : r.pool.admitted? producer = some v) (pool : p = (r.pool.withdraw producer).push v)
  /-- A worker that has no job may take one. -/
  | takes (w : Nat) (acts : m = .act (.worker w)) (free : r.pool.job? w = none)
    (pool : p = r.pool.take w)
  /-- A worker goes on with its job. -/
  | handles (w : Nat) (v : Work κ) (next : Option (Work κ)) (acts : m = .act (.worker w))
    (hands : r.pool.job? w = some v) (pool : p = putDown r.pool w next)
    (closer : ∀ u, next = some u → u.stage.rank < v.stage.rank)

theorem poolMove_workerStep (orderly : r.IsOrderly) (fit : r.IsFit) (served : r.IsServed)
    (tasks : r.TasksAreFit) (isOpen : r.pool.closed = false) (n : Nat) :
    r.PoolMove (.act (.worker n)) (r.workerStep n).pool := by
  cases hands : r.pool.job? n with
  | some v =>
    have step : r.workerStep n = r.carryOn n v := by simp only [workerStep, hands]
    obtain ⟨next, pool, closer⟩ := exists_putDown_carryOn orderly fit served tasks hands
    rw [step]
    exact .handles n v next rfl hands pool closer
  | none =>
    have stays : r.pool.canLeave n = false := by rw [Pool.canLeave, isOpen, Bool.false_and]
    have takes : r.workerStep n = { r with pool := r.pool.take n } := by
      simp only [workerStep, hands, stays]
      rfl
    rw [takes]
    exact .takes n rfl hands rfl

theorem poolMove_intakeStep (isOpen : r.pool.closed = false) (k : Nat) :
    r.PoolMove (.act (.intake k)) (r.intakeStep k).pool := by
  unfold intakeStep
  split
  · exact .same rfl
  · split
    · exact .same rfl
    · unfold offer
      rw [if_neg (by simp [isOpen])]
      split
      · next room => exact .pushes _ room rfl
      · exact .waits _ _ rfl
    · unfold enter
      dsimp only
      rw [if_neg (by simp [isOpen])]
      split
      · exact .same rfl
      · next admitted => exact .enters _ _ rfl admitted rfl
    · split
      · exact .same rfl
      · split
        · exact .same rfl
        · unfold accept
          dsimp only
          split <;> exact .same rfl

theorem poolMove_timerStep (isOpen : r.pool.closed = false) (n : Nat) :
    r.PoolMove (.act (.timer n)) (r.timerStep n).pool := by
  unfold timerStep
  split
  · exact .same rfl
  · split
    · dsimp only
      rw [if_neg (by simp [isOpen])]
      split
      · exact .same rfl
      · next admitted => exact .enters _ _ rfl admitted rfl
    · unfold fire
      dsimp only
      split
      · exact .same rfl
      · rw [if_neg (by simp [isOpen, emit])]
        split
        · next room => exact .pushes _ room rfl
        · exact .waits _ _ rfl

/-- All that a move does to an open pool. -/
theorem poolMove_move (orderly : r.IsOrderly) (fit : r.IsFit) (served : r.IsServed)
    (tasks : r.TasksAreFit) (isOpen : r.pool.closed = false) (going : m ≠ .cancel) :
    r.PoolMove m (r.move m).pool := by
  have still : (r.move m).pool = { r.pool with closed := (r.move m).pool.closed } →
      r.PoolMove m (r.move m).pool := fun h => .same (by rw [h, closed_move r going])
  cases m with
  | act a =>
    by_cases able : Runner.able a r = true
    · have step : r.move (.act a) = step a r := if_pos able
      rw [step] at still ⊢
      cases a with
      | worker n => exact poolMove_workerStep orderly fit served tasks isOpen n
      | intake k => exact poolMove_intakeStep isOpen k
      | timer n => exact poolMove_timerStep isOpen n
      | course => exact still (isStill_courseStep r).pool
      | supervisor k =>
        obtain ⟨es, h⟩ := exists_isStill_supervisorStep r k
        exact still h.pool
      | errorLoop k =>
        obtain ⟨es, h⟩ := exists_isStill_errorStep r k
        exact still h.pool
      | planner =>
        show r.PoolMove _ r.plannerStep.pool
        unfold plannerStep
        split <;> exact .same rfl
      | _ => exact .same rfl
    · exact .same (by rw [move, if_neg able])
  | cancel => exact absurd rfl going
  | _ => exact .same rfl

end Runner

end Switchboard
