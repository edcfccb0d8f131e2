import Switchboard.Proofs.PoolRuns
import Switchboard.Proofs.Turns

/-!
# The end of a pool

A pool from its start to its end (`PoolLife`): jobs are offered by calls, which are numbered, idle
workers share the receiving end of the queue, a reporter of the queue's length may belong to the
pool, and others wait for all of them to end. Whoever waits for several things at once looks at all
of them in one step, `PoolLife.move`, and those that end by the closing of the pool look for that
first; only the reporter may as well report.

The pool may be closed between any two steps. After that no job is started and no call succeeds;
each call that waits is refused when it looks again; a job in hand stays there until it ends; and
nobody is told that the pool has ended who could not be told so (`closed_pool_winds_down`). Nor
does the end fail to come: `closed_pool_ends`.
-/

namespace Switchboard

namespace Pool

variable {ι : Type} {p : Pool ι} {n : Nat} {job : ι}

/-! ## Who is at work -/

/-- The workers that have not left. -/
def staff (p : Pool ι) : List Nat := p.idle ++ p.busy.map Prod.fst

theorem length_staff (p : Pool ι) : p.staff.length = p.workers := by simp [staff, workers]

theorem perm_staff_promote (idle : n ∈ p.idle) : (p.promote n).staff.Perm p.staff :=
  (perm_promote idle).append_right _

theorem perm_staff_take (offered : p.offered? n = some job) : (p.take n).staff.Perm p.staff := by
  obtain ⟨idle, queue, hi, -, taken⟩ := exists_take_eq offered
  simp only [taken, staff, hi, List.map_append, List.map_cons, List.map_nil, ← List.append_assoc]
  exact List.perm_append_singleton n _

theorem perm_staff_finish {own : ι → Bool} (h : p.IsOrderly own) (held : p.job? n = some job) :
    (p.finish n).staff.Perm p.staff := by
  obtain ⟨front, back, busy, -, gone⟩ := exists_busy_eq h held
  rw [staff, staff, gone, busy]
  simp only [finish, List.map_append, List.map_cons, List.append_assoc, List.singleton_append]
  exact List.perm_middle.symm.append_left _

theorem idle_leave (p : Pool ι) (n : Nat) : (p.leave n).idle = p.idle.erase n := by
  unfold leave
  dsimp only
  split <;> rfl

theorem busy_leave (p : Pool ι) (n : Nat) : (p.leave n).busy = p.busy := by
  unfold leave
  dsimp only
  split <;> rfl

theorem waiting_leave (p : Pool ι) (n : Nat) : (p.leave n).waiting = p.waiting := by
  unfold leave
  dsimp only
  split <;> rfl

theorem closed_leave (p : Pool ι) (n : Nat) : (p.leave n).closed = p.closed := by
  unfold leave
  dsimp only
  split <;> rfl

theorem staff_leave_subset (p : Pool ι) (n : Nat) : (p.leave n).staff ⊆ p.staff := by
  rw [staff, idle_leave, busy_leave]
  exact (List.erase_sublist.append_right _).subset

/-- A producer that ends its waiting leaves the others waiting. -/
theorem perm_map_fst_withdraw {producer : Nat} (h : p.IsOrderly fun _ => true)
    (waits : p.isWaiting producer = true) :
    (p.waiting.map Prod.fst).Perm (producer :: (p.withdraw producer).waiting.map Prod.fst) := by
  have nodup : (p.waiting.map Prod.fst).Nodup := by simpa using h.producers
  have mem : producer ∈ p.waiting.map Prod.fst := by
    obtain ⟨e, he, same⟩ := List.any_eq_true.mp waits
    exact List.mem_map.mpr ⟨e, he, by simpa using same⟩
  have rest : (p.withdraw producer).waiting.map Prod.fst =
      (p.waiting.map Prod.fst).erase producer := by
    rw [nodup.erase_eq_filter, List.filter_map]
    refine congrArg _ (List.filter_congr fun w _ => ?_)
    by_cases same : w.1 = producer <;> simp [same]
  rw [rest]
  exact List.perm_cons_erase mem

end Pool

/-- What those who wait for the end of a pool join. -/
inductive PoolMember where
  | worker (number : Nat)
  | reporter
  deriving DecidableEq, Repr

/-- A pool from its start to its end. -/
structure PoolLife (ι : Type) extends Crew ι where
  /-- Whether the reporter of the queue's length goes on. -/
  reports : Bool := false
  /-- What has not been joined. -/
  unjoined : List PoolMember
  /-- How many jobs have been offered. -/
  calls : Nat := 0
  /-- The calls that have been answered. -/
  answers : List (Nat × Option PoolError) := []
  started : List ι := []
  finished : List ι := []
  /-- How often waiting for the pool's end has ended. -/
  returns : Nat := 0

namespace PoolLife

variable {ι : Type}

/-- A new pool, with a reporter or without. -/
def ofSize (workers queueSize : Nat) (reports : Bool) : PoolLife ι where
  toCrew := .ofSize workers queueSize
  reports
  unjoined := (List.range (max workers 1)).map .worker ++ if reports then [.reporter] else []

/-- A call is answered. -/
def answer (s : PoolLife ι) (call : Nat) (refusal : Option PoolError) : PoolLife ι :=
  { s with answers := s.answers ++ [(call, refusal)] }

/-- A job is offered. -/
def enqueue (s : PoolLife ι) (job : ι) : PoolLife ι :=
  let call := s.calls
  let s := { s with calls := call + 1 }
  if s.pool.closed then s.answer call (some .closed)
  else if s.pool.hasRoom then { s with pool := s.pool.push job }.answer call none
  else { s with pool := s.pool.keepWaiting call job }

/-- A call that waits looks again. -/
def retry (s : PoolLife ι) (call : Nat) : PoolLife ι :=
  if s.pool.isWaiting call then
    if s.pool.closed then
      { s with pool := s.pool.withdraw call }.answer call (some .closed)
    else
      match s.pool.admitted? call with
      | some job => { s with pool := (s.pool.withdraw call).push job }.answer call none
      | none => s
  else s

/-- The worker that has the receiving end of the queue looks. -/
def receive (s : PoolLife ι) (n : Nat) : PoolLife ι :=
  if s.pool.closed then { s with pool := s.pool.leave n, receiver := none }
  else
    let pool := s.pool.promote n
    match pool.offered? n with
    | some job => { s with pool := pool.take n, receiver := none, started := s.started ++ [job] }
    | none => { s with pool, receiver := some n }

/-- An idle worker looks; it does not get the receiving end of the queue while another has it. -/
def look (s : PoolLife ι) (n : Nat) : PoolLife ι :=
  if n ∈ s.pool.idle ∧ ∀ m ∈ s.receiver, m = n then s.receive n else s

/-- The job in a worker's hands ends. -/
def finish (s : PoolLife ι) (n : Nat) (panicked : Bool) : PoolLife ι :=
  match s.pool.job? n with
  | none => s
  | some job =>
    { s with
      pool := s.pool.finish n
      metrics := if panicked then s.metrics.increment Pool.panicCounter 1 else s.metrics
      finished := s.finished ++ [job] }

/-- The reporter reports or, if the pool is closed, stops. -/
def report (s : PoolLife ι) (stops : Bool) : PoolLife ι :=
  if s.pool.closed && stops then { s with reports := false }
  else if s.reports then
    { s with metrics := s.metrics.setGauge Pool.lengthGauge s.pool.queueLength }
  else s

/-- Whether a worker has not left, or the reporter not stopped. -/
def goesOn (s : PoolLife ι) : PoolMember → Bool
  | .worker n => s.pool.idle.contains n || (s.pool.busy.map Prod.fst).contains n
  | .reporter => s.reports

/-- Someone who waits for the end of the pool looks: all that have ended are joined, and if nothing
is left the waiting ends. -/
def join (s : PoolLife ι) : PoolLife ι :=
  let unjoined := s.unjoined.filter s.goesOn
  { s with unjoined, returns := if unjoined.isEmpty then s.returns + 1 else s.returns }

def close (s : PoolLife ι) : PoolLife ι := { s with pool := s.pool.close }

/-- What can happen to a pool. -/
inductive Move (ι : Type) where
  | enqueue (job : ι)
  | retry (call : Nat)
  | look (worker : Nat)
  | finish (worker : Nat) (panicked : Bool)
  | report (stops : Bool)
  | join
  | close

def move (s : PoolLife ι) : Move ι → PoolLife ι
  | .enqueue job => s.enqueue job
  | .retry call => s.retry call
  | .look n => s.look n
  | .finish n panicked => s.finish n panicked
  | .report stops => s.report stops
  | .join => s.join
  | .close => s.close

def run (s : PoolLife ι) (moves : List (Move ι)) : PoolLife ι := moves.foldl move s

variable {s t : PoolLife ι} {n call : Nat} {job : ι} {workers queueSize : Nat} {reports : Bool}
  {moves : List (Move ι)} {m : Move ι}

theorem run_append (s : PoolLife ι) (before after : List (Move ι)) :
    s.run (before ++ after) = (s.run before).run after := List.foldl_append

theorem run_cons (s : PoolLife ι) (m : Move ι) (rest : List (Move ι)) :
    s.run (m :: rest) = (s.move m).run rest := rfl

/-! ## What every move keeps -/

/-- What is so of a pool at each moment of its life. -/
structure IsSound (s : PoolLife ι) (workers : Nat) : Prop where
  orderly : s.pool.IsOrderly fun _ => true
  receiver : ∀ n ∈ s.receiver, n ∈ s.pool.idle
  /-- Each call has been answered once, or waits. -/
  calls : (s.answers.map Prod.fst ++ s.pool.waiting.map Prod.fst).Perm (List.range s.calls)
  /-- Each job that was started is in hand, or has ended. -/
  started : s.started.Perm (s.pool.busy.map Prod.snd ++ s.finished)
  /-- Nobody is joined that goes on. -/
  unjoined : ∀ m, s.goesOn m = true → m ∈ s.unjoined
  all : s.pool.closed = false → s.pool.workers = max workers 1
  returns : s.returns ≠ 0 → s.unjoined = []

theorem goesOn_worker : s.goesOn (.worker n) = true ↔ n ∈ s.pool.staff := by
  simp [goesOn, Pool.staff]

/-- Who goes on has gone on before, so nobody is joined too early. -/
theorem IsSound.unjoined_of_subset (sound : s.IsSound workers) {t : PoolLife ι}
    (staff : t.pool.staff ⊆ s.pool.staff) (reports : t.reports = true → s.reports = true) :
    ∀ m, t.goesOn m = true → m ∈ s.unjoined := by
  intro m goesOn
  refine sound.unjoined m ?_
  cases m with
  | worker n => exact goesOn_worker.mpr (staff (goesOn_worker.mp goesOn))
  | reporter => exact reports goesOn

theorem isSound_ofSize (workers queueSize : Nat) (reports : Bool) :
    (ofSize workers queueSize reports : PoolLife ι).IsSound workers where
  orderly := (Crew.isSound_ofSize workers queueSize).orderly
  receiver := by simp [ofSize, Crew.ofSize]
  calls := .nil
  started := .nil
  unjoined := by
    intro m goesOn
    cases m with
    | worker n =>
      have staff := goesOn_worker.mp goesOn
      simp only [Pool.staff, ofSize, Crew.ofSize, Pool.ofSize, List.map_nil,
        List.append_nil] at staff
      exact List.mem_append_left _ (List.mem_map_of_mem staff)
    | reporter =>
      have reports : reports = true := goesOn
      simp [ofSize, reports]
  all _ := (Crew.isSound_ofSize (ι := ι) workers queueSize).workers
  returns := by simp [ofSize]

/-! ### Calls -/

/-- A new call is answered at once. -/
theorem IsSound.perm_answer (sound : s.IsSound workers) (refusal : Option PoolError) :
    ((s.answers ++ [(s.calls, refusal)]).map Prod.fst ++ s.pool.waiting.map Prod.fst).Perm
      (List.range (s.calls + 1)) := by
  rw [List.map_append, List.range_succ]
  exact (Crew.perm_snoc sound.calls.symm s.calls).symm

theorem IsSound.lt_calls (sound : s.IsSound workers) {e : Nat × ι} (waits : e ∈ s.pool.waiting) :
    e.1 < s.calls :=
  List.mem_range.mp (sound.calls.subset (List.mem_append_right _ (List.mem_map_of_mem waits)))

theorem IsSound.enqueue (sound : s.IsSound workers) (job : ι) :
    (s.enqueue job).IsSound workers := by
  unfold PoolLife.enqueue
  dsimp only
  split
  · exact { sound with calls := sound.perm_answer _ }
  · split
    · exact { sound with orderly := sound.orderly.push job, calls := sound.perm_answer _ }
    · refine { sound with
        orderly := sound.orderly.keepWaiting fun _ e waits _ => (sound.lt_calls waits).ne
        calls := ?_ }
      rw [Pool.keepWaiting, List.map_append, List.range_succ, ← List.append_assoc]
      exact sound.calls.append_right [s.calls]

/-- A call that has waited is answered. -/
theorem IsSound.perm_retry (sound : s.IsSound workers) (waits : s.pool.isWaiting call = true)
    (refusal : Option PoolError) :
    ((s.answers ++ [(call, refusal)]).map Prod.fst ++
      (s.pool.withdraw call).waiting.map Prod.fst).Perm (List.range s.calls) := by
  have gone := Pool.perm_map_fst_withdraw sound.orderly waits
  refine List.Perm.trans ?_ ((gone.append_left _).symm.trans sound.calls)
  rw [List.map_append, List.append_assoc]
  rfl

theorem IsSound.retry (sound : s.IsSound workers) (call : Nat) :
    (s.retry call).IsSound workers := by
  unfold PoolLife.retry
  split
  · next waits =>
    split
    · exact { sound with
        orderly := sound.orderly.withdraw call
        calls := sound.perm_retry waits _ }
    · split
      · next job _ => exact { sound with
          orderly := (sound.orderly.withdraw call).push job
          calls := sound.perm_retry waits _ }
      · exact sound
  · exact sound

/-! ### Workers -/

theorem IsSound.leave (sound : s.IsSound workers) (closed : s.pool.closed = true) (n : Nat) :
    { s with pool := s.pool.leave n, receiver := none }.IsSound workers where
  orderly := sound.orderly.leave n
  receiver := by simp
  calls := by simpa only [Pool.waiting_leave] using sound.calls
  started := by simpa only [Pool.busy_leave] using sound.started
  unjoined := sound.unjoined_of_subset (s.pool.staff_leave_subset n) id
  all running := by
    rw [Pool.closed_leave, closed] at running
    cases running
  returns := sound.returns

theorem IsSound.promote (sound : s.IsSound workers) (idle : n ∈ s.pool.idle) :
    { s with pool := s.pool.promote n, receiver := some n }.IsSound workers where
  orderly := sound.orderly.promote idle
  receiver := by
    rintro _ ⟨⟩
    exact List.mem_cons_self
  calls := sound.calls
  started := sound.started
  unjoined := sound.unjoined_of_subset (Pool.perm_staff_promote idle).subset id
  all running := (Pool.workers_promote idle).trans (sound.all running)
  returns := sound.returns

theorem IsSound.take (sound : s.IsSound workers) (offered : s.pool.offered? n = some job) :
    { s with
      pool := s.pool.take n
      receiver := none
      started := s.started ++ [job] }.IsSound workers := by
  obtain ⟨idle, queue, hi, -, taken⟩ := Pool.exists_take_eq offered
  exact {
    orderly := sound.orderly.take n
    receiver := by simp
    calls := by simpa [taken] using sound.calls
    started := by
      simp only [taken, List.map_append, List.map_cons, List.map_nil]
      exact Crew.perm_snoc sound.started job
    unjoined := sound.unjoined_of_subset (Pool.perm_staff_take offered).subset id
    all := fun running => by
      rw [taken] at running
      exact (Pool.workers_take offered).trans (sound.all running)
    returns := sound.returns }

theorem IsSound.look (sound : s.IsSound workers) (n : Nat) : (s.look n).IsSound workers := by
  unfold PoolLife.look
  split
  · next free =>
    unfold PoolLife.receive
    split
    · next closed => exact sound.leave closed n
    · have promoted := sound.promote free.1
      dsimp only
      split
      · next job offered => exact promoted.take offered
      · exact promoted
  · exact sound

theorem IsSound.finish (sound : s.IsSound workers) (n : Nat) (panicked : Bool) :
    (s.finish n panicked).IsSound workers := by
  unfold PoolLife.finish
  split
  · exact sound
  · next job held =>
    obtain ⟨front, back, busy, -, gone⟩ := Pool.exists_busy_eq sound.orderly held
    refine { sound with
      orderly := sound.orderly.finish held
      receiver := fun m holds => List.mem_append_left _ (sound.receiver m holds)
      started := ?_
      unjoined := sound.unjoined_of_subset (Pool.perm_staff_finish sound.orderly held).subset id
      all := fun running => (Pool.workers_finish sound.orderly held).trans (sound.all running) }
    have started := sound.started
    rw [busy, List.map_append, List.map_cons] at started
    rw [gone, List.map_append, ← List.append_assoc]
    refine started.trans ((List.perm_middle.append_right _).trans ?_)
    exact (List.perm_append_singleton _ _).symm

/-! ### The reporter and those who wait for the end -/

theorem IsSound.report (sound : s.IsSound workers) (stops : Bool) :
    (s.report stops).IsSound workers := by
  unfold PoolLife.report
  split
  · exact { sound with unjoined := sound.unjoined_of_subset (List.Subset.refl _) (by simp) }
  · split
    · exact { sound with unjoined := sound.unjoined }
    · exact sound

theorem IsSound.join (sound : s.IsSound workers) : s.join.IsSound workers := by
  refine { sound with
    unjoined := fun m goesOn => List.mem_filter.mpr ⟨sound.unjoined m goesOn, goesOn⟩
    returns := fun returned => ?_ }
  simp only [PoolLife.join] at returned ⊢
  split at returned
  · next nobody => exact List.isEmpty_iff.mp nobody
  · rw [sound.returns returned, List.filter_nil]

theorem IsSound.close (sound : s.IsSound workers) : s.close.IsSound workers :=
  { sound with
    orderly := ⟨sound.orderly.workers, sound.orderly.producers⟩
    unjoined := sound.unjoined_of_subset (List.Subset.refl _) id
    all := fun running => by cases running }

/-! ### Runs -/

theorem IsSound.move (sound : s.IsSound workers) (m : Move ι) : (s.move m).IsSound workers := by
  cases m with
  | enqueue job => exact sound.enqueue job
  | retry call => exact sound.retry call
  | look n => exact sound.look n
  | finish n panicked => exact sound.finish n panicked
  | report stops => exact sound.report stops
  | join => exact sound.join
  | close => exact sound.close

theorem IsSound.run (sound : s.IsSound workers) (moves : List (Move ι)) :
    (s.run moves).IsSound workers := by
  induction moves generalizing s with
  | nil => exact sound
  | cons m rest ih => exact ih (sound.move m)

/-! ## A job in hand -/

theorem job?_of_idle (sound : s.IsSound workers) (idle : n ∈ s.pool.idle) :
    s.pool.job? n = none := by
  cases held : s.pool.job? n with
  | none => rfl
  | some job =>
    obtain ⟨front, back, busy, -⟩ := List.lookup_eq_some_iff.mp held
    have mem : n ∈ s.pool.busy.map Prod.fst := by simp [busy]
    exact absurd rfl ((List.nodup_append.mp sound.orderly.workers).2.2 n idle n mem)

/-- A job stays in a worker's hands until it ends. -/
theorem job?_move (sound : s.IsSound workers) (held : s.pool.job? n = some job)
    (other : ∀ panicked, m ≠ .finish n panicked) : (s.move m).pool.job? n = some job := by
  cases m with
  | enqueue next =>
    simp only [PoolLife.move, enqueue]
    split
    · exact held
    · split <;> exact held
  | retry call =>
    simp only [PoolLife.move, retry]
    split
    · split
      · exact held
      · split <;> exact held
    · exact held
  | look k =>
    simp only [PoolLife.move, look]
    split
    · next free =>
      have apart : n ≠ k := by
        rintro rfl
        rw [job?_of_idle sound free.1] at held
        cases held
      unfold receive
      split
      · exact (Pool.job?_leave ..).trans held
      · dsimp only
        split
        · exact (Pool.job?_take_of_ne apart).trans held
        · exact held
    · exact held
  | finish k panicked =>
    simp only [PoolLife.move, finish]
    split
    · exact held
    · have apart : n ≠ k := fun same => other panicked (same ▸ rfl)
      exact (Pool.job?_finish_of_ne apart).trans held
  | report stops =>
    simp only [PoolLife.move, report]
    split
    · exact held
    · split <;> exact held
  | join => exact held
  | close => exact held

theorem job?_run (sound : s.IsSound workers) (held : s.pool.job? n = some job)
    (moves : List (Move ι)) :
    (s.run moves).pool.job? n = some job ∨ ∃ panicked, Move.finish n panicked ∈ moves := by
  induction moves generalizing s with
  | nil => exact .inl held
  | cons m rest ih =>
    by_cases ends : ∃ panicked, m = .finish n panicked
    · obtain ⟨panicked, rfl⟩ := ends
      exact .inr ⟨panicked, List.mem_cons_self⟩
    · have other : ∀ panicked, m ≠ .finish n panicked := fun p same => ends ⟨p, same⟩
      refine (ih (sound.move m) (job?_move sound held other)).imp_right ?_
      rintro ⟨panicked, later⟩
      exact ⟨panicked, List.mem_cons_of_mem _ later⟩

/-! ## Closed pools -/

/-- What a closed pool `s` comes to: no job is started, nobody begins to wait, and calls are
answered only by a refusal. -/
structure WindsDown (s t : PoolLife ι) : Prop where
  closed : t.pool.closed = true
  started : t.started = s.started
  busy : t.pool.busy.Sublist s.pool.busy
  waiting : t.pool.waiting.Sublist s.pool.waiting
  answers : ∃ refused : List Nat, t.answers = s.answers ++ refused.map (·, some .closed)

theorem WindsDown.trans {t u : PoolLife ι} (h : WindsDown s t) (g : WindsDown t u) :
    WindsDown s u where
  closed := g.closed
  started := g.started.trans h.started
  busy := g.busy.trans h.busy
  waiting := g.waiting.trans h.waiting
  answers := by
    obtain ⟨first, hf⟩ := h.answers
    obtain ⟨second, hs⟩ := g.answers
    exact ⟨first ++ second, by rw [hs, hf, List.map_append, List.append_assoc]⟩

theorem WindsDown.refl (closed : s.pool.closed = true) : WindsDown s s :=
  ⟨closed, rfl, .refl _, .refl _, [], by simp⟩

/-- A newcomer is refused, and does nothing to the pool. -/
theorem enqueue_of_closed (closed : s.pool.closed = true) (job : ι) :
    s.enqueue job = { s with calls := s.calls + 1 }.answer s.calls (some .closed) := by
  simp [enqueue, closed]

/-- A call that waits is refused. -/
theorem retry_of_closed (closed : s.pool.closed = true) (waits : s.pool.isWaiting call = true) :
    s.retry call = { s with pool := s.pool.withdraw call }.answer call (some .closed) := by
  simp [retry, closed, waits]

/-- A worker that gets hold of the queue leaves. -/
theorem look_of_closed (closed : s.pool.closed = true) (idle : n ∈ s.pool.idle)
    (free : ∀ m ∈ s.receiver, m = n) :
    s.look n = { s with pool := s.pool.leave n, receiver := none } := by
  rw [look, if_pos ⟨idle, free⟩, receive, if_pos closed]

/-- What a move can do to a closed pool. -/
inductive ClosedMove (s : PoolLife ι) : PoolLife ι → Prop
  | newcomer : ClosedMove s ({ s with calls := s.calls + 1 }.answer s.calls (some .closed))
  | refuse (call : Nat) :
    ClosedMove s ({ s with pool := s.pool.withdraw call }.answer call (some .closed))
  | leave (n : Nat) : ClosedMove s { s with pool := s.pool.leave n, receiver := none }
  | finish (n : Nat) (job : ι) (metrics : Metrics) (held : s.pool.job? n = some job) :
    ClosedMove s { s with pool := s.pool.finish n, metrics, finished := s.finished ++ [job] }
  /-- Nothing happens but to the reporter and to those who wait for the end. -/
  | aside (reports : Bool) (metrics : Metrics) (unjoined : List PoolMember) (returns : Nat)
      (stops : reports = true → s.reports = true) :
    ClosedMove s { s with reports, metrics, unjoined, returns }

theorem closedMove_move (closed : s.pool.closed = true) (m : Move ι) :
    s.ClosedMove (s.move m) := by
  have nothing : s.ClosedMove s := .aside s.reports s.metrics s.unjoined s.returns id
  cases m with
  | enqueue job =>
    rw [move, enqueue_of_closed closed]
    exact .newcomer
  | retry call =>
    by_cases waits : s.pool.isWaiting call = true
    · rw [move, retry_of_closed closed waits]
      exact .refuse call
    · simpa [move, retry, waits] using nothing
  | look n =>
    by_cases free : n ∈ s.pool.idle ∧ ∀ m ∈ s.receiver, m = n
    · rw [move, look_of_closed closed free.1 free.2]
      exact .leave n
    · simpa only [move, look, if_neg free] using nothing
  | finish n panicked =>
    simp only [move, finish]
    split
    · exact nothing
    · next job held => exact .finish n job _ held
  | report stops =>
    simp only [move, report]
    split
    · exact .aside false s.metrics s.unjoined s.returns (by simp)
    · split
      · exact .aside s.reports _ s.unjoined s.returns id
      · exact nothing
  | join => exact .aside s.reports s.metrics _ _ id
  | close =>
    have already : s.pool.close = s.pool := by rw [Pool.close, ← closed]
    rw [move, PoolLife.close, already]
    exact nothing

theorem ClosedMove.windsDown (h : s.ClosedMove t) (closed : s.pool.closed = true) :
    WindsDown s t := by
  have same := WindsDown.refl closed
  cases h with
  | newcomer => exact { same with answers := ⟨[s.calls], rfl⟩ }
  | refuse call => exact { same with waiting := List.filter_sublist, answers := ⟨[call], rfl⟩ }
  | leave n =>
    exact {
      closed := (s.pool.closed_leave n).trans closed
      started := rfl
      busy := by rw [Pool.busy_leave]
      waiting := by rw [Pool.waiting_leave]
      answers := same.answers }
  | finish n job metrics held => exact { same with busy := List.filter_sublist }
  | aside => exact { same with }

theorem windsDown_move (closed : s.pool.closed = true) (m : Move ι) : WindsDown s (s.move m) :=
  (closedMove_move closed m).windsDown closed

theorem windsDown_run (closed : s.pool.closed = true) (moves : List (Move ι)) :
    WindsDown s (s.run moves) := by
  induction moves generalizing s with
  | nil => exact .refl closed
  | cons m rest ih =>
    have once := windsDown_move closed m
    exact once.trans (ih once.closed)

/-- A call goes on to wait until it is refused. -/
theorem ClosedMove.isWaiting_or_refused (h : s.ClosedMove t)
    (waits : s.pool.isWaiting call = true) :
    t.pool.isWaiting call = true ∨ (call, some PoolError.closed) ∈ t.answers := by
  cases h with
  | refuse k =>
    by_cases same : call = k
    · exact .inr (List.mem_append_right _ (List.mem_singleton.mpr (same ▸ rfl)))
    · obtain ⟨e, he, mine⟩ := List.any_eq_true.mp waits
      refine .inl (List.any_eq_true.mpr ⟨e, List.mem_filter.mpr ⟨he, ?_⟩, mine⟩)
      rw [beq_iff_eq] at mine
      simpa [mine] using same
  | leave n => exact .inl (by simpa only [Pool.isWaiting, Pool.waiting_leave] using waits)
  | _ => exact .inl waits

/-- A call that waits is refused once it has looked again. -/
theorem refused_of_retry (closed : s.pool.closed = true) (waits : s.pool.isWaiting call = true)
    (again : Move.retry call ∈ moves) : (call, some PoolError.closed) ∈ (s.run moves).answers := by
  induction moves generalizing s with
  | nil => cases again
  | cons m rest ih =>
    have once := windsDown_move closed m
    obtain ⟨refused, answers⟩ := (windsDown_run once.closed rest).answers
    rcases (closedMove_move closed m).isWaiting_or_refused waits with still | answered
    · rcases List.mem_cons.mp again with rfl | later
      · rw [run_cons, answers, move, retry_of_closed closed waits]
        refine List.mem_append_left _ (List.mem_append_right _ ?_)
        exact List.mem_singleton.mpr rfl
      · exact ih once.closed still later
    · rw [run_cons, answers]
      exact List.mem_append_left _ answered

/-! ## The end -/

/-- When waiting for the pool has ended, everything in it has. -/
theorem IsSound.over (sound : s.IsSound workers) (returned : s.returns ≠ 0) :
    s.pool.closed = true ∧ s.pool.workers = 0 ∧ s.pool.busy = [] ∧ s.reports = false ∧
      s.finished.Perm s.started := by
  have nobody (m : PoolMember) : s.goesOn m = false := by
    by_contra goesOn
    have := sound.unjoined m (by simpa using goesOn)
    rw [sound.returns returned] at this
    cases this
  have staff : s.pool.staff = [] := by
    refine List.eq_nil_iff_forall_not_mem.mpr fun n atWork => ?_
    exact absurd (goesOn_worker.mpr atWork) (by simp [nobody])
  have busy : s.pool.busy = [] := List.map_eq_nil_iff.mp (List.append_eq_nil_iff.mp staff).2
  have workersGone : s.pool.workers = 0 := by rw [← Pool.length_staff, staff, List.length_nil]
  refine ⟨?_, workersGone, busy, nobody .reporter, ?_⟩
  · by_contra running
    have := sound.all (by simpa using running)
    omega
  · simpa [busy] using sound.started.symm

/-- What is so of a closed pool, and of what it has come to after some more moves. -/
structure IsClosing (s : PoolLife ι) (after : List (Move ι)) : Prop where
  closed : (s.run after).pool.closed = true
  /-- No queued job is started. -/
  started : (s.run after).started = s.started
  /-- A job in hand stays there until it ends, -/
  hands : ∀ n job, s.pool.job? n = some job →
    (s.run after).pool.job? n = some job ∨ ∃ panicked, Move.finish n panicked ∈ after
  /-- and nothing keeps it from ending. -/
  ends : ∀ n job panicked, (s.run after).pool.job? n = some job →
    ((s.run after).move (.finish n panicked)).finished = (s.run after).finished ++ [job]
  /-- No call succeeds. -/
  answers : ∃ refused : List Nat, (s.run after).answers = s.answers ++ refused.map (·, some .closed)
  /-- A newcomer is refused at once, and does nothing to the pool. -/
  newcomers : ∀ job, (s.run after).move (.enqueue job) =
    { s.run after with calls := (s.run after).calls + 1 }.answer (s.run after).calls (some .closed)
  /-- A call that waits is refused once it has looked again. -/
  blocked : ∀ call, s.pool.isWaiting call = true → Move.retry call ∈ after →
    (call, some PoolError.closed) ∈ (s.run after).answers

/-- Whatever happens in whatever order, once the pool is closed no job is started, jobs in hand end,
and calls are refused. Each call has been answered once or waits, each job that was started is in
hand or has ended, and waiting for the pool ends only when no job is in hand, all workers have left
and the reporter has stopped. -/
theorem closed_pool_winds_down (workers queueSize : Nat) (reports : Bool)
    (before after : List (Move ι)) :
    let s := (ofSize workers queueSize reports).run before
    (s.pool.closed = true → s.IsClosing after) ∧
      (s.answers.map Prod.fst ++ s.pool.waiting.map Prod.fst).Perm (List.range s.calls) ∧
      s.started.Perm (s.pool.busy.map Prod.snd ++ s.finished) ∧
      (s.returns ≠ 0 → s.pool.closed = true ∧ s.pool.workers = 0 ∧ s.pool.busy = [] ∧
        s.reports = false ∧ s.finished.Perm s.started) := by
  intro s
  have sound : s.IsSound workers := (isSound_ofSize workers queueSize reports).run before
  refine ⟨fun closed => ?_, sound.calls, sound.started, sound.over⟩
  have down := windsDown_run closed after
  exact {
    closed := down.closed
    started := down.started
    hands := fun n job held => job?_run sound held after
    ends := fun n job panicked held => by simp [move, finish, held]
    answers := down.answers
    newcomers := enqueue_of_closed down.closed
    blocked := fun call waits again => refused_of_retry closed waits again }

/-! ### A pool that is closed at work -/

namespace ClosedPool

/-- The only worker has the first job in hand, the second is queued and the third waits. Then the
pool is closed. -/
def atWork : List (Move String) :=
  [.enqueue "ann", .look 0, .enqueue "bob", .enqueue "cid", .close]

/-- The third call looks again, a fourth comes, the first job ends, and the worker looks. -/
def winding : List (Move String) :=
  [.retry 2, .enqueue "dan", .finish 0 false, .look 0, .join]

/-- Only the first job is started and ends, all calls after the second are refused, and then waiting
for the pool ends. -/
theorem only_ann_is_started :
    ((ofSize 1 1 false).run atWork).IsClosing winding ∧
      ((ofSize 1 1 false).run (atWork ++ winding)).started = ["ann"] ∧
      ((ofSize 1 1 false).run (atWork ++ winding)).answers =
        [(0, none), (1, none), (2, some .closed), (3, some .closed)] ∧
      ((ofSize 1 1 false).run (atWork ++ winding)).returns = 1 ∧
      ((ofSize 1 1 false).run (atWork ++ winding)).finished.Perm ["ann"] := by
  obtain ⟨closes, -⟩ := closed_pool_winds_down 1 1 false atWork winding
  obtain ⟨-, -, -, ended⟩ := closed_pool_winds_down 1 1 false (atWork ++ winding) []
  obtain ⟨-, -, -, -, finished⟩ := ended (by decide +kernel)
  have started : ((ofSize 1 1 false).run (atWork ++ winding)).started = ["ann"] := by
    decide +kernel
  exact ⟨closes (by decide +kernel), started, by decide +kernel, by decide +kernel,
    started ▸ finished⟩

end ClosedPool

/-! ### The end comes -/

/-- Nobody gets hold of the queue of a closed pool and keeps it. -/
theorem ClosedMove.receiver (h : s.ClosedMove t) :
    t.receiver = s.receiver ∨ t.receiver = none := by
  cases h with
  | leave n => exact .inr rfl
  | _ => exact .inl rfl

/-- Once the worker that has the queue has looked, nobody has it any more. -/
theorem receiver_run (sound : s.IsSound workers) (closed : s.pool.closed = true)
    (looks : ∀ n ∈ s.receiver, Move.look n ∈ moves) : (s.run moves).receiver = none := by
  induction moves generalizing s with
  | nil =>
    refine Option.eq_none_iff_forall_not_mem.mpr fun n holds => ?_
    cases looks n holds
  | cons m rest ih =>
    refine ih (sound.move m) (windsDown_move closed m).closed fun n holds => ?_
    have kept : n ∈ s.receiver := by
      rcases (closedMove_move closed m).receiver with same | free
      · exact same ▸ holds
      · rw [free] at holds
        cases holds
    refine (List.mem_cons.mp (looks n kept)).resolve_left ?_
    rintro rfl
    have only : ∀ k ∈ s.receiver, k = n := fun k has => Option.mem_unique has kept
    rw [move, look_of_closed closed (sound.receiver n kept) only] at holds
    cases holds

/-- Without jobs in hand nobody comes back to the queue. -/
theorem ClosedMove.idle_subset (h : s.ClosedMove t) (hands : s.pool.busy = []) :
    t.pool.idle ⊆ s.pool.idle := by
  cases h with
  | leave n =>
    rw [Pool.idle_leave]
    exact List.erase_subset
  | finish n job metrics held => simp [Pool.job?, hands] at held
  | _ => exact List.Subset.refl _

theorem idle_run_subset (closed : s.pool.closed = true) (hands : s.pool.busy = [])
    (moves : List (Move ι)) : (s.run moves).pool.idle ⊆ s.pool.idle := by
  induction moves generalizing s with
  | nil => exact List.Subset.refl _
  | cons m rest ih =>
    have once := windsDown_move closed m
    have empty : (s.move m).pool.busy = [] := List.sublist_nil.mp (hands ▸ once.busy)
    exact List.Subset.trans (ih once.closed empty) ((closedMove_move closed m).idle_subset hands)

/-- While nobody has the queue, a worker that looks has left. -/
theorem not_mem_idle_of_look (sound : s.IsSound workers) (closed : s.pool.closed = true)
    (hands : s.pool.busy = []) (free : s.receiver = none) (looks : Move.look n ∈ moves) :
    n ∉ (s.run moves).pool.idle := by
  induction moves generalizing s with
  | nil => cases looks
  | cons m rest ih =>
    have once := windsDown_move closed m
    have empty : (s.move m).pool.busy = [] := List.sublist_nil.mp (hands ▸ once.busy)
    by_cases idle : n ∈ (s.move m).pool.idle
    · have stillFree : (s.move m).receiver = none := by
        rcases (closedMove_move closed m).receiver with same | gone
        · exact same.trans free
        · exact gone
      refine ih (sound.move m) once.closed empty stillFree ?_
      refine (List.mem_cons.mp looks).resolve_left ?_
      rintro rfl
      have before := (closedMove_move closed _).idle_subset hands idle
      rw [move, look_of_closed closed before (by simp [free]), Pool.idle_leave] at idle
      exact (List.nodup_append.mp sound.orderly.workers).1.not_mem_erase idle
    · exact fun later => idle (idle_run_subset once.closed empty rest later)

/-- The reporter that has stopped stays so. -/
theorem ClosedMove.reports_eq_false (h : s.ClosedMove t) (silent : s.reports = false) :
    t.reports = false := by
  cases h with
  | aside reports _ _ _ stops =>
    exact Bool.eq_false_iff.mpr fun goesOn => by simp [stops goesOn] at silent
  | _ => exact silent

theorem reports_run (closed : s.pool.closed = true) (silent : s.reports = false)
    (moves : List (Move ι)) : (s.run moves).reports = false := by
  induction moves generalizing s with
  | nil => exact silent
  | cons m rest ih =>
    exact ih (windsDown_move closed m).closed ((closedMove_move closed m).reports_eq_false silent)

theorem reports_of_stops (closed : s.pool.closed = true) (stops : Move.report true ∈ moves) :
    (s.run moves).reports = false := by
  induction moves generalizing s with
  | nil => cases stops
  | cons m rest ih =>
    have later := (windsDown_move closed m).closed
    rcases List.mem_cons.mp stops with rfl | stopsLater
    · exact reports_run later (by simp [move, report, closed]) rest
    · exact ih later stopsLater

/-- A closed pool without a job in hand ends: when each worker has looked, and once more after the
one that has had hold of the queue, and the reporter has stopped, waiting for the pool ends. -/
theorem closed_pool_ends (workers queueSize : Nat) (reports : Bool)
    (before first second : List (Move ι)) :
    let s := (ofSize workers queueSize reports).run before
    let u := s.run (first ++ second)
    s.pool.closed = true → s.pool.busy = [] →
    (∀ n ∈ s.pool.idle, Move.look n ∈ first ∧ Move.look n ∈ second) →
    Move.report true ∈ first ++ second →
      u.pool.workers = 0 ∧ u.reports = false ∧ (u.move .join).returns = u.returns + 1 := by
  intro s u closed hands looks stops
  have sound : s.IsSound workers := (isSound_ofSize workers queueSize reports).run before
  have down := windsDown_run closed first
  have empty : (s.run first).pool.busy = [] := List.sublist_nil.mp (hands ▸ down.busy)
  have free : (s.run first).receiver = none :=
    receiver_run sound closed fun n holds => (looks n (sound.receiver n holds)).1
  have staff : u.pool.staff = [] := by
    have busy : u.pool.busy = [] := List.sublist_nil.mp (hands ▸ (windsDown_run closed _).busy)
    have idle : u.pool.idle = [] := by
      refine List.eq_nil_iff_forall_not_mem.mpr fun n stays => ?_
      have early := idle_run_subset closed hands _ stays
      rw [show u = (s.run first).run second from run_append ..] at stays
      exact not_mem_idle_of_look (sound.run first) down.closed empty free (looks n early).2 stays
    rw [Pool.staff, busy, idle, List.map_nil, List.append_nil]
  have stopped : u.reports = false := reports_of_stops closed stops
  refine ⟨by rw [← Pool.length_staff, staff, List.length_nil], stopped, ?_⟩
  have nobody : u.unjoined.filter u.goesOn = [] := by
    refine List.filter_eq_nil_iff.mpr fun m _ goesOn => ?_
    cases m with
    | worker n =>
      have atWork := goesOn_worker.mp goesOn
      rw [staff] at atWork
      cases atWork
    | reporter =>
      rw [show u.reports = true from goesOn] at stopped
      cases stopped
  simp [move, join, nobody]

end PoolLife

end Switchboard
