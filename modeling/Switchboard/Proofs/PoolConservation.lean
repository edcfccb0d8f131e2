import Switchboard.Proofs.WorkloadRuns

/-!
# A pool loses no job and no worker

At each moment of every run (`Crew.IsConserved`) each job that was admitted is queued, in hand or
finished, jobs are taken in the order in which they were admitted, and a panic costs the job and no
worker. When the pool has nothing left to do by itself, producers wait only for a full queue, and
jobs only for workers that are all busy. The runs of workloads are among these runs.
-/

namespace Switchboard

namespace Crew

open PoolEvent

variable {ι τ : Type} {tag : ι → τ} {s : Crew ι} {past : List (PoolEvent ι)}
  {workers queueSize : Nat}

/-! ## A quiet pool -/

/-- The pool can do nothing by itself. -/
def IsQuiet (tag : ι → τ) (s : Crew ι) : Prop := ∀ e t, s.Happens tag e t → e.isOwn = false

/-- In a quiet pool producers wait only for a full queue. -/
theorem IsSound.queue_eq (sound : s.IsSound workers queueSize) (quiet : s.IsQuiet tag)
    (waits : s.pool.waiting ≠ []) : s.pool.queue.length = max queueSize 1 := by
  refine le_antisymm (sound.capacity ▸ sound.queue) (Nat.le_of_not_lt fun room => ?_)
  obtain ⟨w, rest, waiting⟩ := List.exists_cons_of_ne_nil waits
  have admitted := Pool.admitted?_head waiting (sound.capacity ▸ room)
  cases quiet _ _ (.place w.1 w.2 admitted)

/-- In a quiet pool jobs wait only for workers that are all busy. -/
theorem IsSound.busy_eq (sound : s.IsSound workers queueSize) (quiet : s.IsQuiet tag)
    (queued : s.pool.queue ≠ []) : s.pool.busy.length = max workers 1 := by
  obtain ⟨job, rest, queue⟩ := List.exists_cons_of_ne_nil queued
  have nobody : s.pool.idle = [] := by
    cases holder : s.receiver with
    | none =>
      refine List.eq_nil_iff_forall_not_mem.mpr fun n idle => ?_
      cases quiet _ _ (.receive n holder idle)
    | some n =>
      have offered : s.pool.offered? n = some job := by
        simp [Pool.offered?, Pool.isNext, sound.receiver n holder, sound.running, queue]
      cases quiet _ _ (.start n job holder offered)
  have all := sound.workers
  rwa [Pool.workers, nobody, List.length_nil, Nat.zero_add] at all

/-- With a full queue and all workers busy there is nothing to do. -/
theorem isQuiet_of_full (full : s.pool.capacity ≤ s.pool.queue.length)
    (nobody : s.pool.idle = []) (free : s.receiver = none) : s.IsQuiet tag := by
  intro e t happens
  cases happens with
  | place producer job admitted =>
    exact absurd (Pool.length_queue_lt_of_admitted? admitted) (Nat.not_lt_of_le full)
  | receive n _ idle =>
    rw [nobody] at idle
    cases idle
  | start n job holds offered =>
    rw [free] at holds
    cases holds
  | _ => rfl

/-- What is so at each moment of a run. -/
structure IsConserved (tag : ι → τ) (workers queueSize : Nat) (past : List (PoolEvent ι))
    (s : Crew ι) : Prop extends s.IsBooked tag past where
  /-- Every job that was admitted is queued, in hand or finished. -/
  places : ((past.filterMap admitted?).map tag).Perm
    (s.pool.queue.map tag ++ s.running tag ++ (past.filterMap finished?).map tag)
  /-- If jobs are told apart by their tags, each is in one place, and is started once. -/
  once : ((past.filterMap admitted?).map tag).Nodup →
    (s.pool.queue.map tag ++ s.running tag ++ (past.filterMap finished?).map tag).Nodup ∧
      ((past.filterMap started?).map tag).Nodup
  busy : s.pool.busy.length ≤ max workers 1
  queue : s.pool.queue.length ≤ max queueSize 1
  /-- No worker is lost. -/
  all : s.pool.workers = max workers 1
  waits : s.IsQuiet tag → s.pool.waiting ≠ [] → s.pool.queue.length = max queueSize 1
  rests : s.IsQuiet tag → s.pool.queue ≠ [] → s.pool.busy.length = max workers 1

/-- Whatever happens in whatever order, a pool loses no job and no worker. -/
theorem pool_conserves_jobs (h : Run tag (ofSize workers queueSize) past s) :
    s.IsConserved tag workers queueSize past := by
  obtain ⟨sound, booked⟩ := h.isSound_and_isBooked
  have admitted : (past.filterMap admitted?).map tag =
      (past.filterMap started?).map tag ++ s.pool.queue.map tag := by
    rw [booked.admitted, List.map_append]
  have places : ((past.filterMap admitted?).map tag).Perm
      (s.pool.queue.map tag ++ s.running tag ++ (past.filterMap finished?).map tag) := by
    rw [admitted, List.append_assoc]
    exact (booked.started.append_right _).trans List.perm_append_comm
  refine ⟨booked, places, fun distinct => ⟨places.nodup_iff.mp distinct, ?_⟩, ?_,
    sound.capacity ▸ sound.queue, sound.workers, sound.queue_eq, sound.busy_eq⟩
  · rw [admitted] at distinct
    exact (List.nodup_append.mp distinct).1
  · rw [← sound.workers]
    exact Nat.le_add_left _ _

end Crew

/-! ## A crowded pool -/

namespace CrowdedPool

open Workload

/-- The only worker has survived a panic. -/
def recovered : Workload :=
  processes.settle ((ofSize 1 1 none).offer { name := "ann", chore := .panic "oh" })

/-- It has the second task in hand, the third is queued and the fourth waits. -/
def crowded : Workload :=
  ((processes.settle (recovered.offer { name := "bob", chore := .gate })).offer
    { name := "cid", chore := .finish }).offer { name := "dan", chore := .finish }

/-- A panic, a busy worker, a full queue and a producer that waits: the pool is quiet. -/
theorem crowded_pool_conserves_jobs :
    (∃ past, Crew.Run Errand.name (.ofSize 1 1) past crowded.crew ∧
      crowded.crew.IsConserved Errand.name 1 1 past ∧ past.countP PoolEvent.isPanic = 1) ∧
      crowded.crew.IsQuiet Errand.name ∧
      crowded.crew.running Errand.name = ["bob"] ∧
      crowded.pool.queue.map Errand.name = ["cid"] ∧
      crowded.pool.waiting.map (fun w => w.2.name) = ["dan"] := by
  have recovers : (ofSize 1 1 none).Reaches recovered := .head (.offer _) (reaches_settle _)
  have reaches : (ofSize 1 1 none).Reaches crowded :=
    (((recovers.tail (.offer _)).trans (reaches_settle _)).tail (.offer _)).tail (.offer _)
  obtain ⟨past, run⟩ := (hasRun_of_reaches reaches).run
  have conserved := Crew.pool_conserves_jobs run
  have once : crowded.metrics.counter Pool.panicCounter = 1 := by decide +kernel
  have quiet : crowded.crew.IsQuiet Errand.name :=
    Crew.isQuiet_of_full (by decide +kernel) (by decide +kernel) rfl
  refine ⟨⟨past, run, conserved, ?_⟩, quiet, by decide +kernel, by decide +kernel,
    by decide +kernel⟩
  have counted := conserved.panics
  rw [show crowded.crew.metrics.counter Pool.panicCounter = 1 from once, Metrics.limit] at counted
  omega

end CrowdedPool

end Switchboard
