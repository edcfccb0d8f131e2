import Switchboard.Proofs.Balances

/-!
# What a runner counts

In a run that is not told to stop, the counters account for all that has happened
(`RunnerPlan.metrics_account_for_jobs`). Jobs on their way are the only difference between what was
accepted and what has been dealt with, so there is none when the runner is idle.
-/

namespace Switchboard

namespace Runner

variable {κ : Type}

/-- No job is on its way: none is queued or in a worker's hands, no intake has one that is to be
queued, and nobody waits for room in the queue. -/
structure IsIdle (r : Runner κ) : Prop where
  queue : r.pool.queue = []
  busy : r.pool.busy = []
  waiting : r.pool.waiting = []
  intakes : ∀ l ∈ r.lanes, ∀ job, l.intake ≠ .holding job

namespace IsIdle

variable {r : Runner κ}

theorem jobs (idle : r.IsIdle) (own : Work κ → Bool) : r.pool.jobs own = 0 := by
  rw [Pool.jobs, idle.queue, idle.busy, idle.waiting]
  rfl

theorem unsettled (idle : r.IsIdle) : r.unsettled = 0 := by
  have held : r.heldWorks = 0 := by
    refine List.sum_eq_zero fun x hx => ?_
    obtain ⟨l, hl, rfl⟩ := List.mem_map.mp hx
    cases intake : l.intake with
    | holding job => exact absurd intake (idle.intakes l hl job)
    | _ => rfl
  rw [Runner.unsettled, works, held, idle.jobs]
  rfl

theorem unbegun (idle : r.IsIdle) : r.unbegun = 0 := by
  rw [Runner.unbegun, taskWorks, idle.jobs]
  rfl

end IsIdle

end Runner

namespace RunnerPlan

variable {κ : Type} (p : RunnerPlan κ) {schedule : Nat → Runner.Move} {n : Nat}

/-- At the start nothing has been counted, and no timer waits. -/
theorem nothing_counted_at_start :
    p.start.metrics = {} ∧ p.start.account = [] ∧ p.start.taskWorks = 0 ∧
      p.start.waitingTasks = [] := by
  have noted : ∀ notes : List Note,
      (notes.map (Happening.noted (κ := κ))).filter Happening.isCounted = [] := by
    intro notes
    simp [Happening.isCounted]
  unfold start
  split
  · exact ⟨rfl, rfl, rfl, rfl⟩
  · dsimp only
    split
    · exact ⟨rfl, noted _, rfl, rfl⟩
    · exact ⟨rfl, noted _, rfl, rfl⟩

theorem isPolite_after (polite : ∀ bot ∈ p.bots, ∀ o m, bot.send o ≠ .panicked m)
    (schedule : Nat → Runner.Move) (n : Nat) : (p.start.after schedule n).IsPolite := by
  intro l hl
  have bots := (Runner.isLater_after p.start schedule n.zero_le).bots
  have there : l.bot ∈ p.start.lanes.map Lane.bot := bots ▸ List.mem_map_of_mem hl
  obtain ⟨l₀, hl₀, same⟩ := List.mem_map.mp there
  rw [← same]
  rcases p.start_spec.1 with lanes | lanes
  · rw [lanes] at hl₀
    obtain ⟨bot, hbot, rfl⟩ := List.mem_map.mp hl₀
    exact polite bot hbot
  · rw [lanes] at hl₀
    cases hl₀

theorem isOpen_after (going : ∀ m < n, schedule m ≠ .cancel) :
    (p.start.after schedule n).pool.closed = false := by
  rw [Runner.closed_after p.start going, p.start_spec.2.1]
  rfl

theorem isServed_after (going : ∀ m < n, schedule m ≠ .cancel) :
    (p.start.after schedule n).IsServed := by
  induction n with
  | zero =>
    have waiting : p.start.waitingTasks = [] := p.nothing_counted_at_start.2.2.2
    refine ⟨?_, fun e he => ?_⟩
    · show (p.start.waitingTasks.map Prod.fst).Nodup
      rw [waiting]
      exact List.nodup_nil
    · rw [show (p.start.after schedule 0).waitingTasks = [] from waiting] at he
      cases he
  | succ n ih =>
    have going' : ∀ m < n, schedule m ≠ .cancel := fun m hm => going m (hm.trans n.lt_succ_self)
    obtain ⟨orderly, fit⟩ := p.isOrderly_after schedule n
    exact (ih going').move orderly fit (p.isOpen_after going') (schedule n)

/-- What has been counted in a run is in balance with what has happened. -/
theorem exists_balance_after (polite : ∀ bot ∈ p.bots, ∀ o m, bot.send o ≠ .panicked m)
    (going : ∀ m < n, schedule m ≠ .cancel) :
    ∃ rs : List Record, (p.start.after schedule n).metrics = rs.foldl Metrics.book {} ∧
      rs.length ≤ n ∧ Runner.Balance (p.start.after schedule n).account rs
        0 (p.start.after schedule n).unsettled 0 (p.start.after schedule n).unbegun := by
  induction n with
  | zero =>
    obtain ⟨metrics, account, taskWorks, -⟩ := p.nothing_counted_at_start
    refine ⟨[], metrics, le_refl _, ?_⟩
    have messages : p.start.unsettled = 0 := by
      rw [Runner.unsettled, p.works_start]
      rfl
    have tasks : p.start.unbegun = 0 := by
      rw [Runner.unbegun, taskWorks]
      rfl
    rw [Runner.after, account, messages, tasks]
    exact .nothing ..
  | succ n ih =>
    -- The records of the run so far, and those of the move.
    have going' : ∀ m < n, schedule m ≠ .cancel := fun m hm => going m (hm.trans n.lt_succ_self)
    obtain ⟨rs, metrics, few, balance⟩ := ih going'
    obtain ⟨orderly, fit⟩ := p.isOrderly_after schedule n
    obtain ⟨es, x, writes, step⟩ := Runner.tallies_move orderly fit (p.isServed_after going')
      (p.isOpen_after going') (p.isPolite_after polite schedule n) (schedule n)
    refine ⟨rs ++ x.toList, ?_, ?_, ?_⟩
    · rw [List.foldl_append, ← metrics]
      exact writes.metrics
    · have one : x.toList.length ≤ 1 := by cases x <;> simp
      rw [List.length_append]
      omega
    · rw [Runner.after, writes.account]
      exact balance.append step

/-- No counter comes to its limit in a run that is not extremely long. -/
theorem isLow_after (polite : ∀ bot ∈ p.bots, ∀ o m, bot.send o ≠ .panicked m)
    (going : ∀ m < n, schedule m ≠ .cancel) (short : 2 * n < Metrics.limit) :
    (p.start.after schedule n).metrics.IsLow := by
  obtain ⟨rs, metrics, few, -⟩ := p.exists_balance_after polite going
  have within : ({} : Metrics).IsWithin 0 := by simp [Metrics.IsWithin]
  intro e he
  have bound := Metrics.isWithin_foldl_book within rs e (metrics ▸ he)
  omega

/-- In a run that has not been told to stop, and whose bots do not panic when they are to send, the
counters account for all that has happened, as long as none has come to its limit. All inputs are
counted. Of the messages that were accepted, those that are not counted as executions have had a
response, have panicked, or are on their way. All panics are counted. Under each set of labels
there are as many durations as executions, and at most as many failures. Of the firings that are
counted, those whose tasks have not begun are on their way. When no job is on its way, nothing is
missing. -/
theorem metrics_account_for_jobs (polite : ∀ bot ∈ p.bots, ∀ o m, bot.send o ≠ .panicked m)
    (going : ∀ m < n, schedule m ≠ .cancel)
    (low : (p.start.after schedule n).metrics.IsLow) :
    let r := p.start.after schedule n
    r.metrics.total Runner.inputCounter = r.trace.countP Happening.isInput ∧
    r.metrics.total Runner.executionCounter + r.trace.countP Happening.isAnswer +
      r.trace.countP Happening.isTalkPanic + r.unsettled = r.trace.countP Happening.isMessage ∧
    r.metrics.total Pool.panicCounter =
      r.trace.countP Happening.isTalkPanic + r.trace.countP Happening.isTaskPanic ∧
    (∀ labels, ((r.metrics.duration? Runner.executionDuration labels).getD {}).count =
        r.metrics.counter Runner.executionCounter labels ∧
      r.metrics.counter Runner.failureCounter labels ≤
        r.metrics.counter Runner.executionCounter labels) ∧
    r.metrics.total Runner.firingCounter = r.trace.countP Happening.isTaskStart + r.unbegun ∧
    (r.IsIdle →
      r.metrics.total Runner.executionCounter + r.trace.countP Happening.isAnswer +
        r.trace.countP Happening.isTalkPanic = r.trace.countP Happening.isMessage ∧
      r.metrics.total Runner.firingCounter = r.trace.countP Happening.isTaskStart) := by
  intro r
  obtain ⟨rs, metrics, -, balance⟩ := p.exists_balance_after polite going
  have total : ∀ name, Runner.failureCounter ≠ name →
      r.metrics.total name = rs.countP (Record.counts name) := by
    intro name other
    have sorted : ({} : Metrics).counters.IsSorted := .nil
    rw [metrics] at low
    rw [show r.metrics = _ from metrics, Metrics.total_foldl_book sorted rs other low]
    exact Nat.zero_add _
  have even : r.metrics.IsEven := by
    rw [show r.metrics = _ from metrics]
    exact Metrics.isEven_foldl_book ⟨fun _ => rfl, fun _ => le_refl _, fun _ => Nat.zero_le _⟩ rs
  obtain ⟨inputs, panics, messages, tasks⟩ := Runner.balance_filter.mp balance
  rw [← total _ (by decide)] at inputs panics messages tasks
  have settled : r.metrics.total Runner.executionCounter + r.trace.countP Happening.isAnswer +
      r.trace.countP Happening.isTalkPanic + r.unsettled = r.trace.countP Happening.isMessage :=
    messages
  have begun : r.metrics.total Runner.firingCounter =
      r.trace.countP Happening.isTaskStart + r.unbegun := tasks
  refine ⟨inputs, settled, panics, fun labels => ⟨even.durations labels, even.failures labels⟩,
    begun, fun idle => ?_⟩
  rw [idle.unsettled] at settled
  rw [idle.unbegun] at begun
  exact ⟨settled, begun⟩

end RunnerPlan

/-! ## A run with mishaps -/

namespace Mishaps

def chat : BotType := ⟨"chat"⟩

/-- A command that takes its own name. -/
def command (identifier : String) (executor : Executor Unit) : CommandTemplate Unit where
  botType := chat
  identifier
  matcher := .predicate fun i => .ok (i.message = identifier)
  executor := .fixed executor

/-- A task that panics. -/
def task : TaskTemplate where
  botType := chat
  identifier := "tick"
  schedule := some "@every 1s"
  executor := TaskTemplate.fixed fun _ => .panic "tick"

/-- A bot that panics when it is to respond to nonsense. -/
def bot : Bot where
  botType := chat
  respond i := if i.message = "nonsense" then .panicked "nonsense" else .done ()

def plan : RunnerPlan Unit where
  language _ _ := .done {}
  origin := default
  settings := { worker := { workers := 1 } }
  bots := [bot]
  registry := .ofTemplates
    [command "greet" fun _ => .done (.say "hello"), command "fail" fun _ => .fail ["no"],
      command "crash" fun _ => .panic "crash"] [task]

def message (text : String) : Input := { sender := "ann", message := text, replyTo := ⟨"ann"⟩ }

/-- An input is accepted, and its job, if there is one, is carried out. -/
def deals (i : Input) : List Runner.Move :=
  [.tell 0 i, .act (.runLoop 0), .act (.runLoop 0), .act (.intake 0), .act (.intake 0)] ++
    List.replicate 5 (.act (.worker 0))

/-- Each message is dealt with in its own way, and the task is executed once. -/
def moves : List Runner.Move :=
  .act (.supervisor 0) ::
    ["greet", "fail", "crash", "nonsense", "other"].flatMap (fun text => deals (message text)) ++
    deals (.abort "ann" ⟨"ann"⟩) ++ deals (.help "ann" ⟨"ann"⟩) ++
    [.act .planner, .pass 1000, .act (.timer 0), .act (.worker 0), .act (.worker 0),
      .act (.worker 0)]

def schedule (n : Nat) : Runner.Move := moves[n]?.getD (.pass 0)

/-- Of seven inputs five are messages: two are counted as executions, one has had a response, and
two have panicked. The task has panicked too. -/
theorem seven_inputs_are_accounted_for :
    let r := plan.start.after schedule 77
    (∀ m < 77, schedule m ≠ .cancel) ∧ r.metrics.IsLow ∧ r.IsIdle ∧
    r.metrics.total Runner.inputCounter = 7 ∧ r.trace.countP Happening.isMessage = 5 ∧
    r.metrics.total Runner.executionCounter = 2 ∧ r.trace.countP Happening.isAnswer = 1 ∧
    r.trace.countP Happening.isTalkPanic = 2 ∧ r.metrics.total Pool.panicCounter = 3 ∧
    r.metrics.total Runner.firingCounter = 1 := by
  intro r
  have polite : ∀ bot ∈ plan.bots, ∀ o m, bot.send o ≠ .panicked m := by simp [plan, bot]
  have going : ∀ m < 77, schedule m ≠ .cancel := by
    have none : ∀ m ∈ moves, m ≠ .cancel := by simp [moves, deals]
    intro m hm
    rw [schedule, List.getElem?_eq_getElem hm]
    exact none _ (List.getElem_mem _)
  have low : r.metrics.IsLow := plan.isLow_after polite going (by decide)
  have idle : r.IsIdle := by
    have free : r.lanes.all (fun l => l.intake matches .listening) = true := by decide +kernel
    refine ⟨List.isEmpty_iff.mp (by decide +kernel), List.isEmpty_iff.mp (by decide +kernel),
      List.isEmpty_iff.mp (by decide +kernel), fun l hl job holding => ?_⟩
    have listens := List.all_eq_true.mp free l hl
    rw [holding] at listens
    cases listens
  obtain ⟨inputs, messages, answers, talkPanics, taskPanics, taskStarts⟩ :
      r.trace.countP Happening.isInput = 7 ∧ r.trace.countP Happening.isMessage = 5 ∧
      r.trace.countP Happening.isAnswer = 1 ∧ r.trace.countP Happening.isTalkPanic = 2 ∧
      r.trace.countP Happening.isTaskPanic = 1 ∧ r.trace.countP Happening.isTaskStart = 1 := by
    decide +kernel
  obtain ⟨input, -, panic, -, -, rest⟩ := plan.metrics_account_for_jobs polite going low
  obtain ⟨settled, begun⟩ := rest idle
  have executions : r.metrics.total Runner.executionCounter + 1 + 2 = 5 :=
    answers ▸ talkPanics ▸ messages ▸ settled
  have panics : r.metrics.total Pool.panicCounter = 2 + 1 := talkPanics ▸ taskPanics ▸ panic
  exact ⟨going, low, idle, input.trans inputs, messages, by omega, answers, talkPanics, panics,
    begun.trans taskStarts⟩

end Mishaps

end Switchboard
