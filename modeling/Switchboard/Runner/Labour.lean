import Switchboard.Runner.State

/-!
# The work on jobs

How a worker carries out a job. A message goes to the pending step that came with it, else to the
first live command that takes it, else to the bot. When an execution has succeeded, the step that it
leaves is stored before its content is sent. A job that panics is given up, and its worker goes on.
-/

namespace Switchboard

namespace Runner

variable {κ : Type}

/-- The name under which pending steps are counted. -/
def stepLabel : String := "user_context"

def executionCounter : String := "commands_executed_total"

def executionDuration : String := "command_duration_ms"

def failureCounter : String := "command_errors_total"

/-- The labels of a command's series. -/
def commandLabels (bot : BotType) (label : String) : Labels :=
  [("bot_type", bot.name), ("command", label)]

/-- Sets how far a worker's job has got. -/
def setStage (r : Runner κ) (worker : Nat) (work : Work κ) (stage : Stage κ) : Runner κ :=
  { r with pool := r.pool.setJob worker { work with stage } }

/-- A worker has finished its job. -/
def finish (r : Runner κ) (worker : Nat) : Runner κ := { r with pool := r.pool.finish worker }

/-- A worker gives up a job that panicked. -/
def giveUp (r : Runner κ) (worker : Nat) (job : Job κ) (message : String) : Runner κ :=
  ({ r with metrics := r.metrics.increment Pool.panicCounter 1 }.emit
    (.panicked job.sender? message)).finish worker

/-- Whether the execution of a job is cancelled: with its lane if it belongs to one, and in any case
with the whole run. -/
def jobIsCancelled (r : Runner κ) (job : Job κ) : Bool :=
  if job.isOfLane then r.isStopped job.lane else r.isCancelled

/-- The bot responds to an input that nothing takes. -/
def respond (r : Runner κ) (worker : Nat) (job : Job κ) (i : Input) : Runner κ :=
  match r.lanes[job.lane]? with
  | none => r.finish worker
  | some l =>
    let outcome := l.bot.respond i
    let r := r.emit (.responded l.botType i outcome)
    match outcome with
    | .panicked m => r.giveUp worker job m
    | _ => r.finish worker

/-- A worker begins a job. -/
def begin (r : Runner κ) (worker : Nat) (work : Work κ) : Runner κ :=
  let bot := r.botTypeOf work.job.lane
  match work.job with
  | .deliver _ _ o => r.setStage worker work (.sending [o])
  | .converse _ i pending =>
    let call : Call := { botType := bot, input := i, clock := r.clock }
    let talk (r : Runner κ) (label : String) (a : Activity (Turn κ)) : Runner κ :=
      r.setStage worker work (.talking label r.now (.start r.now a))
    match pending with
    | some step => talk (r.emit (.resumed bot i step)) stepLabel (r.language step.code call)
    | none =>
      match (r.workshop.registry.commandsOf bot).search i with
      | .ok (some c) => talk (r.emit (.executed bot c.identifier i)) c.identifier (c.run call)
      | .ok none => r.respond worker work.job i
      | .error m => r.giveUp worker work.job m
  | .perform _ t =>
    let registry := r.workshop.registry.countExecution t.key
    let call : TaskCall :=
      { botType := t.botType, count := registry.executionsOf t.key, clock := r.clock }
    ({ r with workshop.registry := registry }.emit (.performed t.key)).setStage worker work
      (.working (.start r.now (t.run call)))

/-- The outputs of a turn. -/
def turnOutputs (i : Input) (t : Turn κ) : List Output :=
  t.content.toList.map fun c => ⟨i.replyTo, c⟩

/-- Stores the step that a turn leaves for the sender's next input. -/
def keep (r : Runner κ) (sender : String) : Option (Step κ) → Runner κ
  | none => r
  | some step =>
    { r with conversations := r.conversations.insert r.now sender step }.emit (.stored sender step)

/-- Counts an execution that has ended. -/
def countExecution (r : Runner κ) (bot : BotType) (label : String) (since : Nat) : Runner κ :=
  { r with
    metrics := (r.metrics.increment executionCounter 1 (commandLabels bot label)).observe
      executionDuration (r.now - since) (commandLabels bot label) }

/-- The execution of a command or a step has ended. -/
def concludeTalk (r : Runner κ) (worker : Nat) (work : Work κ) (i : Input) (label : String)
    (since : Nat) (outcome : Outcome (Turn κ)) : Runner κ :=
  let bot := r.botTypeOf work.job.lane
  match outcome with
  | .panicked m => r.giveUp worker work.job m
  | .done t =>
    ((r.countExecution bot label since).keep i.sender t.next).setStage worker work
      (.sending (turnOutputs i t))
  | .failed c =>
    let r := r.countExecution bot label since
    ({ r with metrics := r.metrics.increment failureCounter 1 (commandLabels bot label) }.emit
      (.failed bot label i c)).finish worker

/-- The execution of a task has ended. -/
def concludeTask (r : Runner κ) (worker : Nat) (work : Work κ) (t : ScheduledTask)
    (outcome : Outcome (List TaskResult)) : Runner κ :=
  match outcome with
  | .panicked m => r.giveUp worker work.job m
  | .done results =>
    (List.replicate (t.dropped results) Note.destinationMissing).foldl note
      (r.setStage worker work (.sending (t.outputs results)))
  | .failed c => (r.emit (.taskFailed t.key c)).finish worker

/-- Sends the first of the outputs that are left. -/
def sendNext (r : Runner κ) (worker : Nat) (work : Work κ) (o : Output) (rest : List Output) :
    Runner κ :=
  match r.lanes[work.job.lane]? with
  | none => r.finish worker
  | some l =>
    let outcome := l.send o
    let r := r.emit (.sent l.botType work.job.sender? o outcome)
    match outcome with
    | .panicked m => r.giveUp worker work.job m
    | _ => r.setStage worker work (.sending rest)

/-- A worker goes on with the job in its hands. -/
def carryOn (r : Runner κ) (worker : Nat) (work : Work κ) : Runner κ :=
  let cancelled := r.jobIsCancelled work.job
  match work.stage, work.job with
  | .ready, _ => r.begin worker work
  | .talking label since e, .converse _ i _ =>
    match e.outcome? with
    | some outcome => r.concludeTalk worker work i label since outcome
    | none => r.setStage worker work (.talking label since (e.goOn r.now cancelled))
  | .working e, .perform _ t =>
    match e.outcome? with
    | some outcome => r.concludeTask worker work t outcome
    | none => r.setStage worker work (.working (e.goOn r.now cancelled))
  | .sending (o :: rest), _ => r.sendNext worker work o rest
  | _, _ => r.finish worker

/-- Whether a worker can go on. -/
def workerIsAble (r : Runner κ) (worker : Nat) : Bool :=
  match r.pool.job? worker with
  | none => (r.pool.offered? worker).isSome || r.pool.canLeave worker
  | some work => work.canGoOn r.now (r.jobIsCancelled work.job)

/-- The next step of a worker: it goes on, takes a job, or leaves a closed pool. -/
def workerStep (r : Runner κ) (worker : Nat) : Runner κ :=
  match r.pool.job? worker with
  | some work => r.carryOn worker work
  | none =>
    if r.pool.canLeave worker then { r with pool := r.pool.leave worker }
    else { r with pool := r.pool.take worker }

end Runner

end Switchboard
