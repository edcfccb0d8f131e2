import Switchboard.Runner.State

/-!
# Dispatching inputs

The intake of a lane accepts an input: it drops the sender's conversation, or makes a job of the
input and offers that to the pool. A message takes the pending step of its sender with it, so that
no other job can take that; if there is none, the job goes by the commands that are live when a
worker begins it.
-/

namespace Switchboard

namespace Runner

variable {κ : Type}

/-- The counter of accepted inputs. -/
def inputCounter : String := "inputs_total"

/-- The labels of a bot type's series. -/
def botLabels (bot : BotType) : Labels := [("bot_type", bot.name)]

/-- The help listing of a bot type, to be sent to those who asked. -/
def helpJob (r : Runner κ) (k : Nat) (i : Input) : Job κ :=
  .deliver k i.sender ⟨i.replyTo, .help (r.workshop.registry.commandsOf (r.botTypeOf k)).help⟩

/-- Accepts an input. -/
def accept (r : Runner κ) (k : Nat) (i : Input) : Runner κ :=
  let bot := r.botTypeOf k
  let r := { r with metrics := r.metrics.increment inputCounter 1 (botLabels bot) }.emit
    (.accepted bot i)
  let hold (r : Runner κ) (job : Job κ) : Runner κ :=
    r.setLane k fun l => { l with intake := .holding job }
  match i.kind with
  | .abort => { r with conversations := r.conversations.remove i.sender }
  | .help => hold r (r.helpJob k i)
  | .message =>
    let (pending, conversations) := r.conversations.take r.now i.sender
    hold { r with conversations } (.converse k i pending)

/-- Offers the job of an intake to the pool. -/
def offer (r : Runner κ) (k : Nat) (job : Job κ) : Runner κ :=
  if r.pool.closed then r.setLane k Lane.endIntake
  else if r.pool.hasRoom then
    { r with pool := r.pool.push { job } }.setLane k fun l => { l with intake := .listening }
  else
    { r with pool := r.pool.keepWaiting (intakeProducer k) { job } }.setLane k fun l =>
      { l with intake := .waiting }

/-- The pool answers an intake that waits: its job enters the queue or is refused. -/
def enter (r : Runner κ) (k : Nat) : Runner κ :=
  let producer := intakeProducer k
  if r.pool.closed then
    { r with pool := r.pool.withdraw producer }.setLane k Lane.endIntake
  else
    match r.pool.admitted? producer with
    | none => r
    | some work =>
      { r with pool := (r.pool.withdraw producer).push work }.setLane k fun l =>
        { l with intake := .listening }

/-- Whether the pool has an answer for a producer. -/
def poolAnswers (r : Runner κ) (producer : Nat) : Bool :=
  r.pool.isWaiting producer && (r.pool.closed || (r.pool.admitted? producer).isSome)

/-- Whether the intake of a lane can go on. -/
def intakeIsAble (r : Runner κ) (k : Nat) : Bool :=
  match r.lanes[k]? with
  | none => false
  | some l =>
    l.supervisor != .starting &&
      match l.intake with
      | .over => false
      | .holding _ => true
      | .waiting => r.poolAnswers (intakeProducer k)
      | .listening => l.intakeCanEnd (r.isStopped k) || !l.mailbox.isEmpty

/-- The next step of a lane's intake. A lane that has been told to stop accepts nothing more. -/
def intakeStep (r : Runner κ) (k : Nat) : Runner κ :=
  match r.lanes[k]? with
  | none => r
  | some l =>
    match l.intake with
    | .over => r
    | .holding job => r.offer k job
    | .waiting => r.enter k
    | .listening =>
      if l.intakeCanEnd (r.isStopped k) then r.setLane k Lane.endIntake
      else
        match l.mailbox with
        | [] => r
        | i :: rest => (r.setLane k fun l => { l with mailbox := rest }).accept k i

end Runner

end Switchboard
