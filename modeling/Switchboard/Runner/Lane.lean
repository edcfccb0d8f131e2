import Switchboard.Runner.Bot
import Switchboard.Runner.Job

/-!
# Lanes

Each bot has a lane of its own. The run loop puts inputs into the lane's mailbox and errors into its
error box; the intake and the error loop empty them. A supervisor starts the lane, and closes it
when the run loop has ended.
-/

namespace Switchboard

/-- What the intake of a lane is doing. -/
inductive Intake (κ : Type) where
  | listening
  /-- A job has been made of an input and is to be offered to the pool. -/
  | holding (job : Job κ)
  /-- The pool has no room for the job yet. -/
  | waiting
  | over

/-- What the error loop of a lane is doing. -/
inductive ErrorLoop where
  | listening
  /-- A critical error is passed on to the alerters that are left. -/
  | alerting (error : BotError) (alerters : List Alerter)
  | over

/-- How a run loop has ended. -/
inductive RunEnd where
  | returned
  | panicked
  deriving DecidableEq, Repr, Inhabited

/-- What the supervisor of a lane is doing. -/
inductive Supervisor where
  | starting
  /-- The run loop has not ended. -/
  | watching
  /-- The run loop has ended; intake and error loop are to end. -/
  | closing
  | over
  deriving DecidableEq, Repr, Inhabited

/-- A bot's lane. -/
structure Lane (κ : Type) where
  bot : Bot
  loop : RunLoop
  runEnd : Option RunEnd := none
  /-- Whether the lane has been told to stop. -/
  isStopped : Bool := false
  /-- Inputs on their way from the run loop to the intake. -/
  mailbox : List Input := []
  intake : Intake κ := .listening
  /-- Errors on their way from the run loop to the error loop. -/
  errorBox : List BotError := []
  errorLoop : ErrorLoop := .listening
  supervisor : Supervisor := .starting
  /-- Whether the bot's other side is gone. -/
  isHungUp : Bool := false

namespace Lane

variable {κ : Type}

/-- How many inputs a mailbox holds. -/
def mailboxSize : Nat := 100

/-- The lane of a bot before it starts. -/
def ofBot (bot : Bot) : Lane κ := { bot, loop := bot.loop }

def botType (l : Lane κ) : BotType := l.bot.botType

/-- Whether the intake has ended. -/
def intakeIsOver (l : Lane κ) : Bool :=
  match l.intake with
  | .over => true
  | _ => false

/-- Whether the error loop has ended. -/
def errorLoopIsOver (l : Lane κ) : Bool :=
  match l.errorLoop with
  | .over => true
  | _ => false

/-- Whether the run loop takes what it is told. -/
def hears (l : Lane κ) : Bool := l.bot.listens && !l.isHungUp

/-- The run loop is told to hand over an input. -/
def tell (l : Lane κ) (i : Input) : Lane κ :=
  if l.hears then { l with loop.inputs := l.loop.inputs ++ [i] } else l

/-- The run loop is told to raise an error. -/
def tellError (l : Lane κ) (e : BotError) : Lane κ :=
  if l.hears then { l with loop.errors := l.loop.errors ++ [e] } else l

/-- The bot's other side goes away. -/
def hangUp (l : Lane κ) : Lane κ := { l with isHungUp := true }

/-- Sends an output through the bot. -/
def send (l : Lane κ) (o : Output) : Outcome Unit :=
  match l.bot.send o with
  | .done _ => if l.isHungUp then .failed Bot.disconnected else .done ()
  | r => r

/-- Ends the intake; inputs in the mailbox are lost. -/
def endIntake (l : Lane κ) : Lane κ := { l with intake := .over, mailbox := [] }

/-- Ends the error loop; errors in its box are lost. -/
def endErrorLoop (l : Lane κ) : Lane κ := { l with errorLoop := .over, errorBox := [] }

/-- Whether the run loop can go on. -/
def runIsAble (l : Lane κ) (stopped : Bool) : Bool :=
  l.supervisor != .starting && l.runEnd.isNone &&
    match l.loop.inHand with
    | some _ => l.intakeIsOver || l.mailbox.length < mailboxSize
    | none =>
      stopped || !l.loop.errors.isEmpty || !l.loop.inputs.isEmpty || l.loop.ending != .stays

/-- The run loop's next step. An input that has been begun is handed over first, unless nobody takes
it any more; then a run loop that was stopped returns. -/
def runStep (l : Lane κ) (stopped : Bool) : Lane κ :=
  match l.loop.inHand with
  | some i =>
    if l.intakeIsOver then { l with runEnd := some .returned }
    else if l.mailbox.length < mailboxSize then
      { l with mailbox := l.mailbox ++ [i], loop.inHand := none }
    else l
  | none =>
    if stopped then { l with runEnd := some .returned }
    else
      match l.loop.errors, l.loop.inputs, l.loop.ending with
      | e :: rest, _, _ => { l with errorBox := l.errorBox ++ [e], loop.errors := rest }
      | [], i :: rest, _ => { l with loop.inHand := some i, loop.inputs := rest }
      | [], [], .returns => { l with runEnd := some .returned }
      | [], [], .panics => { l with runEnd := some .panicked }
      | [], [], .stays => l

/-- Whether the intake can end without another input. -/
def intakeCanEnd (l : Lane κ) (stopped : Bool) : Bool :=
  stopped || (l.runEnd.isSome && l.mailbox.isEmpty)

/-- Whether the error loop can go on. -/
def errorLoopIsAble (l : Lane κ) (stopped : Bool) : Bool :=
  l.supervisor != .starting &&
    match l.errorLoop with
    | .over => false
    | .alerting .. => true
    | .listening => stopped || !l.errorBox.isEmpty || l.runEnd.isSome

/-- Whether the supervisor can go on. -/
def supervisorIsAble (l : Lane κ) : Bool :=
  match l.supervisor with
  | .starting => true
  | .watching => l.runEnd.isSome
  | .closing => l.intakeIsOver && l.errorLoopIsOver
  | .over => false

end Lane

end Switchboard
