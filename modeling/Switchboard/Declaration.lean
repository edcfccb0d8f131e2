import Switchboard.Bundled.Routine
import Switchboard.Message.Document
import Switchboard.Pattern.Parser
import Switchboard.Registry

/-!
# Declarations

Commands and tasks that are declared by documents, with a script as their body. A declaration may
give the parts of a template one after another; a part that is given again replaces the earlier one.
-/

namespace Switchboard

/-- What is reported of a panic whose payload is no text. -/
def panicWithoutText : String := "non-string panic payload"

/-- The message of a declared panic. -/
def declaredPanic (v : Json) : String :=
  if v.str "payload" = "number" then panicWithoutText else v.str "message"

/-- The script of a document. -/
def Script.ofJson (v : Json) : Script :=
  let follower : Script :=
    match h : v.get? "then" with
    | some w =>
      have := Json.sizeOf_lt_of_get? h
      Script.ofJson w
    | none => .silence
  match v.str "do" with
  | "reply" => .reply (v.str "text")
  | "message" => .message
  | "rest" => .rest (v.str "prefix")
  | "json" => .value (v.field "value")
  | "config" => .settings
  | "bot" => .botName
  | "fail" => .fail (v.strs "chain")
  | "panic" => .panic (declaredPanic v)
  | "ask" => .ask (v.str? "text") (v.nat? "ttl_ms") follower
  | "until" => .untilWord (v.str "word") (v.nat? "ttl_ms")
  | "sleep" => .sleep (v.nat "ms") follower
  | "timeout" => .guarded (v.nat "ms") (v.nat "timeout_ms")
  | _ => .silence
termination_by sizeOf v

/-- The matcher of a document. A pattern that is none occurs everywhere. -/
def Matcher.ofJson (v : Json) : Matcher :=
  match v.str? "prefix", v.str? "pattern" with
  | some w, _ => .word w
  | none, some p => .pattern p ((Pattern.parse? p).getD (.one .empty))
  | none, none =>
    let needle := (v.str "contains").toList
    .predicate fun i => .ok (Text.occursIn needle i.message.toList)

/-- The parts of a declaration, the first first. -/
def Json.parts : Json → List Json
  | .array vs => vs
  | v => [v]

namespace CommandDraft

/-- The executor of a part: a script, bound to settings if there are any. -/
def executorOf (v : Json) : Binding (Executor Routine) :=
  let script := Script.ofJson (v.field "exec")
  let config := v.field "config"
  if config.isNull then .fixed (Routine.ofScript .null script)
  else if config.str "type" = "typed" then
    let defaults := (Settings.ofJson? (config.field "default")).getD ServiceSettings.standard
    .ofSettings defaults fun s => Routine.ofScript (Settings.toJson s) script
  else .ofSettings (config.field "default") fun s => Routine.ofScript s script

/-- Adds a part. -/
def add (d : CommandDraft Routine) (v : Json) : CommandDraft Routine where
  botType := ((v.str? "bot_type").map BotType.mk).or d.botType
  identifier := (v.str? "identifier").or d.identifier
  instruction := (v.str? "instruction").getD d.instruction
  matcher := if v.has "match" then some (Matcher.ofJson (v.field "match")) else d.matcher
  executor := if v.has "exec" then some (executorOf v) else d.executor

/-- The draft of a declaration. -/
def ofJson (v : Json) : CommandDraft Routine := v.parts.foldl add {}

end CommandDraft

/-- The body of a task in a document. -/
def TaskScript.ofJson (v : Json) : TaskScript :=
  let ending : TaskEnding :=
    if v.has "results" then
      .results ((v.list "results").map fun r =>
        ({ content := Content.ofJson r, destination := (r.str? "to").map Destination.mk },
          r.flag "note"))
    else if v.has "fail" then .fail (v.strs "fail")
    else .panic (declaredPanic (v.field "panic"))
  { sleep := v.nat? "sleep_ms", ending }

namespace TaskDraft

/-- The executor of a part: a body, bound to settings if there are any. -/
def executorOf (v : Json) : Binding BoundTask :=
  let script := TaskScript.ofJson (v.field "exec")
  let config := v.field "config"
  if config.isNull then TaskTemplate.fixed (script.run none)
  else if config.str "type" = "task" then
    let defaults : TaskSettings :=
      (Settings.ofJson? (config.field "default")).getD ⟨none, none, none⟩
    TaskTemplate.configured defaults fun s => script.run s.note
  else
    let defaults : NoteSettings := (Settings.ofJson? (config.field "default")).getD ⟨none⟩
    TaskTemplate.configured defaults fun s => script.run s.note

/-- Adds a part. -/
def add (d : TaskDraft) (v : Json) : TaskDraft where
  botType := ((v.str? "bot_type").map BotType.mk).or d.botType
  identifier := (v.str? "identifier").or d.identifier
  schedule := (v.str? "schedule").or d.schedule
  destination := ((v.str? "default_destination").map Destination.mk).or d.destination
  executor := if v.has "exec" then some (executorOf v) else d.executor

/-- The draft of a declaration. -/
def ofJson (v : Json) : TaskDraft := v.parts.foldl add {}

end TaskDraft

namespace Registry

/-- Registers a declared command. -/
def declareCommand (r : Registry Routine) (v : Json) : Except BuildError (Registry Routine) := do
  r.addCommand (← (CommandDraft.ofJson v).finish)

/-- Registers a declared task. -/
def declareTask (r : Registry Routine) (v : Json) : Except BuildError (Registry Routine) := do
  r.addTask (← (TaskDraft.ofJson v).finish)

/-- Registers declared commands, then declared tasks. -/
def declare (r : Registry Routine) (commands tasks : List Json) :
    Except BuildError (Registry Routine) := do
  tasks.foldlM declareTask (← commands.foldlM declareCommand r)

end Registry

end Switchboard
