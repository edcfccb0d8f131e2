import Switchboard.Execution

/-!
# Scripts

A small language for the bodies of commands and tasks: fixed and computed replies, failures,
waiting, and conversations of several steps. A script is run with the settings that its command is
bound to.
-/

namespace Switchboard

/-- The body of a command. -/
inductive Script where
  | reply (text : String)
  /-- Replies with the message. -/
  | message
  /-- Replies with what follows a first word. -/
  | rest (word : String)
  | value (v : Json)
  /-- Replies with the settings. -/
  | settings
  | botName
  /-- Replies nothing. -/
  | silence
  | fail (cause : Chain)
  | panic (message : String)
  /-- Asks, and runs another script for the answer. -/
  | ask (question : Option String) (ttl : Option Nat) (answer : Script)
  /-- Asks again until the message is this one. -/
  | untilWord (word : String) (ttl : Option Nat)
  | sleep (ms : Nat) (after : Script)
  /-- Waits, but not longer than a limit, and tells whether it could finish. -/
  | guarded (ms limit : Nat)
  deriving Repr, Inhabited

namespace Script

/-- What is said where a message does not begin with the word. -/
def noRest : String := "<none>"

/-- Runs a script. `code` turns the script of a later step into a code of the language in use. -/
def run {κ : Type} (code : Script → κ) (settings : Json) : Script → Executor κ
  | .reply s, _ => .done (.say s)
  | .message, c => .done (.say c.input.message)
  | .rest w, c => .done (.say ((c.input.afterWord? w).getD noRest))
  | .value v, _ => .done { content := some (.json v) }
  | .settings, _ => .done { content := some (.json settings) }
  | .botName, c => .done (.say c.botType.name)
  | .silence, _ => .done {}
  | .fail cause, _ => .fail cause
  | .panic m, _ => .panic m
  | .ask question ttl answer, _ =>
    .done { content := question.map .text, next := some ⟨ttl, code answer⟩ }
  | .untilWord w ttl, c =>
    if c.input.message = w then .done (.say "done")
    else .done { content := some (.text "again?"), next := some ⟨ttl, code (.untilWord w ttl)⟩ }
  | .sleep ms after, c => .sleep ms (run code settings after c)
  | .guarded ms limit, _ => .guarded ms limit (.done (.say "finished")) (.done (.say "timed out"))

end Script

/-- The end of a task's body. -/
inductive TaskEnding where
  /-- Results; `noted` ones have the remark of the settings as their text, if there is one. -/
  | results (items : List (TaskResult × Bool))
  | fail (cause : Chain)
  | panic (message : String)
  deriving Inhabited

/-- The body of a task: it may wait before it ends. -/
structure TaskScript where
  sleep : Option Nat := none
  ending : TaskEnding

namespace TaskScript

/-- Runs the body of a task with the remark of its settings. -/
def run (s : TaskScript) (note : Option String) : TaskExecutor := fun _ =>
  let body : Activity (List TaskResult) :=
    match s.ending with
    | .results items =>
      .done (items.map fun (r, noted) =>
        match noted, note with
        | true, some n => { r with content := .text n }
        | _, _ => r)
    | .fail cause => .fail cause
    | .panic m => .panic m
  match s.sleep with
  | none => body
  | some ms => .sleep ms body

end TaskScript

end Switchboard
