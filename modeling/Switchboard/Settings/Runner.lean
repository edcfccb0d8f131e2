import Switchboard.Error
import Switchboard.Files.Tree
import Switchboard.Text.Blank
import Switchboard.Yaml.Json

/-!
# Settings of the runner

The settings come from a document of three sections; sections and fields that are left out keep
their defaults, unknown names have no effect, and no name may come twice. Durations are in seconds
or milliseconds as their names say; an interval of zero turns its activity off.
-/

namespace Switchboard

/-- The size of the worker pool and how often its queue is reported. -/
structure WorkerSettings where
  workers : Nat := 100
  queueSize : Nat := 10
  superviseSeconds : Nat := 60
  deriving DecidableEq, Repr, Inhabited

/-- Limits of the conversation store. -/
structure ConversationSettings where
  ttlSeconds : Nat := 300
  maxEntries : Nat := 10000
  sweepSeconds : Nat := 60
  deriving DecidableEq, Repr, Inhabited

/-- Where configuration files are and how long a file must be at rest. -/
structure WatchSettings where
  baseDirectory : Option String := none
  debounceMillis : Nat := 200
  deriving DecidableEq, Repr, Inhabited

/-- All settings of a runner. -/
structure RunnerSettings where
  worker : WorkerSettings := {}
  conversation : ConversationSettings := {}
  watch : WatchSettings := {}
  deriving DecidableEq, Repr, Inhabited

namespace RunnerSettings

open Yaml (Document Node Tag)

/-- The entries of a section; a section without content has none. -/
def entries? (d : Document) (n : Node) : Option (List (String × Node)) := do
  match ← d.target? n with
  | .mapping _ es => es.mapM fun (k, v) => do
    match ← d.target? k with
    | .scalar _ _ name => return (name, v)
    | _ => none
  | .scalar _ .plain "" => return []
  | .absent => return []
  | _ => none

/-- The node of a name that comes at most once. -/
def once? (es : List (String × Node)) (name : String) : Option (Option Node) :=
  match es.filter fun e => e.1 = name with
  | [] => some none
  | [e] => some (some e.2)
  | _ => none

/-- An unsigned integer of 64 bits, written plainly, or as a literal block with the tag of
integers. -/
def unsigned? (d : Document) (n : Node) : Option Nat := do
  match ← d.target? n with
  | .scalar tag style s =>
    if style = .plain || (style = .literal && tag == some Tag.int) then
      (Yaml.Schema.unsigned? s).filter (· ≤ 0xFFFFFFFFFFFFFFFF)
    else none
  | _ => none

/-- A text of any form, or nothing. -/
def text? (d : Document) (n : Node) : Option (Option String) := do
  match ← d.target? n with
  | .scalar tag style s =>
    if style ≠ .plain then some (some s)
    else if tag == some Tag.null then if Yaml.Schema.isNull s then some none else none
    else if tag.isSome then some (some s)
    else if s.isEmpty || Yaml.Schema.isNull s then some none
    else some (some s)
  | .absent => some none
  | _ => none

/-- The value of a name, or its default. -/
def fieldOr? {α : Type} (es : List (String × Node)) (name : String) (default : α)
    (read : Node → Option α) : Option α :=
  match once? es name with
  | none => none
  | some none => some default
  | some (some n) => read n

def worker? (d : Document) (n : Node) : Option WorkerSettings := do
  let es ← entries? d n
  let s : WorkerSettings := {}
  return ⟨← fieldOr? es "worker_num" s.workers (unsigned? d),
    ← fieldOr? es "queue_size" s.queueSize (unsigned? d),
    ← fieldOr? es "supervise_interval_secs" s.superviseSeconds (unsigned? d)⟩

def conversation? (d : Document) (n : Node) : Option ConversationSettings := do
  let es ← entries? d n
  let s : ConversationSettings := {}
  return ⟨← fieldOr? es "ttl_secs" s.ttlSeconds (unsigned? d),
    ← fieldOr? es "max_entries" s.maxEntries (unsigned? d),
    ← fieldOr? es "sweep_interval_secs" s.sweepSeconds (unsigned? d)⟩

def watch? (d : Document) (n : Node) : Option WatchSettings := do
  let es ← entries? d n
  let s : WatchSettings := {}
  return ⟨← fieldOr? es "base_dir" s.baseDirectory (text? d),
    ← fieldOr? es "debounce_ms" s.debounceMillis (unsigned? d)⟩

/-- The settings that a document holds. -/
def ofDocument? (d : Document) : Option RunnerSettings := do
  let es ← entries? d d.root
  return ⟨← fieldOr? es "worker" {} (worker? d), ← fieldOr? es "user_context" {} (conversation? d),
    ← fieldOr? es "watcher" {} (watch? d)⟩

/-- The settings that a text holds; a blank text holds the defaults. -/
def parse (text : String) : Except SettingsError RunnerSettings :=
  if Text.isBlankText text then .ok {}
  else
    match (Yaml.Document.parse? text).bind ofDocument? with
    | some s => .ok s
    | none => .error (.parse "not a document of settings")

/-- The settings that a file holds. -/
def read (files : FileTree) (path : FilePath) : Except SettingsError RunnerSettings :=
  match files.readText path with
  | .error e => .error (.io path.text e.message)
  | .ok text => parse text

/-- An interval in seconds as milliseconds; none turns the activity off. -/
def interval? (seconds : Nat) : Option Nat := if seconds = 0 then none else some (seconds * 1000)

end RunnerSettings

end Switchboard
