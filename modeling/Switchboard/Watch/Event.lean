import Switchboard.Files.Tree

/-!
# File events

What the operating system reports about files. `FileEvent.written` says which files of an event may
have a new content; the other events are passed over, so that changed attributes and files moved
away have no effect.
-/

namespace Switchboard

/-- What happened to files. -/
inductive ChangeKind where
  | created
  /-- The content changed. -/
  | content
  /-- Changed in a way that is not told. -/
  | changed
  | changedOtherwise
  | attributes
  | movedHere
  | movedAway
  /-- The first file is now the second. -/
  | moved
  /-- Moved here or away. -/
  | movedSomehow
  | movedOtherwise
  | removed
  | accessed
  | unknown
  | other
  deriving DecidableEq, Repr, Inhabited

/-- The kind of a name. -/
def ChangeKind.ofName : String → ChangeKind
  | "create" | "create_any" => .created
  | "data" => .content
  | "modify_any" => .changed
  | "modify_other" => .changedOtherwise
  | "metadata" => .attributes
  | "name_to" => .movedHere
  | "name_from" => .movedAway
  | "name_both" => .moved
  | "name_any" => .movedSomehow
  | "name_other" => .movedOtherwise
  | "remove" => .removed
  | "access" => .accessed
  | "any" => .unknown
  | _ => .other

/-- A report about files. -/
structure FileEvent where
  kind : ChangeKind
  paths : List FilePath
  deriving DecidableEq, Repr, Inhabited

namespace FileEvent

/-- The files whose content may be new. Where a move may have been one away, the files that are
still there. -/
def written (files : FileTree) (e : FileEvent) : List FilePath :=
  match e.kind with
  | .created | .content | .changed | .movedHere => e.paths
  | .moved => e.paths.drop 1
  | .movedSomehow => e.paths.filter files.holds
  | _ => []

end FileEvent

end Switchboard
