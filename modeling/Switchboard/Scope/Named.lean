import Switchboard.Scope
import Switchboard.Table

/-!
# Named scopes

Scopes under names. A name holds its scope until it is dropped or given to another scope; a scope
that has been given up stays in sight.
-/

namespace Switchboard

/-- Scopes with names. -/
structure NamedScopes where
  scopes : Scopes := {}
  /-- The scope that each name had last. -/
  names : Table Nat := [("root", 0)]
  /-- The names that hold their scope. -/
  inUse : List String := ["root"]
  deriving Repr, Inhabited

namespace NamedScopes

/-- The scope of a name. -/
def scope (s : NamedScopes) (name : String) : Nat := (Table.find? name s.names).getD 0

/-- A name gives up its scope. -/
def drop (s : NamedScopes) (name : String) : NamedScopes :=
  if s.inUse.contains name then
    { s with scopes := s.scopes.release (s.scope name), inUse := s.inUse.erase name }
  else s

/-- Gives a held scope to a name. -/
def give (s : NamedScopes) (name : String) (scope : Nat) : NamedScopes :=
  let s := s.drop name
  { s with names := Table.insert name scope s.names, inUse := name :: s.inUse }

/-- Gives a name a scope below that of another name, perhaps with a time limit. -/
def derive (s : NamedScopes) (name parent : String) (limit : Option Nat := none) : NamedScopes :=
  { s with scopes := s.scopes.derive (s.scope parent) limit }.give name s.scopes.scopes.length

/-- Gives a name the scope of another name. -/
def share (s : NamedScopes) (name other : String) : NamedScopes :=
  { s with scopes := s.scopes.hold (s.scope other) }.give name (s.scope other)

/-- Stops the scope of a name. -/
def stop (s : NamedScopes) (name : String) : NamedScopes :=
  { s with scopes := s.scopes.stop (s.scope name) }

/-- Lets time pass. -/
def advance (s : NamedScopes) (ms : Nat) : NamedScopes := { s with scopes := s.scopes.advance ms }

/-- Runs something in the scope of a name: whether it could finish, and how long it took. -/
def run (s : NamedScopes) (name : String) (ms : Nat) : (Bool × Nat) × NamedScopes :=
  let r := s.scopes.run (s.scope name) ms
  (r, s.advance r.2)

/-- Waits for the scope of a name to be cancelled: whether it was, and how long that took. -/
def awaitCancelled (s : NamedScopes) (name : String) (ms : Nat) : (Bool × Nat) × NamedScopes :=
  let r := s.scopes.awaitCancelled (s.scope name) ms
  (r, s.advance r.2)

/-- The names whose scopes are cancelled, in order. -/
def cancelled (s : NamedScopes) : List String :=
  (s.names.filter fun e => s.scopes.isCancelled e.2).map Prod.fst

end NamedScopes

end Switchboard
