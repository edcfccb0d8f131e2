/-!
# Execution scopes

Executions run in scopes, which form a tree. Stopping a scope stops all scopes below it. A scope may
have a deadline, at which it stops by itself; a deadline counts only as long as somebody holds its
scope or one below it.
-/

namespace Switchboard

/-- A scope. -/
structure Scope where
  /-- The numbers of the scope itself and of all above it. -/
  lineage : List Nat
  deadline : Option Nat := none
  stopped : Bool := false
  deriving DecidableEq, Repr, Inhabited

/-- A tree of scopes on a clock, in milliseconds. Scopes are numbered in the order of their
making; number 0 is the root. -/
structure Scopes where
  now : Nat := 0
  scopes : List Scope := [{ lineage := [0] }]
  /-- The scopes that are held, once for each handle. -/
  held : List Nat := [0]
  deriving DecidableEq, Repr, Inhabited

namespace Scopes

def lineage (s : Scopes) (n : Nat) : List Nat := (s.scopes[n]?.map Scope.lineage).getD []

/-- Whether a scope has been stopped itself. -/
def isStopped (s : Scopes) (n : Nat) : Bool := s.scopes[n]?.any Scope.stopped

/-- Whether a scope or one above it has been stopped. -/
def isCancelled (s : Scopes) (n : Nat) : Bool := (s.lineage n).any s.isStopped

/-- Whether the scope or one below it is held. -/
def isHeld (s : Scopes) (n : Nat) : Bool := s.held.any fun h => (s.lineage h).contains n

/-- Stops the held scopes whose deadlines have passed. -/
def expire (s : Scopes) : Scopes :=
  { s with
    scopes := s.scopes.zipIdx.map fun (c, n) =>
      if c.deadline.any (· ≤ s.now) && s.isHeld n then { c with stopped := true } else c }

/-- Lets time pass. -/
def advance (s : Scopes) (ms : Nat) : Scopes := { s with now := s.now + ms }.expire

/-- A scope below another one, perhaps with a time limit. Its number is the size before. -/
def derive (s : Scopes) (parent : Nat) (limit : Option Nat := none) : Scopes :=
  let n := s.scopes.length
  let scope : Scope := { lineage := n :: s.lineage parent, deadline := limit.map (s.now + ·) }
  { s with scopes := s.scopes ++ [scope], held := s.held ++ [n] }.expire

/-- Another handle on a scope. -/
def hold (s : Scopes) (n : Nat) : Scopes := { s with held := s.held ++ [n] }

/-- Gives up a handle on a scope. -/
def release (s : Scopes) (n : Nat) : Scopes := { s with held := s.held.erase n }

/-- Stops a scope. -/
def stop (s : Scopes) (n : Nat) : Scopes :=
  { s with scopes := s.scopes.modify n fun c => { c with stopped := true } }

/-- How long a held scope will last; `none` is for ever. -/
def remaining? (s : Scopes) (n : Nat) : Option Nat :=
  if s.isCancelled n then some 0
  else
    ((s.lineage n).filterMap fun a => (s.scopes[a]?.bind Scope.deadline).map (· - s.now)).min?

/-- Runs something for `ms` in a held scope: whether it could finish, and how long it took. -/
def run (s : Scopes) (n ms : Nat) : Bool × Nat :=
  match s.remaining? n with
  | none => (true, ms)
  | some left =>
    if s.isCancelled n then (false, 0) else if ms ≤ left then (true, ms) else (false, left)

/-- Waits up to `ms` for a held scope to be cancelled: whether it was, and how long that took. -/
def awaitCancelled (s : Scopes) (n ms : Nat) : Bool × Nat :=
  match s.remaining? n with
  | none => (false, ms)
  | some left => if s.isCancelled n || left < ms then (true, left) else (false, ms)

end Scopes

end Switchboard
