import Switchboard.Execution

/-!
# Pending conversations

The next step of each sender's conversation, with the time at which it was stored and how long it
lives. A step that has lived its time counts as absent, but keeps its place until it is taken,
replaced or purged. A full store makes room for a new sender: it purges first, and drops the oldest
step if that was not enough.
-/

namespace Switchboard

/-- A stored step. -/
structure Conversation (κ : Type) where
  sender : String
  step : Step κ
  /-- When the step was stored. -/
  since : Nat
  lifetime : Nat
  deriving Repr

namespace Conversation

variable {κ : Type}

def isExpired (c : Conversation κ) (now : Nat) : Bool := c.lifetime ≤ now - c.since

/-- The first of the entries that were stored earliest. -/
def oldest? : List (Conversation κ) → Option (Conversation κ)
  | [] => none
  | c :: rest =>
    match oldest? rest with
    | none => some c
    | some d => if c.since ≤ d.since then some c else some d

end Conversation

/-- The pending conversations, in the order in which they were stored. -/
structure Conversations (κ : Type) where
  /-- How long a step lives that does not say so itself. -/
  lifetime : Nat
  limit : Nat
  entries : List (Conversation κ) := []
  deriving Repr

namespace Conversations

variable {κ : Type}

/-- How many steps are kept; at least one. -/
def capacity (s : Conversations κ) : Nat := max s.limit 1

def size (s : Conversations κ) : Nat := s.entries.length

def isEmpty (s : Conversations κ) : Bool := s.entries.isEmpty

/-- What is stored for a sender, expired or not. -/
def stored? (s : Conversations κ) (sender : String) : Option (Conversation κ) :=
  s.entries.find? fun c => c.sender == sender

/-- Whether a step is stored for the sender that has not expired. -/
def contains (s : Conversations κ) (now : Nat) (sender : String) : Bool :=
  (s.stored? sender).any fun c => !c.isExpired now

/-- Drops what is stored for a sender. -/
def remove (s : Conversations κ) (sender : String) : Conversations κ :=
  { s with entries := s.entries.filter fun c => c.sender ≠ sender }

/-- Removes what is stored for a sender and gives its step, if that has not expired. -/
def take (s : Conversations κ) (now : Nat) (sender : String) : Option (Step κ) × Conversations κ :=
  (((s.stored? sender).filter fun c => !c.isExpired now).map Conversation.step, s.remove sender)

/-- Removes all expired steps. -/
def purge (s : Conversations κ) (now : Nat) : Conversations κ :=
  { s with entries := s.entries.filter fun c => !c.isExpired now }

/-- How many steps have expired. -/
def expired (s : Conversations κ) (now : Nat) : Nat :=
  s.entries.countP fun c => c.isExpired now

/-- Removes the step that was stored earliest. -/
def dropOldest (s : Conversations κ) : Conversations κ :=
  match Conversation.oldest? s.entries with
  | none => s
  | some c => s.remove c.sender

/-- Makes room for a sender, if there is none. -/
def makeRoom (s : Conversations κ) (now : Nat) (sender : String) : Conversations κ :=
  if (s.stored? sender).isSome || s.size < s.capacity then s
  else
    let purged := s.purge now
    if purged.size < purged.capacity then purged else purged.dropOldest

/-- Stores a step for a sender in the place of an earlier one. -/
def put (s : Conversations κ) (now : Nat) (sender : String) (step : Step κ) : Conversations κ :=
  let entry : Conversation κ := ⟨sender, step, now, step.ttl.getD s.lifetime⟩
  { s with entries := (s.remove sender).entries ++ [entry] }

/-- Stores a step for a sender. -/
def insert (s : Conversations κ) (now : Nat) (sender : String) (step : Step κ) : Conversations κ :=
  (s.makeRoom now sender).put now sender step

theorem stored?_remove_self (s : Conversations κ) (sender : String) :
    (s.remove sender).stored? sender = none := by
  simp only [stored?, remove, List.find?_eq_none, List.mem_filter]
  intro c hc
  simpa using hc.2

theorem stored?_remove_of_ne (s : Conversations κ) {sender other : String} (h : other ≠ sender) :
    (s.remove sender).stored? other = s.stored? other := by
  simp only [stored?, remove, List.find?_filter]
  congr 1
  funext c
  by_cases hc : c.sender = other
  · simp [hc, h]
  · simp [hc]

theorem stored?_put_self (s : Conversations κ) (now : Nat) (sender : String) (step : Step κ) :
    (s.put now sender step).stored? sender =
      some ⟨sender, step, now, step.ttl.getD s.lifetime⟩ := by
  have h := stored?_remove_self s sender
  simp only [stored?] at h
  simp [stored?, put, List.find?_append, h]

theorem stored?_put_of_ne (s : Conversations κ) (now : Nat) {sender other : String}
    (h : other ≠ sender) (step : Step κ) :
    (s.put now sender step).stored? other = s.stored? other := by
  rw [← stored?_remove_of_ne s h]
  simp [stored?, put, List.find?_append, Ne.symm h]

end Conversations

end Switchboard
