import Mathlib.Logic.Relation
import Switchboard.Proofs.StoreRoom

/-!
# A store that tasks share

To store a step takes several looks at the store and several changes of it. Insertions keep each
other out by a lock; those who take, remove or sweep do not wait for it, so that an entry may be
gone when the holder of the lock comes back to it. `SharedStore.Next` has a step for each of these
looks and changes, in any order of the tasks and at any time.

Undisturbed, the steps of an insertion make room as `Conversations.Room` says (`insert_alone`).
Whatever comes between them, the store never holds more than its capacity: an entry that the holder
of the lock has seen is there still, or has left its place (`Relies.of_sublist`).
-/

namespace Switchboard

/-- How far an insertion has got since it has the lock. -/
inductive InsertionStage where
  /-- Is there a step of the sender? -/
  | looking
  /-- Is the store full? -/
  | counting
  | purging
  /-- Is it full still? -/
  | recounting
  /-- Which step is the oldest? -/
  | choosing
  | dropping (oldest : String)
  | storing
  deriving DecidableEq, Repr

/-- An insertion that has the lock. -/
structure Insertion (κ : Type) where
  sender : String
  step : Step κ
  stage : InsertionStage := .looking

namespace Insertion

open Conversations

/-- A step of an insertion: what it leaves of the store, and the stage after it, which is none when
the lock is given back. -/
inductive Proceeds {κ : Type} (now : Nat) (s : Conversations κ) (x : String) (step : Step κ) :
    InsertionStage → Conversations κ → Option InsertionStage → Prop
  | present (h : (s.stored? x).isSome) : Proceeds now s x step .looking s (some .storing)
  | absent (h : s.stored? x = none) : Proceeds now s x step .looking s (some .counting)
  | roomy (h : s.size < s.capacity) : Proceeds now s x step .counting s (some .storing)
  | full (h : s.capacity ≤ s.size) : Proceeds now s x step .counting s (some .purging)
  | purge : Proceeds now s x step .purging (s.purge now) (some .recounting)
  | roomier (h : s.size < s.capacity) : Proceeds now s x step .recounting s (some .storing)
  | crowded (h : s.capacity ≤ s.size) : Proceeds now s x step .recounting s (some .choosing)
  /-- There is no oldest step when all are gone. -/
  | empty (h : s.entries = []) : Proceeds now s x step .choosing s (some .storing)
  /-- Of several oldest steps any may be chosen. -/
  | oldest (c : Conversation κ) (mem : c ∈ s.entries) (h : ∀ d ∈ s.entries, c.since ≤ d.since) :
    Proceeds now s x step .choosing s (some (.dropping c.sender))
  | drop (y : String) : Proceeds now s x step (.dropping y) (s.remove y) (some .storing)
  | store : Proceeds now s x step .storing (s.put now x step) none

/-- What the stages rely on, whatever the other tasks do. -/
def Relies {κ : Type} (s : Conversations κ) (x : String) : InsertionStage → Prop
  | .dropping y => s.HasPlace y
  | .storing => s.HasPlace x
  | _ => True

section

variable {κ : Type} {now : Nat} {s t : Conversations κ} {x : String} {step : Step κ}
  {stage : InsertionStage}

theorem Relies.of_sublist (h : Relies s x stage) (bounded : s.size ≤ s.capacity)
    (part : t.entries.Sublist s.entries) (limit : t.limit = s.limit) : Relies t x stage := by
  cases stage with
  | dropping y => exact HasPlace.of_sublist h bounded part limit
  | storing => exact HasPlace.of_sublist h bounded part limit
  | _ => trivial

theorem Proceeds.limit {next : Option InsertionStage} (h : Proceeds now s x step stage t next) :
    t.limit = s.limit := by
  cases h <;> rfl

theorem relies_some (h : Relies s x stage) : ∀ next ∈ some stage, Relies s x next := by
  rintro _ ⟨⟩
  exact h

/-- A step of an insertion leaves no more than the capacity, and what the next one relies on. -/
theorem Proceeds.bounded {next : Option InsertionStage} (h : Proceeds now s x step stage t next)
    (bounded : s.size ≤ s.capacity) (relies : Relies s x stage) :
    t.size ≤ s.capacity ∧ ∀ stage ∈ next, Relies t x stage := by
  cases h with
  | present h => exact ⟨bounded, relies_some (.inl h)⟩
  | absent => exact ⟨bounded, relies_some trivial⟩
  | roomy h => exact ⟨bounded, relies_some (.inr h)⟩
  | full => exact ⟨bounded, relies_some trivial⟩
  | purge => exact ⟨(s.sublist_purge now).length_le.trans bounded, relies_some trivial⟩
  | roomier h => exact ⟨bounded, relies_some (.inr h)⟩
  | crowded => exact ⟨bounded, relies_some trivial⟩
  | empty h =>
    have none : s.size = 0 := by rw [size, h, List.length_nil]
    exact ⟨bounded, relies_some (.inr (none ▸ s.one_le_capacity))⟩
  | oldest c mem h => exact ⟨bounded, relies_some (.inl (isSome_stored? mem))⟩
  | drop y =>
    have less := HasPlace.size_remove_lt relies bounded
    exact ⟨less.le, relies_some (.inr less)⟩
  | store => exact ⟨HasPlace.size_put_le relies bounded now step, by simp⟩

end

end Insertion

/-- A store that tasks share, with the lock of its insertions. -/
structure SharedStore (κ : Type) where
  now : Nat := 0
  store : Conversations κ
  /-- Insertions that wait for the lock. -/
  waiting : List (String × Step κ) := []
  /-- The insertion that has the lock. -/
  holder : Option (Insertion κ) := none

namespace SharedStore

open Insertion Conversations

variable {κ : Type} {s t : SharedStore κ} {lifetime limit : Nat}

/-- An empty store. -/
def ofSize (lifetime limit : Nat) : SharedStore κ := { store := { lifetime, limit } }

/-- What may happen next. -/
inductive Next (s : SharedStore κ) : SharedStore κ → Prop
  | call (x : String) (step : Step κ) : Next s { s with waiting := s.waiting ++ [(x, step)] }
  | lock (front back : List (String × Step κ)) (x : String) (step : Step κ)
    (free : s.holder = none) (waits : s.waiting = front ++ (x, step) :: back) :
    Next s { s with waiting := front ++ back, holder := some { sender := x, step } }
  | proceed (i : Insertion κ) (holds : s.holder = some i) (store : Conversations κ)
    (stage : Option InsertionStage) (h : Proceeds s.now s.store i.sender i.step i.stage store stage) :
    Next s { s with store, holder := stage.map fun stage => { i with stage } }
  | take (x : String) : Next s { s with store := (s.store.take s.now x).2 }
  | remove (x : String) : Next s { s with store := s.store.remove x }
  | purge : Next s { s with store := s.store.purge s.now }
  /-- The clock moves, or is moved, to any time. -/
  | clock (time : Nat) : Next s { s with now := time }

/-- What may be reached in any number of steps. -/
abbrev Reaches (s t : SharedStore κ) : Prop := Relation.ReflTransGen Next s t

/-! ## An insertion that nobody disturbs -/

section

variable {now : Nat} {waiting : List (String × Step κ)} {x : String} {step : Step κ}

/-- A store whose lock an insertion has at a stage, or nobody. -/
def held (now : Nat) (waiting : List (String × Step κ)) (x : String) (step : Step κ)
    (store : Conversations κ) (stage : Option InsertionStage) : SharedStore κ :=
  ⟨now, store, waiting, stage.map fun stage => ⟨x, step, stage⟩⟩

theorem next_held {store store' : Conversations κ} {stage : InsertionStage}
    {next : Option InsertionStage} (h : Proceeds now store x step stage store' next) :
    Next (held now waiting x step store (some stage)) (held now waiting x step store' next) :=
  .proceed ⟨x, step, stage⟩ rfl store' next h

/-- From its first look to the store, an insertion that nobody disturbs makes room. -/
theorem reaches_storing {store room : Conversations κ} (h : store.Room now x room) :
    Reaches (held now waiting x step store (some .looking))
      (held now waiting x step room (some .storing)) := by
  have count : store.stored? x = none →
      Reaches (held now waiting x step store (some .looking))
        (held now waiting x step store (some .counting)) :=
    fun absent => .single (next_held (.absent absent))
  have recount : store.stored? x = none → store.capacity ≤ store.size →
      Reaches (held now waiting x step store (some .looking))
        (held now waiting x step (store.purge now) (some .recounting)) :=
    fun absent full =>
      ((count absent).tail (next_held (.full full))).tail (next_held .purge)
  cases h with
  | enough place =>
    cases present : store.stored? x with
    | some c => exact .single (next_held (.present (by simp [present])))
    | none =>
      have less : store.size < store.capacity := by simpa [HasPlace, present] using place
      exact (count present).tail (next_held (.roomy less))
  | purged absent full less => exact (recount absent full).tail (next_held (.roomier less))
  | dropped absent full crowded c mem oldest =>
    refine (recount absent full).trans ?_
    refine .head (next_held (.crowded crowded)) ?_
    exact .head (next_held (.oldest c mem oldest)) (.single (next_held (.drop c.sender)))

end

/-- An insertion that nobody disturbs makes room and puts its step into the store. -/
theorem insert_alone (free : s.holder = none) (x : String) (step : Step κ) {room : Conversations κ}
    (h : s.store.Room s.now x room) : s.Reaches { s with store := room.put s.now x step } := by
  obtain ⟨now, store, waiting, holder⟩ := s
  obtain rfl : holder = none := free
  have called : Next ⟨now, store, waiting, none⟩ ⟨now, store, waiting ++ [(x, step)], none⟩ :=
    .call x step
  have locked : Next ⟨now, store, waiting ++ [(x, step)], none⟩
      (held now (waiting ++ []) x step store (some .looking)) :=
    .lock waiting [] x step rfl rfl
  rw [List.append_nil] at locked
  exact .head called (.head locked ((reaches_storing h).tail (next_held .store)))

/-- In particular it may do what `Conversations.insert` does. -/
theorem reaches_insert (free : s.holder = none) (x : String) (step : Step κ) :
    s.Reaches { s with store := s.store.insert s.now x step } :=
  insert_alone free x step (s.store.room_makeRoom s.now x)

/-! ## Disturbed insertions -/

/-- The store holds no more than its capacity, and what the holder of the lock relies on. -/
structure IsBounded (s : SharedStore κ) (limit : Nat) : Prop where
  limit : s.store.limit = limit
  size : s.store.size ≤ s.store.capacity
  relies : ∀ i ∈ s.holder, Relies s.store i.sender i.stage

/-- Losing entries does not disturb the holder of the lock. -/
theorem IsBounded.of_sublist (h : s.IsBounded limit) {store : Conversations κ}
    (part : store.entries.Sublist s.store.entries) (same : store.limit = s.store.limit) :
    IsBounded { s with store } limit where
  limit := same.trans h.limit
  size := by
    rw [capacity_congr same]
    exact part.length_le.trans h.size
  relies i hi := (h.relies i hi).of_sublist h.size part same

theorem IsBounded.next (h : s.IsBounded limit) (next : Next s t) : t.IsBounded limit := by
  cases next with
  | call x step => exact ⟨h.limit, h.size, h.relies⟩
  | lock front back x step free waits =>
    refine ⟨h.limit, h.size, ?_⟩
    rintro _ ⟨⟩
    trivial
  | proceed i holds store stage proceeds =>
    obtain ⟨size, relies⟩ := proceeds.bounded h.size (h.relies i holds)
    refine ⟨proceeds.limit.trans h.limit, ?_, fun j hj => ?_⟩
    · rw [capacity_congr proceeds.limit]
      exact size
    · obtain ⟨stage', mem, rfl⟩ := Option.map_eq_some_iff.mp hj
      exact relies stage' mem
  | take x => exact h.of_sublist (s.store.sublist_remove x) rfl
  | remove x => exact h.of_sublist (s.store.sublist_remove x) rfl
  | purge => exact h.of_sublist (s.store.sublist_purge s.now) rfl
  | clock time => exact ⟨h.limit, h.size, h.relies⟩

theorem isBounded_of_reaches (h : (ofSize lifetime limit : SharedStore κ).Reaches t) :
    t.IsBounded limit := by
  induction h with
  | refl => exact ⟨rfl, Nat.zero_le _, by simp [ofSize]⟩
  | tail _ next ih => exact ih.next next

/-- However insertions are interleaved with each other and with those who take, remove and sweep,
the store never holds more than fits. -/
theorem size_le_of_reaches (h : (ofSize lifetime limit : SharedStore κ).Reaches t) :
    t.store.size ≤ max limit 1 := by
  have bounded := isBounded_of_reaches h
  rw [← bounded.limit]
  exact bounded.size

/-! ## A step that is gone before it is dropped -/

namespace Disturbed

/-- A store of one step, which the insertion of the second sender chooses to drop. -/
def full : Conversations String := (⟨1000, 1, []⟩ : Conversations String).insert 0 "ann" ⟨none, "a"⟩

/-- The oldest step is taken after it was chosen, and time passes until it is dropped. -/
theorem taken_before_dropped :
    ∃ t : SharedStore String, (ofSize 1000 1).Reaches t ∧
      t.store.entries.map Conversation.sender = ["bob"] ∧ t.store.size ≤ 1 := by
  have stored : (ofSize 1000 1).Reaches ⟨0, full, [], none⟩ :=
    reaches_insert rfl "ann" ⟨none, "a"⟩
  have called : Next ⟨0, full, [], none⟩ ⟨0, full, [("bob", ⟨none, "b"⟩)], none⟩ := .call _ _
  have locked : Next ⟨0, full, [("bob", ⟨none, "b"⟩)], none⟩
      (held 0 [] "bob" ⟨none, "b"⟩ full (some .looking)) := .lock [] [] _ _ rfl rfl
  have chosen : Reaches (held 0 [] "bob" ⟨none, "b"⟩ full (some .looking))
      (held 0 [] "bob" ⟨none, "b"⟩ (full.purge 0) (some (.dropping "ann"))) := by
    refine .head (next_held (.absent rfl)) (.head (next_held (.full (by decide))) ?_)
    refine .head (next_held .purge) (.head (next_held (.crowded (by decide))) ?_)
    exact .single (next_held (.oldest ⟨"ann", ⟨none, "a"⟩, 0, 1000⟩ List.mem_cons_self (by decide)))
  have disturbed : Reaches (held 0 [] "bob" ⟨none, "b"⟩ (full.purge 0) (some (.dropping "ann")))
      (held 5 [] "bob" ⟨none, "b"⟩ ((full.purge 0).take 0 "ann").2 (some (.dropping "ann"))) :=
    .head (.take "ann") (.single (.clock 5))
  have run := (stored.tail called).tail locked |>.trans chosen |>.trans disturbed
    |>.tail (next_held (.drop "ann")) |>.tail (next_held .store)
  exact ⟨_, run, by decide +kernel, size_le_of_reaches run⟩

end Disturbed

end SharedStore

end Switchboard
