/-!
# Tables in the order of their keys

A table is a list of pairs of a text and a value. `Table.insert` keeps the keys in order and
replaces the value of a key that is there, so a table built from `[]` by insertions has no key
twice. `Table.find?` is the view: the lemmas say what each operation does to it.
-/

namespace Switchboard

/-- Pairs of a key and a value. -/
abbrev Table (α : Type) := List (String × α)

namespace Table

variable {α β : Type}

/-- The value of a key. -/
def find? (key : String) : Table α → Option α
  | [] => none
  | (k, v) :: rest => if key = k then some v else find? key rest

/-- Sets the value of a key. -/
def insert (key : String) (value : α) : Table α → Table α
  | [] => [(key, value)]
  | (k, v) :: rest =>
    if key = k then (key, value) :: rest
    else if key < k then (key, value) :: (k, v) :: rest
    else (k, v) :: insert key value rest

/-- Sets the value of a key to `f` of its old value, if it has one. -/
def update (key : String) (f : Option α → α) (t : Table α) : Table α :=
  insert key (f (find? key t)) t

/-- A table from pairs in any order; of pairs with one key the last wins. -/
def ofList (entries : List (String × α)) : Table α :=
  entries.foldl (fun t e => insert e.1 e.2 t) []

/-- The keys that occur in a list, in order, each once. -/
def keysOf (keys : List String) : List String :=
  (ofList (keys.map fun k => (k, ()))).map Prod.fst

@[simp] theorem find?_nil (key : String) : find? key ([] : Table α) = none := rfl

theorem find?_insert_self (key : String) (value : α) (t : Table α) :
    find? key (insert key value t) = some value := by
  induction t with
  | nil => simp [insert, find?]
  | cons e rest ih =>
    obtain ⟨k, v⟩ := e
    rw [insert]
    split
    · simp [find?]
    · split
      · simp [find?]
      · simp [find?, *]

theorem find?_insert_of_ne {key other : String} (h : other ≠ key) (value : α) (t : Table α) :
    find? other (insert key value t) = find? other t := by
  induction t with
  | nil => simp [insert, find?, h]
  | cons e rest ih =>
    obtain ⟨k, v⟩ := e
    rw [insert]
    split
    · next hk => subst hk; simp [find?, h]
    · split
      · simp [find?, h]
      · simp [find?, ih]

theorem find?_insert (key other : String) (value : α) (t : Table α) :
    find? other (insert key value t) = if other = key then some value else find? other t := by
  split
  · next h => subst h; exact find?_insert_self _ _ _
  · next h => exact find?_insert_of_ne h _ _

theorem find?_update (key other : String) (f : Option α → α) (t : Table α) :
    find? other (update key f t) =
      if other = key then some (f (find? key t)) else find? other t :=
  find?_insert key other _ t

end Table

end Switchboard
