/-!
# Tables in order of insertion

A table is a list of keys with their values, in the order in which the keys were
first put. Putting a value under a key that is present replaces the value and leaves
the key where it stands; putting one under a new key adds it at the end. Members of
objects, stored entries, samples and counts of subscriptions are all kept this way.

The view of a table is `Commissioning.Assoc.get?`, and each operation is described by
what it does to the view: `Commissioning.Assoc.get?_put`,
`Commissioning.Assoc.get?_erase`.
-/

namespace Commissioning

/-- A table in order of insertion. -/
abbrev Assoc (α β : Type) := List (α × β)

namespace Assoc

variable {α β : Type} [DecidableEq α]

/-- The value under a key. -/
def get? : Assoc α β → α → Option β
  | [], _ => none
  | (k, v) :: rest, key => if k = key then some v else get? rest key

/-- The value under the last of several occurrences of a key. A table has each key once;
this is for lists of pairs that have not been made a table. -/
def last? (t : Assoc α β) (key : α) : Option β := Assoc.get? t.reverse key

/-- Whether a key is present. -/
def has (t : Assoc α β) (key : α) : Bool := (t.get? key).isSome

/-- The table with the value under the key. -/
def put : Assoc α β → α → β → Assoc α β
  | [], key, value => [(key, value)]
  | (k, v) :: rest, key, value =>
    if k = key then (k, value) :: rest else (k, v) :: put rest key value

/-- The table without the key. -/
def erase : Assoc α β → α → Assoc α β
  | [], _ => []
  | (k, v) :: rest, key => if k = key then erase rest key else (k, v) :: erase rest key

/-- The keys in order. -/
def keys (t : Assoc α β) : List α := t.map Prod.fst

/-- The table of a list of pairs: of several with one key the last counts, at the
place of the first. -/
def ofList (pairs : List (α × β)) : Assoc α β :=
  pairs.foldl (fun t p => t.put p.1 p.2) []

@[simp] theorem get?_nil (key : α) : get? ([] : Assoc α β) key = none := rfl

theorem get?_put (t : Assoc α β) (key : α) (value : β) (other : α) :
    (t.put key value).get? other = if key = other then some value else t.get? other := by
  induction t with
  | nil => rfl
  | cons p rest ih => grind [put, get?]

@[simp] theorem get?_put_self (t : Assoc α β) (key : α) (value : β) :
    (t.put key value).get? key = some value := by
  simp [get?_put]

theorem get?_erase (t : Assoc α β) (key other : α) :
    (t.erase key).get? other = if key = other then none else t.get? other := by
  induction t with
  | nil => simp [erase]
  | cons p rest ih => grind [erase, get?]

theorem mem_keys_iff {t : Assoc α β} {key : α} : key ∈ t.keys ↔ (t.get? key).isSome := by
  induction t with
  | nil => simp [keys]
  | cons p rest ih =>
    obtain ⟨k, v⟩ := p
    by_cases h : k = key
    · simp [keys, get?, h]
    · have h' : ¬key = k := fun e => h e.symm
      simpa [keys, get?, h, h'] using ih

end Assoc

end Commissioning
