import Commissioning.Assoc
import Commissioning.Settings

/-!
# Stores of session entries

The wizard keeps a session as a few texts under keys. There are two stores for them: a
table of tables in memory (`Commissioning.MemoryStore`), and a flat table of rows
(`Commissioning.RowStore`), each under the identifier of the session and the key
together. `Commissioning.SessionStore` is either.

The view of a store is the table of entries of each session
(`Commissioning.SessionStore.entries`); a session exists while it has an entry. Both
stores act on the view in the same way: `Commissioning.SessionStore.entries_set`,
`Commissioning.SessionStore.entries_clear`.
-/

namespace Commissioning

/-- The entries of a session. -/
abbrev Entries := Assoc String String

/-! ### In memory -/

/-- Entries by session. -/
structure MemoryStore where
  /-- The table of entries of each session that has one. -/
  sessions : Assoc String Entries := []
deriving DecidableEq, Repr, Inhabited

namespace MemoryStore

/-- The entries of a session. -/
def entries (m : MemoryStore) (id : String) : Entries := (m.sessions.get? id).getD []

/-- The text under a key. -/
def get? (m : MemoryStore) (id key : String) : Option String := (m.entries id).get? key

/-- The store with a text under a key. -/
def set (m : MemoryStore) (id key text : String) : MemoryStore :=
  ⟨m.sessions.put id ((m.entries id).put key text)⟩

/-- The store without the entries of a session. -/
def clear (m : MemoryStore) (id : String) : MemoryStore := ⟨m.sessions.erase id⟩

theorem entries_set (m : MemoryStore) (id key text other : String) :
    (m.set id key text).entries other =
      if id = other then (m.entries id).put key text else m.entries other := by
  unfold set entries
  rw [Assoc.get?_put]
  split <;> rfl

theorem entries_clear (m : MemoryStore) (id other : String) :
    (m.clear id).entries other = if id = other then [] else m.entries other := by
  unfold clear entries
  rw [Assoc.get?_erase]
  split <;> rfl

end MemoryStore

/-! ### In rows -/

/-- Entries in rows. -/
structure RowStore where
  /-- The texts, each under the identifier of a session and a key. -/
  rows : Assoc (String × String) String := []
deriving DecidableEq, Repr, Inhabited

/-- The entries that rows hold of a session. -/
def entriesOfRows (id : String) : Assoc (String × String) String → Entries
  | [] => []
  | ((session, key), text) :: rows =>
    if session = id then (key, text) :: entriesOfRows id rows else entriesOfRows id rows

namespace RowStore

/-- The entries of a session. -/
def entries (t : RowStore) (id : String) : Entries := entriesOfRows id t.rows

/-- The text under a key. -/
def get? (t : RowStore) (id key : String) : Option String := t.rows.get? (id, key)

/-- The store with a text under a key: in the row of the key, or in a new one. -/
def set (t : RowStore) (id key text : String) : RowStore := ⟨t.rows.put (id, key) text⟩

/-- The store without the rows of a session. -/
def clear (t : RowStore) (id : String) : RowStore := ⟨t.rows.filter fun r => r.1.1 != id⟩

theorem get?_eq_get?_entries (t : RowStore) (id key : String) :
    t.get? id key = (t.entries id).get? key := by
  obtain ⟨rows⟩ := t
  unfold get? entries
  induction rows with
  | nil => rfl
  | cons r rest ih =>
    obtain ⟨⟨session, name⟩, text⟩ := r
    by_cases h : session = id
    · by_cases hk : name = key
      · simp [Assoc.get?, entriesOfRows, h, hk]
      · simpa [Assoc.get?, entriesOfRows, h, hk] using ih
    · simpa [Assoc.get?, entriesOfRows, h] using ih

theorem entries_set (t : RowStore) (id key text other : String) :
    (t.set id key text).entries other =
      if id = other then (t.entries id).put key text else t.entries other := by
  obtain ⟨rows⟩ := t
  unfold set entries
  induction rows with
  | nil => by_cases h : id = other <;> simp [Assoc.put, entriesOfRows, h]
  | cons r rest ih =>
    obtain ⟨⟨session, name⟩, old⟩ := r
    by_cases h : (session, name) = (id, key)
    · obtain ⟨rfl, rfl⟩ := Prod.mk.inj h
      by_cases ho : session = other <;> simp [Assoc.put, entriesOfRows, ho]
    · simp only [Assoc.put, if_neg h, entriesOfRows, ih]
      grind [Assoc.put]

theorem entries_clear (t : RowStore) (id other : String) :
    (t.clear id).entries other = if id = other then [] else t.entries other := by
  obtain ⟨rows⟩ := t
  unfold clear entries
  induction rows with
  | nil => simp [entriesOfRows]
  | cons r rest ih =>
    obtain ⟨⟨session, name⟩, text⟩ := r
    by_cases h : session = id <;> grind [entriesOfRows]

end RowStore

/-! ### Either -/

/-- A store of session entries. -/
inductive SessionStore where
  /-- In memory. -/
  | memory (m : MemoryStore)
  /-- In rows. -/
  | rows (t : RowStore)
deriving DecidableEq, Repr, Inhabited

namespace SessionStore

/-- An empty store of a kind. -/
def empty : StoreKind → SessionStore
  | .memory => .memory {}
  | .database => .rows {}

/-- The name of a store in reports. -/
def label : SessionStore → String
  | .memory _ => "InMemorySessionStore"
  | .rows _ => "DatabaseSessionStore"

/-- **The entries of a session.** -/
def entries : SessionStore → String → Entries
  | .memory m, id => m.entries id
  | .rows t, id => t.entries id

/-- The text under a key. -/
def get? : SessionStore → String → String → Option String
  | .memory m, id, key => m.get? id key
  | .rows t, id, key => t.get? id key

/-- The store with a text under a key. -/
def set : SessionStore → String → String → String → SessionStore
  | .memory m, id, key, text => .memory (m.set id key text)
  | .rows t, id, key, text => .rows (t.set id key text)

/-- The store without the entries of a session. -/
def clear : SessionStore → String → SessionStore
  | .memory m, id => .memory (m.clear id)
  | .rows t, id => .rows (t.clear id)

/-- Whether a session has an entry. -/
def has (store : SessionStore) (id : String) : Bool := !(store.entries id).isEmpty

theorem get?_eq_get?_entries (store : SessionStore) (id key : String) :
    store.get? id key = (store.entries id).get? key := by
  cases store with
  | memory m => rfl
  | rows t => exact t.get?_eq_get?_entries id key

/-- **Writing an entry** changes the entries of its session only. -/
theorem entries_set (store : SessionStore) (id key text other : String) :
    (store.set id key text).entries other =
      if id = other then (store.entries id).put key text else store.entries other := by
  cases store with
  | memory m => exact m.entries_set id key text other
  | rows t => exact t.entries_set id key text other

/-- **Clearing a session** leaves the entries of the others as they are. -/
theorem entries_clear (store : SessionStore) (id other : String) :
    (store.clear id).entries other = if id = other then [] else store.entries other := by
  cases store with
  | memory m => exact m.entries_clear id other
  | rows t => exact t.entries_clear id other

end SessionStore

/-- Why there is no store. -/
inductive StoreError where
  /-- A table of a database is wanted, but there is no database. -/
  | noDatabase
deriving DecidableEq, Repr

/-- The wording of an error. -/
def StoreError.message : StoreError → String
  | .noDatabase => "database session store requires a session factory"

/-- The store that settings ask for. -/
def Settings.openStore (s : Settings) (hasDatabase : Bool) : Except StoreError SessionStore :=
  match s.sessionStore with
  | .database => if hasDatabase then .ok (.empty .database) else .error .noDatabase
  | .memory => .ok (.empty .memory)

end Commissioning
