import Commissioning.Proofs.Assoc
import Commissioning.Session.Store
import Mathlib.Data.List.Forall2

/-!
# Rows in place of a table of tables

A store is called to write an entry, to read one, to list the entries of a session, to remove them,
and to say whether there are any (`Commissioning.StoreCall`). Its callers know it by its answers
alone. Entries are listed as a table: each key once, and nobody asks in which order
(`Commissioning.Entries.Same`).

Rows have no order either. A database may list the rows of a table in one order today and in
another tomorrow, so that a call is served by the rows in any order
(`Commissioning.SessionStore.Served`).

Two stores are alike if they hold the same entries of each session
(`Commissioning.SessionStore.Alike`). Stores that are alike answer alike and are alike after every
call (`Commissioning.SessionStore.alike_answer`, `Commissioning.SessionStore.alike_after`), and so
does a store whose rows have been put in another order. Hence nobody can tell from the answers
whether the entries are in rows or in memory
(`Commissioning.SessionStore.database_answers_as_memory`).
-/

namespace Commissioning

/-! ### Calls of a store -/

/-- A call of a store. -/
inductive StoreCall where
  /-- To put a text under a key of a session. -/
  | set (id key text : String)
  /-- For the text under a key of a session. -/
  | get (id key : String)
  /-- For the entries of a session. -/
  | entries (id : String)
  /-- To remove the entries of a session. -/
  | clear (id : String)
  /-- Whether a session has an entry. -/
  | has (id : String)

/-- The answer to a call. -/
inductive StoreAnswer where
  /-- What was to be done is done. -/
  | done
  /-- The text, if there is one. -/
  | text (t : Option String)
  /-- The entries. -/
  | entries (es : Entries)
  /-- Yes or no. -/
  | verdict (b : Bool)

/-- **The same table:** each key is there once, and under each key is the same text. -/
structure Entries.Same (es es' : Entries) : Prop where
  nodup : (Assoc.keys es).Nodup
  nodup' : (Assoc.keys es').Nodup
  get? : ∀ key, Assoc.get? es key = Assoc.get? es' key

/-- Answers between which a caller cannot tell. -/
def StoreAnswer.Alike : StoreAnswer → StoreAnswer → Prop
  | .entries es, .entries es' => es.Same es'
  | a, b => a = b

namespace Entries

variable {es es' es'' : Entries}

theorem Same.trans (h : es.Same es') (h' : es'.Same es'') : es.Same es'' :=
  ⟨h.nodup, h'.nodup', fun key => (h.get? key).trans (h'.get? key)⟩

theorem same_nil : Entries.Same [] [] := ⟨List.nodup_nil, List.nodup_nil, fun _ => rfl⟩

theorem Same.put (h : es.Same es') (key text : String) :
    Entries.Same (Assoc.put es key text) (Assoc.put es' key text) where
  nodup := Assoc.nodup_keys_put h.nodup key text
  nodup' := Assoc.nodup_keys_put h.nodup' key text
  get? other := by rw [Assoc.get?_put, Assoc.get?_put, h.get?]

/-- A table is empty if nothing is read from it. -/
theorem isEmpty_iff : es.isEmpty = true ↔ ∀ key, Assoc.get? es key = none := by
  cases es with
  | nil => simp
  | cons p rest =>
    obtain ⟨k, v⟩ := p
    refine iff_of_false (by simp) fun h => ?_
    have := h k
    simp [Assoc.get?] at this

theorem Same.isEmpty (h : es.Same es') : es.isEmpty = es'.isEmpty := by
  rw [Bool.eq_iff_iff, isEmpty_iff, isEmpty_iff]
  exact forall_congr' fun key => by rw [h.get?]

end Entries

namespace SessionStore

/-- The answer of a store to a call. -/
def answer (store : SessionStore) : StoreCall → StoreAnswer
  | .set _ _ _ => .done
  | .get id key => .text (store.get? id key)
  | .entries id => .entries (store.entries id)
  | .clear _ => .done
  | .has id => .verdict (store.has id)

/-- The store after a call. -/
def after (store : SessionStore) : StoreCall → SessionStore
  | .set id key text => store.set id key text
  | .get _ _ => store
  | .entries _ => store
  | .clear id => store.clear id
  | .has _ => store

/-- **The answers of a store** to calls that follow one another. -/
def answers : SessionStore → List StoreCall → List StoreAnswer
  | _, [] => []
  | store, c :: calls => store.answer c :: (store.after c).answers calls

/-- A store, or one with the same rows in another order. -/
inductive Reorders : SessionStore → SessionStore → Prop
  /-- In memory, nothing moves by itself. -/
  | memory (m : MemoryStore) : Reorders (.memory m) (.memory m)
  /-- Rows come in any order. -/
  | rows {t u : RowStore} (perm : t.rows.Perm u.rows) : Reorders (.rows t) (.rows u)

/-- **Answers of a store whose rows come in any order**, and in another at every call. -/
inductive Served : SessionStore → List StoreCall → List StoreAnswer → Prop
  /-- Nothing is asked. -/
  | nil (store : SessionStore) : Served store [] []
  /-- A call is answered, and others follow. -/
  | cons {store store' : SessionStore} {c : StoreCall} {calls : List StoreCall}
      {answers : List StoreAnswer} (reorders : store.Reorders store')
      (rest : (store'.after c).Served calls answers) :
      Served store (c :: calls) (store'.answer c :: answers)

/-- **Stores that are alike:** they hold the same entries of each session. -/
def Alike (a b : SessionStore) : Prop := ∀ id, (a.entries id).Same (b.entries id)

variable {a b b' : SessionStore}

theorem alike_empty (kind kind' : StoreKind) : (empty kind).Alike (empty kind') := by
  intro id
  cases kind <;> cases kind' <;> exact Entries.same_nil

/-! ### One call -/

theorem Reorders.refl (store : SessionStore) : store.Reorders store := by
  cases store with
  | memory m => exact .memory m
  | rows t => exact .rows (.refl t.rows)

theorem entriesOfRows_perm {rows rows' : Assoc (String × String) String} (id : String)
    (h : rows.Perm rows') : (entriesOfRows id rows).Perm (entriesOfRows id rows') := by
  induction h with
  | nil => exact .refl _
  | cons r _ ih =>
    obtain ⟨⟨session, key⟩, text⟩ := r
    simp only [entriesOfRows]
    split
    · exact ih.cons _
    · exact ih
  | swap r r' rows =>
    obtain ⟨⟨session, key⟩, text⟩ := r
    obtain ⟨⟨session', key'⟩, text'⟩ := r'
    simp only [entriesOfRows]
    by_cases h : session = id <;> by_cases h' : session' = id
    · simpa [h, h'] using List.Perm.swap (key, text) (key', text') (entriesOfRows id rows)
    all_goals simp [h, h']
  | trans _ _ ih ih' => exact ih.trans ih'

theorem Reorders.entries_perm (h : b.Reorders b') (id : String) :
    (b.entries id).Perm (b'.entries id) := by
  cases h with
  | memory m => exact .refl _
  | rows perm => exact entriesOfRows_perm id perm

/-- The order of the rows does not matter. -/
theorem Alike.reorders (h : a.Alike b) (hb : b.Reorders b') : a.Alike b' := by
  intro id
  have hperm := hb.entries_perm id
  have hnodup := (h id).nodup'
  refine (h id).trans ⟨hnodup, ?_, Assoc.get?_of_perm hperm hnodup⟩
  exact (hperm.map Prod.fst).nodup_iff.mp hnodup

/-- **Stores that are alike answer alike.** -/
theorem alike_answer (h : a.Alike b) (c : StoreCall) : (a.answer c).Alike (b.answer c) := by
  cases c with
  | set id key text => rfl
  | get id key =>
    show StoreAnswer.text (a.get? id key) = .text (b.get? id key)
    rw [get?_eq_get?_entries, get?_eq_get?_entries, (h id).get?]
  | entries id => exact h id
  | clear id => rfl
  | has id =>
    show StoreAnswer.verdict (a.has id) = .verdict (b.has id)
    rw [has, has, (h id).isEmpty]

/-- **Stores that are alike are alike after every call.** -/
theorem alike_after (h : a.Alike b) (c : StoreCall) : (a.after c).Alike (b.after c) := by
  cases c with
  | set id key text =>
    intro other
    show Entries.Same ((a.set id key text).entries other) ((b.set id key text).entries other)
    rw [entries_set, entries_set]
    split
    · exact (h id).put key text
    · exact h other
  | get id key => exact h
  | entries id => exact h
  | clear id =>
    intro other
    show Entries.Same ((a.clear id).entries other) ((b.clear id).entries other)
    rw [entries_clear, entries_clear]
    split
    · exact Entries.same_nil
    · exact h other
  | has id => exact h

/-! ### Calls that follow one another -/

/-- The rows may stay in their order. -/
theorem served_answers (store : SessionStore) (calls : List StoreCall) :
    store.Served calls (store.answers calls) := by
  induction calls generalizing store with
  | nil => exact .nil store
  | cons c calls ih => exact .cons (.refl store) (ih (store.after c))

/-- A store that is alike another answers like it, in whatever order its rows come. -/
theorem Served.alike {calls : List StoreCall} {answers : List StoreAnswer}
    (hserved : b.Served calls answers) (h : a.Alike b) :
    List.Forall₂ StoreAnswer.Alike (a.answers calls) answers := by
  induction hserved generalizing a with
  | nil store => exact .nil
  | @cons store store' c calls answers reorders rest ih =>
    have h' : a.Alike store' := h.reorders reorders
    exact .cons (alike_answer h' c) (ih (alike_after h' c))

/-- **Rows serve as the memory does.** A store of rows that is empty at first gives to any calls the
answers of a store in memory, and this in whatever order its rows come at each call. -/
theorem database_answers_as_memory (calls : List StoreCall) :
    List.Forall₂ StoreAnswer.Alike ((empty .memory).answers calls)
      ((empty .database).answers calls) ∧
    ∀ answers, (empty .database).Served calls answers →
      List.Forall₂ StoreAnswer.Alike ((empty .memory).answers calls) answers := by
  have h : (empty .memory).Alike (empty .database) := alike_empty .memory .database
  exact ⟨(served_answers _ calls).alike h, fun _ hserved => hserved.alike h⟩

/-- Two entries of a session are listed with the second before the first. -/
theorem database_answers_as_memory_swapped :
    List.Forall₂ StoreAnswer.Alike
      ((empty .memory).answers [.set "a" "x" "1", .set "a" "y" "2", .entries "a"])
      [.done, .done, .entries [("y", "2"), ("x", "1")]] := by
  have hlist : (SessionStore.rows ⟨[(("a", "x"), "1"), (("a", "y"), "2")]⟩).Reorders
      (.rows ⟨[(("a", "y"), "2"), (("a", "x"), "1")]⟩) := .rows (.swap _ _ _)
  have hserved : (empty .database).Served [.set "a" "x" "1", .set "a" "y" "2", .entries "a"]
      [.done, .done, .entries [("y", "2"), ("x", "1")]] :=
    .cons (.refl _) (.cons (.refl _) (.cons hlist (.nil _)))
  exact (database_answers_as_memory _).2 _ hserved

end SessionStore

end Commissioning
