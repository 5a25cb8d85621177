import Commissioning.Assoc
import Mathlib.Data.List.Induction
import Mathlib.Data.List.Nodup

/-!
# Laws of tables

What a table holds under a key is told by each operation (`Commissioning.Assoc.get?_append`,
`Commissioning.Assoc.get?_ofList`). Putting a value keeps each key once
(`Commissioning.Assoc.nodup_keys_put`), and of a table with each key once an entry is a key with its
value (`Commissioning.Assoc.mem_iff_get?`), so that the order of such a table does not matter to
what is read from it (`Commissioning.Assoc.get?_of_perm`).
-/

namespace Commissioning

namespace Assoc

variable {α β : Type} [DecidableEq α]

/-! ### Looking up -/

theorem get?_eq_none {t : Assoc α β} {key : α} (h : key ∉ t.keys) : t.get? key = none := by
  rw [← Option.not_isSome_iff_eq_none, ← mem_keys_iff]
  exact h

theorem mem_of_get? {t : Assoc α β} {key : α} {value : β} (h : t.get? key = some value) :
    (key, value) ∈ t := by
  induction t with
  | nil => cases h
  | cons p t ih =>
    obtain ⟨k, v⟩ := p
    rw [Assoc.get?] at h
    split at h
    · next hk =>
      obtain rfl := Option.some.inj h
      rw [hk]
      exact List.mem_cons_self ..
    · exact List.mem_cons_of_mem _ (ih h)

/-- Putting what is there already changes nothing. -/
theorem put_of_get? {t : Assoc α β} {key : α} {value : β} (h : t.get? key = some value) :
    t.put key value = t := by
  induction t with
  | nil => cases h
  | cons p t ih =>
    obtain ⟨k, v⟩ := p
    rw [Assoc.get?] at h
    rw [Assoc.put]
    split at h
    · next hk => rw [if_pos hk, Option.some.inj h]
    · next hk => rw [if_neg hk, ih h]

theorem get?_append (t u : Assoc α β) (key : α) :
    get? (t ++ u) key = (get? t key).or (get? u key) := by
  induction t with
  | nil => rfl
  | cons p t ih =>
    obtain ⟨k, v⟩ := p
    by_cases h : k = key
    · simp [get?, h]
    · simp [get?, h, ih]

omit [DecidableEq α] in
theorem keys_append (t u : Assoc α β) : keys (t ++ u) = keys t ++ keys u := List.map_append

/-- A key that only one of several pieces has is looked up in that piece. -/
theorem get?_flatMap {γ : Type} [DecidableEq γ] {write : γ → Assoc α β} {key : α} {cs : List γ}
    (c : γ) (h : ∀ d ∈ cs, d ≠ c → (write d).get? key = none) :
    get? (cs.flatMap write) key = if c ∈ cs then (write c).get? key else none := by
  induction cs with
  | nil => rfl
  | cons d cs ih =>
    obtain ⟨hd, hcs⟩ := List.forall_mem_cons.mp h
    rw [List.flatMap_cons, get?_append, ih hcs]
    by_cases heq : d = c
    · subst heq
      by_cases hmem : d ∈ cs <;> simp [hmem]
    · have heq' : ¬c = d := fun e => heq e.symm
      simp [hd heq, heq']

@[simp] theorem last?_nil (key : α) : last? ([] : Assoc α β) key = none := rfl

/-- The last value under a key is the one behind the front, if there is one there. -/
theorem last?_cons (k : α) (v : β) (t : Assoc α β) (key : α) :
    last? ((k, v) :: t) key = (last? t key).or (if k = key then some v else none) := by
  rw [last?, List.reverse_cons, get?_append]
  rfl

theorem mem_of_last? {t : Assoc α β} {key : α} {value : β} (h : t.last? key = some value) :
    (key, value) ∈ t :=
  List.mem_reverse.mp (mem_of_get? h)

theorem last?_append (t u : Assoc α β) (key : α) :
    last? (t ++ u) key = (last? u key).or (last? t key) := by
  rw [last?, List.reverse_append, get?_append]
  rfl

/-- What stands under a key in one way only is the last value there. -/
theorem last?_eq {t : Assoc α β} {key : α} {value : Option β}
    (h : ∀ v, (key, v) ∈ t ↔ value = some v) : t.last? key = value := by
  cases hlast : t.last? key with
  | some v => exact ((h v).mp (mem_of_last? hlast)).symm
  | none =>
    rcases value with _ | v
    · rfl
    · have hkey : key ∈ keys t.reverse :=
        List.mem_map.mpr ⟨(key, v), List.mem_reverse.mpr ((h v).mpr rfl), rfl⟩
      rw [mem_keys_iff, ← last?, hlast] at hkey
      cases hkey

/-! ### Each key once -/

theorem put_of_not_mem {t : Assoc α β} {key : α} (h : key ∉ t.map Prod.fst) (value : β) :
    t.put key value = t ++ [(key, value)] := by
  induction t with
  | nil => rfl
  | cons p t ih =>
    obtain ⟨k, v⟩ := p
    have hk : k ≠ key := by
      rintro rfl
      exact h (by simp)
    have ht : key ∉ t.map Prod.fst := fun hm => h (by simp [hm])
    rw [put, if_neg hk, ih ht, List.cons_append]

theorem keys_put (t : Assoc α β) (key : α) (value : β) :
    (t.put key value).keys = if key ∈ t.keys then t.keys else t.keys ++ [key] := by
  induction t with
  | nil => rfl
  | cons p rest ih =>
    obtain ⟨k, v⟩ := p
    by_cases h : k = key
    · simp [put, keys, h]
    · have h' : ¬key = k := fun e => h e.symm
      simp only [keys] at ih
      simp only [put, if_neg h, keys, List.map_cons, ih, List.mem_cons, h', false_or]
      exact apply_ite (k :: ·) _ _ _

/-- Putting a value under a key keeps each key once. -/
theorem nodup_keys_put {t : Assoc α β} (h : t.keys.Nodup) (key : α) (value : β) :
    (t.put key value).keys.Nodup := by
  rw [keys_put]
  split
  · exact h
  · next hkey => exact (List.nodup_append_comm).mp (List.nodup_cons.mpr ⟨hkey, h⟩)

/-- In a table with each key once, an entry is a key with its value. -/
theorem mem_iff_get? {t : Assoc α β} (h : t.keys.Nodup) {key : α} {value : β} :
    (key, value) ∈ t ↔ t.get? key = some value := by
  induction t with
  | nil => simp
  | cons p rest ih =>
    obtain ⟨k, v⟩ := p
    obtain ⟨hk, hrest⟩ := List.nodup_cons.mp h
    by_cases heq : k = key
    · subst heq
      have hnot : (k, value) ∉ rest := fun hmem => hk (List.mem_map.mpr ⟨_, hmem, rfl⟩)
      simp [get?, hnot, eq_comm]
    · have heq' : ¬key = k := fun e => heq e.symm
      simp [get?, heq, heq', ih hrest]

/-- The order of a table with each key once does not matter to what is read from it. -/
theorem get?_of_perm {t u : Assoc α β} (h : t.Perm u) (ht : t.keys.Nodup) (key : α) :
    t.get? key = u.get? key := by
  have hu : u.keys.Nodup := (h.map Prod.fst).nodup_iff.mp ht
  ext value
  rw [← mem_iff_get? ht, ← mem_iff_get? hu]
  exact h.mem_iff

/-- In a table with each key once, the last value under a key is the only one. -/
theorem last?_eq_get? {t : Assoc α β} (h : t.keys.Nodup) (key : α) : t.last? key = t.get? key :=
  (get?_of_perm (List.reverse_perm t).symm h key).symm

/-! ### The table of a list -/

theorem ofList_concat (pairs : List (α × β)) (p : α × β) :
    ofList (pairs ++ [p]) = (ofList pairs).put p.1 p.2 := by
  rw [ofList, List.foldl_append, List.foldl_cons, List.foldl_nil, ofList]

theorem nodup_keys_ofList (pairs : List (α × β)) : (ofList pairs).keys.Nodup := by
  induction pairs using List.reverseRecOn with
  | nil => exact List.nodup_nil
  | append_singleton pairs p ih =>
    rw [ofList_concat]
    exact nodup_keys_put ih p.1 p.2

/-- A list with each key once is a table already. -/
theorem ofList_of_nodup {pairs : List (α × β)} (h : (keys pairs).Nodup) : ofList pairs = pairs := by
  induction pairs using List.reverseRecOn with
  | nil => rfl
  | append_singleton pairs p ih =>
    rw [keys_append] at h
    obtain ⟨hkey, hpairs⟩ := List.nodup_cons.mp (List.nodup_append_comm.mp h)
    rw [ofList_concat, ih hpairs, put_of_not_mem hkey]

/-- **Of several values under one key the last counts.** -/
theorem get?_ofList (pairs : List (α × β)) (key : α) :
    (ofList pairs).get? key = last? pairs key := by
  induction pairs using List.reverseRecOn with
  | nil => rfl
  | append_singleton pairs p ih =>
    rw [ofList_concat, get?_put, ih, last?, last?, List.reverse_append]
    rfl

/-- What stands in the table of a list stands in the list. -/
theorem mem_of_mem_ofList {pairs : List (α × β)} {p : α × β} (h : p ∈ ofList pairs) :
    p ∈ pairs := by
  have hvalue := (mem_iff_get? (nodup_keys_ofList pairs)).mp h
  rw [get?_ofList] at hvalue
  exact mem_of_last? hvalue

end Assoc

end Commissioning
