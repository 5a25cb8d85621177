import Commissioning.Field.Step
import Commissioning.Proofs.Installation.RoundTrip
import Commissioning.Proofs.Json.Merge
import Mathlib.Tactic.MkIffOfInductiveProp

/-!
# Patches, leaf by leaf

A record is read from a document member by member, and some of its members are records themselves.
A **leaf** (`Commissioning.Leaf`) is a value that is read as a whole: it stands at a path of names,
has a reader and a writer, and is a field of the record, or of a record inside of it.

When a patch is laid over the document of a record and the result is read again, what comes of it
can be told **leaf by leaf** (`Commissioning.Leafwise`). The patch is accepted exactly if it has
objects, or nothing, where the records inside stand, and values that can be read, or nothing, where
the leaves stand; and each leaf then has the value that the patch gives it, or else the one it had
(`Commissioning.Leaf.Follows`). What else the patch has does not matter.

Readers of members are leafwise (`Commissioning.Leafwise.leaf`), and records are put together from
them as their readers are: one after the other (`Commissioning.Leafwise.pair`), as a member
(`Commissioning.Leafwise.inside`), or with the members among others
(`Commissioning.Leafwise.among`).
-/

namespace Commissioning

/-- A value of a record that is read and written as a whole. -/
structure Leaf (R : Type) where
  /-- The type of the value. -/
  {Value : Type}
  /-- The names of the members that lead to it. -/
  path : List String
  /-- How it is read. -/
  read : Intake Value
  /-- How it is written. -/
  write : Value → Json
  /-- The value in a record. -/
  get : R → Value

/-- What stands at a path of names. -/
def valueAt? (ms : Members) (path : List String) : Option Json :=
  (Json.obj ms).at? (path.map Step.field)

/-- Only an object may stand at a path of names. -/
def ObjectAt (ms : Members) (path : List String) : Prop :=
  ∀ j, valueAt? ms path = some j → ∃ members, j = .obj members

namespace Leaf

variable {R S : Type}

/-- A document has the value of a leaf where it belongs, and it is read back from there. -/
@[mk_iff]
structure Stands (leaf : Leaf R) (ms : Members) (r : R) : Prop where
  written : valueAt? ms leaf.path = some (leaf.write (leaf.get r))
  not_obj : ∀ members, leaf.write (leaf.get r) ≠ .obj members
  read_write : leaf.read (leaf.write (leaf.get r)) = .valid (leaf.get r)

/-- **The value of a leaf follows a patch**: it is the one that the patch gives it, or else the one
that it had. -/
def Follows (leaf : Leaf R) (patch : Members) (r r' : R) : Prop :=
  match valueAt? patch leaf.path with
  | some j => leaf.read j = .valid (leaf.get r')
  | none => leaf.get r' = leaf.get r

/-- What a patch gives a leaf can be read. -/
def Readable (leaf : Leaf R) (patch : Members) : Prop :=
  ∀ j, valueAt? patch leaf.path = some j → ∃ a, leaf.read j = .valid a

/-- The leaf of a part whose members stand among those of the whole. -/
def among (leaf : Leaf S) (part : R → S) : Leaf R :=
  ⟨leaf.path, leaf.read, leaf.write, fun r => leaf.get (part r)⟩

/-- The leaf of a part that is a member of the whole. -/
def inside (leaf : Leaf S) (name : String) (part : R → S) : Leaf R :=
  ⟨name :: leaf.path, leaf.read, leaf.write, fun r => leaf.get (part r)⟩

end Leaf

/-! ### Patches, for one leaf -/

namespace Leaf

variable {R : Type} {leaf : Leaf R} {patch patch' : Members} {r r' s s' t : R}

theorem follows_of_none (h : valueAt? patch leaf.path = none) :
    leaf.Follows patch r r' ↔ leaf.get r' = leaf.get r := by
  rw [Follows, h]

theorem follows_of_some {j : Json} (h : valueAt? patch leaf.path = some j) :
    leaf.Follows patch r r' ↔ leaf.read j = .valid (leaf.get r') := by
  rw [Follows, h]

theorem Follows.readable (h : leaf.Follows patch r r') : leaf.Readable patch := by
  intro j hj
  exact ⟨leaf.get r', (follows_of_some hj).mp h⟩

/-- A leaf that has followed a patch follows it again by staying as it is. -/
theorem Follows.again (h : leaf.Follows patch r r') : leaf.Follows patch r' r' := by
  cases hvalue : valueAt? patch leaf.path with
  | none => exact (follows_of_none hvalue).mpr rfl
  | some j =>
    rw [follows_of_some hvalue] at h ⊢
    exact h

/-- A leaf that two patches do not both address follows them in either order to the same value,
which is the one that it has after one of them alone. -/
theorem Follows.swap (h : leaf.Follows patch r s) (h' : leaf.Follows patch' r s')
    (ht : leaf.Follows patch' s t) (ht' : leaf.Follows patch s' r')
    (hapart : valueAt? patch leaf.path = none ∨ valueAt? patch' leaf.path = none) :
    leaf.get t = leaf.get r' ∧ (leaf.get t = leaf.get s ∨ leaf.get t = leaf.get s') := by
  rcases hapart with hnone | hnone
  · rw [follows_of_none hnone] at h ht'
    cases hvalue : valueAt? patch' leaf.path with
    | none =>
      rw [follows_of_none hvalue] at h' ht
      exact ⟨by rw [ht, ht', h, h'], Or.inl ht⟩
    | some j =>
      rw [follows_of_some hvalue] at h' ht
      have hsame := Checked.valid.inj (ht.symm.trans h')
      exact ⟨hsame.trans ht'.symm, Or.inr hsame⟩
  · rw [follows_of_none hnone] at h' ht
    cases hvalue : valueAt? patch leaf.path with
    | none =>
      rw [follows_of_none hvalue] at h ht'
      exact ⟨by rw [ht, ht', h, h'], Or.inl ht⟩
    | some j =>
      rw [follows_of_some hvalue] at h ht'
      have hsame := Checked.valid.inj (h.symm.trans ht')
      exact ⟨ht.trans hsame, Or.inl ht⟩

end Leaf

/-! ### Readers that are told by their leaves -/

/-- A patch is laid over a document that has the leaves of a record. -/
structure Laid {R : Type} (leaves : List (Leaf R)) (target : Members) (r : R) (patch : Members) :
    Prop where
  target_tidy : Json.IsTidy (.obj target)
  patch_tidy : Json.IsTidy (.obj patch)
  stands : ∀ leaf ∈ leaves, leaf.Stands target r

/-- **A reader of members is leafwise**: what it makes of a document with a patch laid over it can
be told by the leaves and by the places of the records inside. -/
structure Leafwise {R α : Type} (leaves : List (Leaf R)) (places : List (List String))
    (get : R → α) (read : Members → Checked α) : Prop where
  ne_nil : leaves ≠ []
  path_ne_nil : ∀ leaf ∈ leaves, leaf.path ≠ []
  valid_iff : ∀ {target patch : Members} {r : R}, Laid leaves target r patch → ∀ r',
    (read (Json.merge target patch) = .valid (get r') ↔
      (∀ path ∈ places, ObjectAt patch path) ∧ ∀ leaf ∈ leaves, leaf.Follows patch r r')
  accepts_iff : ∀ {target patch : Members} {r : R}, Laid leaves target r patch →
    ((∃ a, read (Json.merge target patch) = .valid a) ↔
      (∀ path ∈ places, ObjectAt patch path) ∧ ∀ leaf ∈ leaves, leaf.Readable patch)

/-! ### Paths -/

@[simp] theorem valueAt?_nil (ms : Members) : valueAt? ms [] = some (.obj ms) := Json.at?_nil _

theorem valueAt?_cons_of_none {ms : Members} {name : String} (h : Assoc.get? ms name = none)
    (path : List String) : valueAt? ms (name :: path) = none := by
  rw [valueAt?, List.map_cons, Json.at?, h]

theorem valueAt?_cons_of_some {ms : Members} {name : String} {j : Json}
    (h : Assoc.get? ms name = some j) (path : List String) :
    valueAt? ms (name :: path) = j.at? (path.map Step.field) := by
  rw [valueAt?, List.map_cons, Json.at?, h]

theorem valueAt?_single (ms : Members) (name : String) :
    valueAt? ms [name] = Assoc.get? ms name := by
  cases h : Assoc.get? ms name with
  | none => exact valueAt?_cons_of_none h []
  | some j => exact (valueAt?_cons_of_some h []).trans (Json.at?_nil j)

/-- A path that leads anywhere leads through objects. -/
theorem exists_obj_of_valueAt? {ms : Members} {name : String} {path : List String} {j : Json}
    (h : valueAt? ms (name :: path) = some j) (hpath : path ≠ []) :
    ∃ members, Assoc.get? ms name = some (.obj members) ∧ valueAt? members path = some j := by
  cases hname : Assoc.get? ms name with
  | none =>
    rw [valueAt?_cons_of_none hname] at h
    cases h
  | some k =>
    rw [valueAt?_cons_of_some hname] at h
    obtain ⟨next, rest, rfl⟩ := List.exists_cons_of_ne_nil hpath
    cases k with
    | obj members => exact ⟨members, rfl, h⟩
    | _ => simp only [List.map_cons, Json.at?, reduceCtorEq] at h

/-- What a patch has under a name is a patch itself: the members of an object, or none. -/
structure Within (patch : Members) (name : String) (inner : Members) : Prop where
  valueAt?_cons : ∀ path, path ≠ [] → valueAt? patch (name :: path) = valueAt? inner path
  objectAt : ObjectAt patch [name]
  tidy : Json.IsTidy (.obj inner)
  merged : ∀ {target members : Members}, Assoc.get? target name = some (.obj members) →
    Assoc.get? (Json.merge target patch) name = some (.obj (Json.merge members inner))

/-- Otherwise it is something else than an object. -/
theorem exists_within {patch : Members} (hpatch : Json.IsTidy (.obj patch)) (name : String) :
    (∃ inner, Within patch name inner) ∨
      ∃ j, Assoc.get? patch name = some j ∧ ∀ members, j ≠ .obj members := by
  have hmerge : ∀ target, Assoc.get? (Json.merge target patch) name = _ :=
    fun target => Json.get?_merge hpatch.nodup_keys target name
  cases hname : Assoc.get? patch name with
  | none =>
    -- To have nothing under the name is to have no members there.
    refine Or.inl ⟨[], ?_, ?_, ?_, ?_⟩
    · intro path hpath
      obtain ⟨next, rest, rfl⟩ := List.exists_cons_of_ne_nil hpath
      rw [valueAt?_cons_of_none hname, valueAt?_cons_of_none rfl]
    · intro j hj
      rw [valueAt?_single, hname] at hj
      cases hj
    · simp [Json.IsTidy, Json.HaveTidy]
    · intro target members htarget
      rw [hmerge, hname]
      exact htarget
  | some j =>
    cases j with
    | obj inner =>
      refine Or.inl ⟨inner, ?_, ?_, hpatch.of_get? hname, ?_⟩
      · intro path _
        exact valueAt?_cons_of_some hname path
      · intro j hj
        rw [valueAt?_single, hname] at hj
        exact ⟨inner, (Option.some.inj hj).symm⟩
      · intro target members htarget
        rw [hmerge, hname, htarget]
        exact congrArg some (Json.patched_obj_obj members inner)
    | _ => exact Or.inr ⟨_, rfl, by rintro members ⟨⟩⟩

theorem Within.objectAt_cons {patch inner : Members} {name : String} (h : Within patch name inner)
    (path : List String) : ObjectAt patch (name :: path) ↔ ObjectAt inner path := by
  cases path with
  | nil =>
    refine iff_of_true h.objectAt fun j hj => ?_
    rw [valueAt?_nil] at hj
    exact ⟨inner, (Option.some.inj hj).symm⟩
  | cons next rest => rw [ObjectAt, ObjectAt, h.valueAt?_cons _ (List.cons_ne_nil _ _)]

theorem Leaf.Stands.among {R S : Type} {leaf : Leaf S} {part : R → S} {target : Members} {r : R}
    (h : leaf.Stands target (part r)) : (leaf.among part).Stands target r :=
  ⟨h.written, h.not_obj, h.read_write⟩

theorem Leaf.Stands.inside {R S : Type} {leaf : Leaf S} {part : R → S} {name : String}
    {target members : Members} {r : R} (h : leaf.Stands members (part r))
    (hname : Assoc.get? target name = some (.obj members)) :
    (leaf.inside name part).Stands target r :=
  ⟨(valueAt?_cons_of_some hname leaf.path).trans h.written, h.not_obj, h.read_write⟩

theorem Within.follows {R S : Type} {patch inner : Members} {name : String}
    (h : Within patch name inner) {leaf : Leaf S} (hpath : leaf.path ≠ []) {part : R → S}
    {r r' : R} : (leaf.inside name part).Follows patch r r' ↔
      leaf.Follows inner (part r) (part r') := by
  have hvalue : valueAt? patch (leaf.inside name part).path = valueAt? inner leaf.path :=
    h.valueAt?_cons leaf.path hpath
  rw [Leaf.Follows, Leaf.Follows, hvalue]
  exact Iff.rfl

theorem Within.readable {R S : Type} {patch inner : Members} {name : String}
    (h : Within patch name inner) {leaf : Leaf S} (hpath : leaf.path ≠ []) {part : R → S} :
    (leaf.inside name part).Readable patch ↔ leaf.Readable inner := by
  have hvalue : valueAt? patch (leaf.inside name part).path = valueAt? inner leaf.path :=
    h.valueAt?_cons leaf.path hpath
  rw [Leaf.Readable, Leaf.Readable, hvalue]
  exact Iff.rfl

/-! ### Readers -/

namespace Checked

variable {α β γ : Type}

theorem under_eq_valid_iff {step : Step} {c : Checked α} {a : α} :
    c.under step = .valid a ↔ c = .valid a := by
  cases c <;> simp [under]

/-- Both values, if both sides are valid. -/
def pair (c : Checked α) (d : Checked β) : Checked (α × β) := Prod.mk <$> c <*> d

theorem pair_eq_valid_iff {c : Checked α} {d : Checked β} {a : α} {b : β} :
    c.pair d = .valid (a, b) ↔ c = .valid a ∧ d = .valid b := by
  constructor
  · intro h
    obtain ⟨_, _, hmap, hd, heq⟩ := seq_eq_valid h
    obtain ⟨_, hc, rfl⟩ := map_eq_valid hmap
    cases heq
    exact ⟨hc, hd⟩
  · rintro ⟨rfl, rfl⟩
    rfl

/-- A function of two values is one of the pair of them. -/
theorem map_seq (f : α → β → γ) (c : Checked α) (d : Checked β) :
    f <$> c <*> d = (fun x => f x.1 x.2) <$> c.pair d := by
  cases c <;> cases d <;> rfl

end Checked

namespace Leafwise

variable {R S α β σ : Type}

/-- What a reader of a member finds in a merged document. -/
theorem member_merge {target patch : Members} {name : String} {j : Json} {read : Intake α}
    {default : α} (htarget : Json.IsTidy (.obj target))
    (hj : Assoc.get? (Json.merge target patch) name = some j) :
    Intake.member name read default (Json.merge target patch) = (read j).under (.field name) := by
  have hnodup := Json.nodup_keys_merge htarget.nodup_keys patch
  rw [Intake.member, Assoc.last?_eq_get? hnodup, hj]

/-- **A member that is read as a whole** is a leaf. -/
theorem leaf (name : String) (read : Intake α) (write : α → Json) (get : R → α) (default : α) :
    Leafwise [⟨[name], read, write, get⟩] [] get (Intake.member name read default) := by
  have hmember : ∀ {target patch : Members} {r : R},
      Laid [⟨[name], read, write, get⟩] target r patch →
      Intake.member name read default (Json.merge target patch) =
        (Assoc.get? patch name).elim (.valid (get r)) fun j => (read j).under (.field name) := by
    intro target patch r h
    have hstands := h.stands _ (List.mem_singleton_self _)
    have hwritten : valueAt? target [name] = some (write (get r)) := hstands.written
    have hread : read (write (get r)) = .valid (get r) := hstands.read_write
    have hlookup := Json.get?_merge h.patch_tidy.nodup_keys target name
    rw [← valueAt?_single target name, hwritten] at hlookup
    cases hname : Assoc.get? patch name with
    | none =>
      rw [hname] at hlookup
      rw [member_merge h.target_tidy hlookup, hread]
      rfl
    | some j =>
      -- The document has no object here that the patch could be merged with, so it is replaced.
      rw [hname] at hlookup
      rw [member_merge h.target_tidy hlookup, Json.patched_over_not_obj hstands.not_obj]
      rfl
  refine ⟨List.cons_ne_nil _ _, by simp, ?_, ?_⟩
  · intro target patch r h r'
    simp only [hmember h, List.not_mem_nil, false_imp_iff, implies_true, true_and,
      List.forall_mem_singleton, Leaf.Follows, valueAt?_single]
    cases Assoc.get? patch name with
    | none => simp [eq_comm]
    | some j => exact Checked.under_eq_valid_iff
  · intro target patch r h
    simp only [hmember h, List.not_mem_nil, false_imp_iff, implies_true, true_and,
      List.forall_mem_singleton, Leaf.Readable, valueAt?_single]
    cases Assoc.get? patch name with
    | none => simp
    | some j => simp [Checked.under_eq_valid_iff]

/-- **One after the other.** -/
theorem pair {leaves leaves' : List (Leaf R)} {places places' : List (List String)} {get : R → α}
    {get' : R → β} {c : Members → Checked α} {d : Members → Checked β}
    (hc : Leafwise leaves places get c) (hd : Leafwise leaves' places' get' d) :
    Leafwise (leaves ++ leaves') (places ++ places') (fun r => (get r, get' r))
      (fun ms => (c ms).pair (d ms)) := by
  have hfront : ∀ {target patch : Members} {r : R}, Laid (leaves ++ leaves') target r patch →
      Laid leaves target r patch :=
    fun h => { h with stands := (List.forall_mem_append.mp h.stands).1 }
  have hback : ∀ {target patch : Members} {r : R}, Laid (leaves ++ leaves') target r patch →
      Laid leaves' target r patch :=
    fun h => { h with stands := (List.forall_mem_append.mp h.stands).2 }
  refine ⟨by simp [hc.ne_nil], ?_, ?_, ?_⟩
  · exact List.forall_mem_append.mpr ⟨hc.path_ne_nil, hd.path_ne_nil⟩
  · intro target patch r h r'
    rw [Checked.pair_eq_valid_iff, hc.valid_iff (hfront h), hd.valid_iff (hback h),
      List.forall_mem_append, List.forall_mem_append, and_and_and_comm]
  · intro target patch r h
    rw [Prod.exists]
    simp only [Checked.pair_eq_valid_iff, exists_and_left, exists_and_right]
    rw [hc.accepts_iff (hfront h), hd.accepts_iff (hback h), List.forall_mem_append,
      List.forall_mem_append, and_and_and_comm]

/-- **A record** is what it is put together from. -/
theorem record {leaves : List (Leaf R)} {places : List (List String)} {view : R → σ}
    {build : σ → R} {c : Members → Checked σ} {read : Members → Checked R}
    (h : Leafwise leaves places view c) (hread : ∀ ms, read ms = build <$> c ms)
    (hbuild : ∀ r, build (view r) = r) (hview : ∀ x, view (build x) = x) :
    Leafwise leaves places id read := by
  refine ⟨h.ne_nil, h.path_ne_nil, ?_, ?_⟩
  · intro target patch r hlaid r'
    rw [← h.valid_iff hlaid r', hread]
    constructor
    · intro hvalid
      obtain ⟨x, hx, rfl⟩ := Checked.map_eq_valid hvalid
      exact hx.trans (congrArg Checked.valid (hview x).symm)
    · intro hvalid
      rw [hvalid]
      exact congrArg Checked.valid (hbuild r')
  · intro target patch r hlaid
    rw [← h.accepts_iff hlaid, hread]
    constructor
    · rintro ⟨_, hvalid⟩
      obtain ⟨x, hx, -⟩ := Checked.map_eq_valid hvalid
      exact ⟨x, hx⟩
    · rintro ⟨x, hx⟩
      rw [hx]
      exact ⟨build x, rfl⟩

/-- **A record with its members among those of another.** -/
theorem among {leaves : List (Leaf S)} {places : List (List String)} {read : Members → Checked S}
    (h : Leafwise leaves places id read) (part : R → S) :
    Leafwise (leaves.map (·.among part)) places part read := by
  have hlaid : ∀ {target patch : Members} {r : R},
      Laid (leaves.map (·.among part)) target r patch → Laid leaves target (part r) patch := by
    intro target patch r hlaid
    refine ⟨hlaid.target_tidy, hlaid.patch_tidy, fun leaf hleaf => ?_⟩
    obtain ⟨hwritten, hobj, hread⟩ := hlaid.stands _ (List.mem_map_of_mem hleaf)
    exact ⟨hwritten, hobj, hread⟩
  refine ⟨by simpa using h.ne_nil, List.forall_mem_map.mpr h.path_ne_nil, ?_, ?_⟩
  · intro target patch r hr r'
    rw [List.forall_mem_map]
    exact h.valid_iff (hlaid hr) (part r')
  · intro target patch r hr
    rw [List.forall_mem_map]
    exact h.accepts_iff (hlaid hr)

/-- A patch over a document is one over the members of a record inside, whatever it has there. -/
theorem laid_of_inside {leaves : List (Leaf S)} {places : List (List String)}
    {read : Members → Checked S} (h : Leafwise leaves places id read) {name : String} {part : R → S}
    {target patch : Members} {r : R}
    (hlaid : Laid (leaves.map (·.inside name part)) target r patch) :
    ∃ members, Assoc.get? target name = some (.obj members) ∧
      ∀ inner, Json.IsTidy (.obj inner) → Laid leaves members (part r) inner := by
  obtain ⟨first, hfirst⟩ := List.exists_mem_of_ne_nil leaves h.ne_nil
  obtain ⟨members, hmembers, -⟩ := exists_obj_of_valueAt?
    (hlaid.stands _ (List.mem_map_of_mem hfirst)).written (h.path_ne_nil first hfirst)
  refine ⟨members, hmembers, fun inner hinner => ?_⟩
  refine ⟨hlaid.target_tidy.of_get? hmembers, hinner, fun leaf hleaf => ?_⟩
  obtain ⟨hwritten, hobj, hread⟩ := hlaid.stands _ (List.mem_map_of_mem hleaf)
  exact ⟨(valueAt?_cons_of_some hmembers leaf.path).symm.trans hwritten, hobj, hread⟩

/-- A patch that has something else than an object in the place of a record is refused. -/
theorem refused_of_not_obj {target patch : Members} {name label : String} {j : Json}
    {read : Members → Checked S} {default : S} (htarget : Json.IsTidy (.obj target))
    (hpatch : Json.IsTidy (.obj patch)) (hj : Assoc.get? patch name = some j)
    (hobj : ∀ members, j ≠ .obj members) :
    ¬ObjectAt patch [name] ∧ ∀ s,
      Intake.member name (Intake.record label read) default (Json.merge target patch) ≠
        .valid s := by
  constructor
  · intro hplace
    rw [ObjectAt, valueAt?_single, hj] at hplace
    obtain ⟨members, rfl⟩ := hplace j rfl
    exact hobj members rfl
  · intro s hs
    have hlookup := Json.get?_merge hpatch.nodup_keys target name
    rw [hj] at hlookup
    rw [member_merge htarget hlookup, Json.patched_of_not_obj hobj,
      Checked.under_eq_valid_iff] at hs
    cases j with
    | obj members => exact hobj members rfl
    | _ => cases hs

/-- **A record that is a member of another.** -/
theorem inside {leaves : List (Leaf S)} {places : List (List String)} {read : Members → Checked S}
    (h : Leafwise leaves places id read) (name label : String) (default : S) (part : R → S) :
    Leafwise (leaves.map (·.inside name part)) ([name] :: places.map (name :: ·)) part
      (Intake.member name (Intake.record label read) default) := by
  refine ⟨by simpa using h.ne_nil, ?_, ?_, ?_⟩
  · exact List.forall_mem_map.mpr fun leaf _ => List.cons_ne_nil _ _
  · intro target patch r hlaid r'
    obtain ⟨members, hmembers, hinner⟩ := h.laid_of_inside hlaid
    rw [List.forall_mem_cons, List.forall_mem_map, List.forall_mem_map]
    rcases exists_within hlaid.patch_tidy name with ⟨inner, hwithin⟩ | ⟨j, hj, hobj⟩
    · rw [member_merge hlaid.target_tidy (hwithin.merged hmembers), Checked.under_eq_valid_iff]
      refine (h.valid_iff (hinner inner hwithin.tidy) (part r')).trans ?_
      simp only [hwithin.objectAt, hwithin.objectAt_cons, true_and]
      exact and_congr_right' (forall₂_congr fun leaf hleaf =>
        (hwithin.follows (h.path_ne_nil leaf hleaf)).symm)
    · obtain ⟨hplace, hinvalid⟩ := refused_of_not_obj hlaid.target_tidy hlaid.patch_tidy hj hobj
      exact iff_of_false (hinvalid _) fun hpatch => hplace hpatch.1.1
  · intro target patch r hlaid
    obtain ⟨members, hmembers, hinner⟩ := h.laid_of_inside hlaid
    rw [List.forall_mem_cons, List.forall_mem_map, List.forall_mem_map]
    rcases exists_within hlaid.patch_tidy name with ⟨inner, hwithin⟩ | ⟨j, hj, hobj⟩
    · simp only [member_merge hlaid.target_tidy (hwithin.merged hmembers),
        Checked.under_eq_valid_iff]
      refine (h.accepts_iff (hinner inner hwithin.tidy)).trans ?_
      simp only [hwithin.objectAt, hwithin.objectAt_cons, true_and]
      exact and_congr_right' (forall₂_congr fun leaf hleaf =>
        (hwithin.readable (h.path_ne_nil leaf hleaf)).symm)
    · obtain ⟨hplace, hinvalid⟩ := refused_of_not_obj hlaid.target_tidy hlaid.patch_tidy hj hobj
      exact iff_of_false (fun ⟨s, hs⟩ => hinvalid s hs) fun hpatch => hplace hpatch.1.1

end Leafwise

end Commissioning
