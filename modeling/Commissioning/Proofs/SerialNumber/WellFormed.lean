import Commissioning.Proofs.Field.Judged
import Commissioning.Proofs.SerialNumber.Counts
import Commissioning.Proofs.SerialNumber.Kept

/-!
# The form is well formed for all counts

Counts are proposed by devices, requests and settings, which know no bounds. A form is built from
them for a system that may allow five towers, while there are only three kinds of towers, three
lists of serial numbers and three headings in the protocol. Asked for a fourth tower, the fields
cannot be built at all (`Commissioning.StorageSystem.numberedTowers_eq`). Counts are therefore
clamped first, between bounds that are used again to check the counts which the form itself shows.

**All of this fits together, whatever is proposed**
(`Commissioning.StorageSystem.serialNumberSchema_wellFormed`): the fields of each tower can be
built, the towers are numbered without a gap, the fields of a tower are those of its boxes and of as
many modules as there are, the form accepts the counts it is shown with, and every tower has a list
and a heading of its own (`Commissioning.SerialNumberSchema.WellFormed`).
-/

namespace Commissioning

/-! ### Towers by number -/

namespace Tower

@[simp] theorem ofNumber?_number (t : Tower) : ofNumber? t.number = some t := by
  cases t <;> rfl

/-- The first towers have the first numbers. -/
theorem map_number_take {n : Nat} (h : n ≤ all.length) :
    (all.take n).map number = (List.range' 1 n).map Int.ofNat := by
  have hthree : all.length = 3 := rfl
  obtain rfl | rfl | rfl | rfl : n = 0 ∨ n = 1 ∨ n = 2 ∨ n = 3 := by omega
  all_goals rfl

end Tower

namespace StorageSystem

variable {s : StorageSystem}

theorem numberedFields_number (t : Tower) (modules : Int) (inverter : Option String) :
    s.numberedFields t.number modules inverter = .ok (s.towerFields t modules inverter) := by
  rw [numberedFields, Tower.ofNumber?_number]
  rfl

/-- The fields of some towers can be built by their numbers. -/
theorem mapM_numberedFields (modules : Int) (inverter : Option String) (ts : List Tower) :
    (ts.map Tower.number).mapM (fun number => do
        return (number, ← s.numberedFields number modules inverter)) =
      .ok (ts.map fun t => (t.number, s.towerFields t modules inverter)) := by
  induction ts with
  | nil => rfl
  | cons t ts ih =>
    rw [List.map_cons, List.mapM_cons, numberedFields_number, ih]
    rfl

/-- **Towers can be built by number** as long as there are enough kinds of them; otherwise the
fourth is complained about. -/
theorem numberedTowers_eq (s : StorageSystem) (d : SerialNumberDefaults) :
    s.numberedTowers d =
      if d.towers ≤ 3 then
        .ok ((Tower.all.take d.towers.toNat).map fun t =>
          (t.number, s.towerFields t d.modules d.inverter))
      else .error "unsupported tower number 4" := by
  rw [numberedTowers]
  split
  · next h =>
    have hle : d.towers.toNat ≤ Tower.all.length := by
      have hlength : Tower.all.length = 3 := rfl
      omega
    rw [← Tower.map_number_take hle, mapM_numberedFields]
  · next h =>
    obtain ⟨more, hmore⟩ : ∃ more, d.towers.toNat = 3 + (1 + more) :=
      ⟨d.towers.toNat - 4, by omega⟩
    have hfront : (List.range' 1 d.towers.toNat).map Int.ofNat =
        Tower.all.map Tower.number ++ 4 :: (List.range' 5 more).map Int.ofNat := by
      rw [hmore, ← List.range'_append_1, ← List.range'_append_1]
      rfl
    have hfourth : Tower.ofNumber? 4 = none := rfl
    rw [hfront, List.mapM_append, mapM_numberedFields, List.mapM_cons, numberedFields, hfourth]
    rfl

/-! ### The fields of a tower -/

/-- The keys of the modules of a tower stand last and in order. -/
theorem keys_towerFields (s : StorageSystem) (t : Tower) (m : Nat) (inverter : Option String) :
    ∃ boxes, (s.towerFields t m inverter).map Field.key =
        boxes ++ (List.range' 1 m).map (fun number => s!"module{number}") ∧
      boxes.length = if t.number = 1 then 3 else 2 := by
  refine ⟨(s.boxFields inverter t).map Field.key ++ ["bmsBox"], ?_, ?_⟩
  · rw [towerFields, Int.toNat_natCast, List.map_append, List.map_cons, List.map_map,
      List.append_assoc]
    rfl
  · cases t <;> rfl

/-! ### The counts -/

/-- The bounds of a system leave room, and are small. -/
theorem bounds_spec (s : StorageSystem) :
    1 ≤ s.maxSerialNumberTowers ∧ s.maxSerialNumberTowers ≤ 3 ∧
      s.minModulesPerTower ≤ s.maxModulesPerTower ∧ s.maxModulesPerTower ≤ 15 := by
  cases s <;> decide

/-- **The form accepts the counts it is shown with** if they are within the bounds. -/
theorem checkSettings_countFields {t m : Int} (ht : 1 ≤ t ∧ t ≤ s.maxSerialNumberTowers)
    (hm : s.minModulesPerTower ≤ m ∧ m ≤ s.maxModulesPerTower) :
    checkSettings (s.countFields t m) ((s.countFields t m).map fun f => (f.key, f.default)) =
      .ok [] := by
  obtain ⟨-, htowers, hleast, hmost⟩ := s.bounds_spec
  refine checkSettings_of_check (List.forall_mem_cons.mpr ⟨?_, List.forall_mem_singleton.mpr ?_⟩)
  · exact (Field.judges_between ⟨⟨rfl, rfl⟩, rfl, rfl, rfl, by decide, by omega⟩ t).accepts.mpr ht
  · exact (Field.judges_between ⟨⟨rfl, rfl⟩, rfl, rfl, rfl, by omega, by omega⟩ m).accepts.mpr hm

end StorageSystem

/-! ### Lists and headings -/

theorem Tower.lotCategory_injective {t t' : Tower} (h : t.lotCategory = t'.lotCategory) :
    t = t' := by
  cases t <;> cases t' <;> first | rfl | exact absurd h (by decide)

theorem SerialNumber.category_of_lot? {n : SerialNumber} {t : Tower} {lot : ProtocolLot}
    (h : n.lot? t = some lot) : lot.category = t.lotCategory := by
  unfold lot? at h
  split at h
  · split at h
    · cases h
    · obtain rfl := Option.some.inj h
      rfl
  · cases h

/-- **What stands under the heading of a tower** is what is made of the list of the tower. -/
theorem SerialNumbers.filter_lots (numbers : SerialNumbers) (t : Tower) :
    numbers.lots.filter (fun lot => lot.category = t.lotCategory) =
      (numbers.ofTower t).filterMap (·.lot? t) := by
  have hlots : ∀ t', ((numbers.ofTower t').filterMap (·.lot? t')).filter
      (fun lot => lot.category = t.lotCategory) =
      if t' = t then (numbers.ofTower t').filterMap (·.lot? t') else [] := by
    intro t'
    have hcategory : ∀ lot ∈ (numbers.ofTower t').filterMap (·.lot? t'),
        lot.category = t'.lotCategory := by
      intro lot hlot
      obtain ⟨n, -, hn⟩ := List.mem_filterMap.mp hlot
      exact SerialNumber.category_of_lot? hn
    split
    · next h =>
      subst h
      exact List.filter_eq_self.mpr fun lot hlot => decide_eq_true (hcategory lot hlot)
    · next h =>
      refine List.filter_eq_nil_iff.mpr fun lot hlot heq => h ?_
      exact Tower.lotCategory_injective ((hcategory lot hlot).symm.trans (of_decide_eq_true heq))
  rw [lots, List.filter_flatMap]
  simp only [hlots]
  cases t <;> simp [Tower.all]

/-! ### The form -/

/-- **A form for some towers of some modules** is well formed. -/
structure SerialNumberSchema.WellFormed (schema : SerialNumberSchema) (t m : Nat) : Prop where
  /-- The towers are numbered from one on. -/
  numbers : schema.towers.map (fun p => p.1.number) = (List.range' 1 t).map Int.ofNat
  /-- A tower has fields for its boxes and modules; there is one box more in the first tower. -/
  lengths : ∀ p ∈ schema.towers, p.2.length = (if p.1.number = 1 then 3 else 2) + m
  /-- The fields of a tower have different keys. -/
  keys : ∀ p ∈ schema.towers, (p.2.map Field.key).Nodup
  /-- The keys of the modules stand last and in order. -/
  modules : ∀ p ∈ schema.towers,
    (List.range' 1 m).map (fun number => s!"module{number}") <:+ p.2.map Field.key
  /-- The two counts are those that the form is shown with. -/
  shown : schema.settings.map (fun f => (f.key, f.default)) =
    [("numberOfTowers", .int t), ("numberOfModulesPerTower", .int m)]
  /-- The form accepts the counts it is shown with. -/
  accepted : checkSettings schema.settings (schema.settings.map fun f => (f.key, f.default)) =
    .ok []
  /-- The number of a tower leads to a list of its own, and what is made of this list stands under
  the heading of the tower. -/
  archived : ∀ number ∈ List.range' 1 t, ∃ tower, Tower.ofNumber? number = some tower ∧
    ∀ (numbers : SerialNumbers) entries,
      (numbers.setTower entries tower).ofTower tower = entries ∧
      (∀ other, other ≠ tower →
        (numbers.setTower entries tower).ofTower other = numbers.ofTower other) ∧
      (numbers.setTower entries tower).lots.filter
        (fun lot => lot.category = tower.lotCategory) = entries.filterMap (·.lot? tower)

namespace StorageSystem

variable {s : StorageSystem} {proposed : SerialNumberDefaults}

/-- The number of a tower up to a count leads to a tower. -/
theorem exists_tower_of_mem {t number : Nat} (ht : t ≤ 3) (h : number ∈ List.range' 1 t) :
    ∃ tower, Tower.ofNumber? number = some tower := by
  have hnumber : (number : Int) ∈ (Tower.all.take t).map Tower.number := by
    rw [Tower.map_number_take ht]
    exact List.mem_map_of_mem h
  obtain ⟨tower, -, heq⟩ := List.mem_map.mp hnumber
  exact ⟨tower, heq ▸ tower.ofNumber?_number⟩

/-- Proposed counts are clamped to some within the bounds. -/
theorem exists_clamp (s : StorageSystem) (proposed : SerialNumberDefaults) :
    ∃ t m : Nat, proposed.clamp s = { proposed with towers := t, modules := m } ∧
      (t : Int) = min (max proposed.towers 1) s.maxSerialNumberTowers ∧
      (m : Int) = min (max proposed.modules s.minModulesPerTower) s.maxModulesPerTower := by
  obtain ⟨hroom, -, -, -⟩ := s.bounds_spec
  obtain ⟨t, ht⟩ := Int.eq_ofNat_of_zero_le
    (a := clampInt 1 s.maxSerialNumberTowers proposed.towers) (by rw [clampInt]; omega)
  obtain ⟨m, hm⟩ := Int.eq_ofNat_of_zero_le
    (a := clampInt s.minModulesPerTower s.maxModulesPerTower proposed.modules)
    (by rw [clampInt]; omega)
  refine ⟨t, m, ?_, ht.symm, hm.symm⟩
  rw [SerialNumberDefaults.clamp, ht, hm]

/-- A form for counts within the bounds is well formed. -/
theorem wellFormed_of_clamp {t m : Nat}
    (hclamp : proposed.clamp s = { proposed with towers := t, modules := m })
    (ht : 1 ≤ t ∧ t ≤ s.maxSerialNumberTowers)
    (hm : s.minModulesPerTower ≤ m ∧ m ≤ s.maxModulesPerTower) :
    (s.serialNumberSchema proposed).WellFormed t m := by
  obtain ⟨-, hkinds, -, -⟩ := s.bounds_spec
  have hthree : t ≤ Tower.all.length := Nat.le_trans ht.2 hkinds
  have hsettings : (s.serialNumberSchema proposed).settings = s.countFields t m := by
    rw [serialNumberSchema, hclamp]
  have htower : ∀ p ∈ (s.serialNumberSchema proposed).towers,
      ∃ boxes, p.2.map Field.key =
          boxes ++ (List.range' 1 m).map (fun number => s!"module{number}") ∧
        boxes.length = if p.1.number = 1 then 3 else 2 := by
    intro p hp
    rw [serialNumberSchema, hclamp] at hp
    obtain ⟨tower, -, rfl⟩ := List.mem_map.mp hp
    exact keys_towerFields s tower m proposed.inverter
  constructor
  case numbers =>
    have hfst := fst_towers s proposed
    rw [hclamp, Int.toNat_natCast] at hfst
    rw [← Tower.map_number_take hthree, ← hfst, List.map_map]
    rfl
  case lengths =>
    intro p hp
    obtain ⟨boxes, hkeys, hboxes⟩ := htower p hp
    rw [← List.length_map Field.key, hkeys, List.length_append, hboxes, List.length_map,
      List.length_range']
  case keys => exact fun p hp => nodup_keys_of_mem_towers hp
  case modules =>
    intro p hp
    obtain ⟨boxes, hkeys, -⟩ := htower p hp
    exact ⟨boxes, hkeys.symm⟩
  case shown => rw [hsettings]; rfl
  case accepted =>
    rw [hsettings]
    exact checkSettings_countFields (by omega) (by omega)
  case archived =>
    intro number hnumber
    obtain ⟨tower, htower⟩ := exists_tower_of_mem hthree hnumber
    refine ⟨tower, htower, fun numbers entries => ⟨?_, ?_, ?_⟩⟩
    · exact SerialNumbers.ofTower_setTower_self numbers entries tower
    · exact fun other hother => SerialNumbers.ofTower_setTower_of_ne hother
    · rw [SerialNumbers.filter_lots, SerialNumbers.ofTower_setTower_self]

/-- **The form is well formed for all counts.** Whatever counts are proposed to a system, they are
clamped to some that are within its bounds, and left alone if they are; the fields of all towers
that are then asked for by number can be built and are those of the form; and the form is well
formed. -/
theorem serialNumberSchema_wellFormed (s : StorageSystem) (proposed : SerialNumberDefaults) :
    ∃ t m : Nat,
      (t : Int) = min (max proposed.towers 1) (min 3 (s.maxTowers : Int)) ∧
      (m : Int) = min (max proposed.modules s.minModulesPerTower) s.maxModulesPerTower ∧
      (s.serialNumberSchema proposed).defaults = { proposed with towers := t, modules := m } ∧
      ((s.serialNumberSchema proposed).defaults = proposed ↔
        (1 ≤ proposed.towers ∧ proposed.towers ≤ min 3 (s.maxTowers : Int)) ∧
        s.minModulesPerTower ≤ proposed.modules ∧ proposed.modules ≤ s.maxModulesPerTower) ∧
      s.numberedTowers (s.serialNumberSchema proposed).defaults =
        .ok ((s.serialNumberSchema proposed).towers.map fun p => (p.1.number, p.2)) ∧
      (s.serialNumberSchema proposed).WellFormed t m := by
  obtain ⟨t, m, hclamp, ht, hm⟩ := exists_clamp s proposed
  obtain ⟨hroom, hkinds, hleast, -⟩ := s.bounds_spec
  have hmax : (s.maxSerialNumberTowers : Int) = min 3 (s.maxTowers : Int) := by
    cases s <;> rfl
  have hdefaults : (s.serialNumberSchema proposed).defaults =
      { proposed with towers := t, modules := m } := hclamp
  refine ⟨t, m, hmax ▸ ht, hm, hdefaults, ?_, ?_, ?_⟩
  · rw [hdefaults, ← hmax]
    constructor
    · intro h
      have htowers : (t : Int) = proposed.towers := congrArg SerialNumberDefaults.towers h
      have hmodules : (m : Int) = proposed.modules := congrArg SerialNumberDefaults.modules h
      omega
    · rintro ⟨htowers, hmodules⟩
      have hkept : (t : Int) = proposed.towers ∧ (m : Int) = proposed.modules := by omega
      rw [hkept.1, hkept.2]
  · rw [numberedTowers_eq, hdefaults, if_pos (by show (t : Int) ≤ 3; omega),
      serialNumberSchema, hclamp, List.map_map]
    rfl
  · exact wellFormed_of_clamp hclamp (by omega) (by omega)

end StorageSystem

end Commissioning
