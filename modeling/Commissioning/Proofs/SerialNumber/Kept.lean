import Commissioning.Proofs.Field.Check
import Commissioning.Proofs.Field.Pattern
import Commissioning.Proofs.Gateway.Answer
import Commissioning.Proofs.Protocol.Filled
import Commissioning.Proofs.SerialNumber.Collect
import Commissioning.Proofs.SerialNumber.Request

/-!
# From a filled-in form to the setup protocol

A form for serial numbers is collected tower by tower and field by field, and what is collected is
archived tower by tower and entry by entry. **Neither loses a component nor adds one**
(`Commissioning.StorageSystem.serialNumbers_kept`): each field of the form gives one entry, in the
order of the fields, and a complaint exactly if its value is blank or does not follow its pattern;
and if there is no complaint, each field gives one lot, in the same order, with the trimmed text of
its value.

That an entry without a complaint does become a lot depends on what is checked and what is archived
agreeing about blanks: a lot is left out if its serial number is empty, a value is complained about
if it is blank, and a value that is not blank leaves something when it is trimmed
(`Commissioning.Json.trimmed_ne_empty`), also where it is no text but is shown as one. A value is
shown if it can be written down, and so is every value that is sent in, so that each form in the
body of a request is collected (`Commissioning.StorageSystem.exists_collected_of_body`).
-/

namespace Commissioning

/-! ### What is shown is not blank -/

namespace Json

/-- A value that is not left empty is shown with something that is no blank. -/
theorem isEmptyText_display? {v : Json} {text : String} (h : v.isBlank = false)
    (htext : v.display? = some text) : Text.isEmptyText text = false := by
  cases v with
  | null => cases h
  | str s =>
    obtain rfl := Option.some.inj htext
    exact h
  | torn t =>
    obtain rfl := Option.some.inj htext
    exact Text.isEmptyText_of_mem t.replacementChar_mem (by decide)
  | bool b =>
    obtain rfl := Option.some.inj htext
    cases b <;> decide
  | int i =>
    refine isEmptyText_of_text (i := i) ?_
    obtain ⟨cs, hcs, rfl⟩ := Option.map_eq_some_iff.mp htext
    rw [innerChars] at hcs
    simp only [Number.text, hcs]
  | float x =>
    obtain rfl := Option.some.inj htext
    cases x with
    | nan => decide
    | infinite negative => cases negative <;> decide
    | finite negative u hu => exact isEmptyText_text negative hu
  | arr items =>
    obtain ⟨cs, hcs, rfl⟩ := Option.map_eq_some_iff.mp htext
    obtain ⟨inner, -, rfl⟩ := Option.map_eq_some_iff.mp hcs
    -- The bracket in front is no blank, whatever the items are.
    exact Text.isEmptyText_of_mem List.mem_cons_self (by decide)
  | obj members =>
    obtain ⟨cs, hcs, rfl⟩ := Option.map_eq_some_iff.mp htext
    obtain ⟨inner, -, rfl⟩ := Option.map_eq_some_iff.mp hcs
    exact Text.isEmptyText_of_mem List.mem_cons_self (by decide)

/-- **Trimming leaves something** of a value that is not blank. -/
theorem trimmed_ne_empty {v : Json} {text : String} (h : v.isBlank = false)
    (htext : v.display? = some text) : v.trimmed ≠ "" := by
  intro hempty
  rw [trimmed, htext, Option.getD_some] at hempty
  have hnil : Text.trim text.toList = [] := by
    rw [← String.toList_ofList (l := Text.trim text.toList), hempty, String.toList_empty]
  rw [Text.trim_eq_nil_iff, isEmptyText_display? h htext] at hnil
  cases hnil

end Json

/-! ### One field -/

namespace Field

variable {f : Field} {v : Json} {values : Members} {text : String}

/-- The text that is kept of a value: trimmed, and none of a blank one. -/
def kept? (v : Json) : Option String := if v.isBlank then none else some v.trimmed

/-- The entry that a field gives for a value. -/
def entry (f : Field) (v : Json) : SerialNumber := ⟨f.label, kept? v⟩

/-- **A field** gives an entry, and a complaint if there is something to say. -/
theorem collectField_eq (hf : f.IsText) (h : (f.given values).display? = some text) :
    collectField f values = .ok (f.entry (f.given values), f.objection? (f.given values)) := by
  have hcoerce : ∀ v : Json, v.display? = some text →
      f.coerce v = .ok (if v.isBlank then .null else .str v.trimmed) := by
    intro v hv
    unfold coerce
    simp only [hf.type, trimmedText_of_display? hv]
    split <;> rfl
  unfold collectField
  dsimp only
  rw [← given, check_text hf h, hcoerce _ h, entry, kept?]
  by_cases hblank : (f.given values).isBlank = true
  · simp only [if_pos hblank]
    rfl
  · simp only [if_neg hblank]
    rfl

end Field

/-! ### The fields of a tower -/

/-- The entries of the fields of a tower. -/
def towerEntries (fs : List Field) (values : Members) : List SerialNumber :=
  fs.map fun f => f.entry (f.given values)

/-- The complaints of the fields of a tower. -/
def towerObjections (t : Tower) (fs : List Field) (values : Members) : Complaints :=
  fs.filterMap fun f => (f.objection? (f.given values)).map fun c => (t.fieldId f.key, c)

theorem collectTower_eq {t : Tower} {values : Members} :
    ∀ {fs : List Field}, (∀ f ∈ fs, f.IsText) →
      (∀ f ∈ fs, ∃ text, (f.given values).display? = some text) →
      collectTower t fs values = .ok (towerEntries fs values, towerObjections t fs values)
  | [], _, _ => rfl
  | f :: fs, htext, hshown => by
    obtain ⟨text, hf⟩ := hshown f List.mem_cons_self
    have hrest := collectTower_eq (t := t) (fun g hg => htext g (List.mem_cons_of_mem f hg))
      fun g hg => hshown g (List.mem_cons_of_mem f hg)
    rw [collectTower, Field.collectField_eq (htext f List.mem_cons_self) hf, hrest]
    simp only [towerObjections, List.filterMap_cons]
    cases f.objection? (f.given values) <;> rfl

namespace SerialNumbers

@[simp] theorem ofTower_setTower_self (s : SerialNumbers) (entries : List SerialNumber)
    (t : Tower) : (s.setTower entries t).ofTower t = entries := by
  cases t <;> rfl

theorem ofTower_setTower_of_ne {s : SerialNumbers} {entries : List SerialNumber} {t t' : Tower}
    (h : t' ≠ t) : (s.setTower entries t).ofTower t' = s.ofTower t' := by
  cases t <;> cases t' <;> first | rfl | exact absurd rfl h

end SerialNumbers

/-! ### The towers of a form -/

/-- **The towers of a form**, each of which stands in it once: a tower has the entries of its
fields, any other has none, and the complaints are those of the fields in order. -/
theorem exists_collectTowers {values : TowerValues} {towers : List (Tower × List Field)}
    (hnodup : (towers.map Prod.fst).Nodup)
    (hfields : ∀ p ∈ towers, ∀ f ∈ p.2, f.IsText ∧
      ∃ text, (f.given (values.ofTower p.1)).display? = some text) :
    ∃ numbers, collectTowers towers values =
        .ok (numbers, towers.flatMap fun p => towerObjections p.1 p.2 (values.ofTower p.1)) ∧
      (∀ p ∈ towers, numbers.ofTower p.1 = towerEntries p.2 (values.ofTower p.1)) ∧
      ∀ t, t ∉ towers.map Prod.fst → numbers.ofTower t = [] := by
  induction towers with
  | nil => exact ⟨{}, rfl, by simp, fun t _ => by cases t <;> rfl⟩
  | cons p towers ih =>
    obtain ⟨t, fs⟩ := p
    rw [List.forall_mem_cons] at hfields
    rw [List.map_cons, List.nodup_cons] at hnodup
    obtain ⟨numbers, hcollect, htowers, hothers⟩ := ih hnodup.2 hfields.2
    have htower := collectTower_eq (t := t) (fun f hf => (hfields.1 f hf).1)
      fun f hf => (hfields.1 f hf).2
    refine ⟨numbers.setTower (towerEntries fs (values.ofTower t)) t, ?_, ?_, ?_⟩
    · rw [collectTowers, ← TowerValues.ofTower, htower, hcollect]
      rfl
    · rintro p hp
      rcases List.mem_cons.mp hp with rfl | hrest
      · exact SerialNumbers.ofTower_setTower_self numbers _ t
      · -- The tower in front does not stand in the rest, so it takes nothing from there.
        have hne : p.1 ≠ t := by
          intro heq
          exact hnodup.1 (List.mem_map.mpr ⟨p, hrest, heq⟩)
        rw [SerialNumbers.ofTower_setTower_of_ne hne]
        exact htowers p hrest
    · intro t' ht'
      rw [List.map_cons, List.mem_cons, not_or] at ht'
      rw [SerialNumbers.ofTower_setTower_of_ne ht'.1]
      exact hothers t' ht'.2

/-! ### The fields of a system -/

/-- A field for a component: its value is kept as text, and it follows the pattern of serial
numbers unless it is that of the inverter. -/
structure Field.IsComponent (f : Field) : Prop where
  text : f.IsText
  options : f.options = none
  default : f.default.IsWritable
  pattern : f.pattern = some serialNumberPattern ∨ (f.pattern = none ∧ f.key = "batteryInverter")

/-- What is said against the value of a component: that it is missing, or not as the pattern
says. -/
def Field.fault? (f : Field) (v : Json) : Option Complaint :=
  if v.isBlank then some .missing
  else if f.pattern.all (·.accepts v.trimmed.toList) then none
  else some (.mismatch f.mismatchText)

theorem Field.fault?_eq_none_iff {f : Field} {v : Json} :
    f.fault? v = none ↔
      v.isBlank = false ∧ f.pattern.all (·.accepts v.trimmed.toList) = true := by
  unfold fault?
  split
  · next h => simp [h]
  · next h =>
    split
    · next hall => simp [h, hall]
    · next hall => simp [hall]

theorem Field.IsComponent.objection?_eq {f : Field} (hf : f.IsComponent) (v : Json) :
    f.objection? v = f.fault? v := by
  have hoptions : f.checkOptions v = none := by
    rw [checkOptions, hf.options]
  rw [objection?, hoptions, fault?]
  cases f.pattern <;> rfl

/-- A component with which no fault is found has a serial number, unless it is the inverter. -/
theorem Field.IsComponent.isSerialNumber {f : Field} (hf : f.IsComponent) {v : Json}
    (h : f.fault? v = none) (hkey : f.key ≠ "batteryInverter") :
    IsSerialNumber v.trimmed.toList := by
  rcases hf.pattern with hpattern | ⟨-, hinverter⟩
  · have hall := (Field.fault?_eq_none_iff.mp h).2
    rw [hpattern, Option.all_some] at hall
    exact accepts_serialNumber_iff.mp hall
  · exact absurd hinverter hkey

theorem isComponent_serialField (key label : String) {default : Json} (h : default.IsWritable) :
    (serialField key label default).IsComponent :=
  ⟨⟨rfl, rfl⟩, rfl, h, Or.inl rfl⟩

namespace StorageSystem

variable {s : StorageSystem} {t : Tower} {modules : Int} {inverter : Option String} {f : Field}

theorem isComponent_of_mem (hf : f ∈ s.towerFields t modules inverter) : f.IsComponent := by
  rcases List.mem_append.mp hf with hf | hf
  · cases t with
    | first =>
      rcases List.mem_pair.mp hf with rfl | rfl
      · exact ⟨⟨rfl, rfl⟩, rfl, Json.isWritable_ofOptionStr inverter, Or.inr ⟨rfl, rfl⟩⟩
      · exact isComponent_serialField _ _ rfl
    | second =>
      obtain rfl := List.mem_singleton.mp hf
      exact isComponent_serialField _ _ rfl
    | third =>
      obtain rfl := List.mem_singleton.mp hf
      exact isComponent_serialField _ _ rfl
  · rcases List.mem_cons.mp hf with rfl | hf
    · exact isComponent_serialField _ _ rfl
    · obtain ⟨number, -, rfl⟩ := List.mem_map.mp hf
      exact isComponent_serialField _ _ rfl

/-- The fields of a tower have different keys. -/
theorem nodup_keys_towerFields : ((s.towerFields t modules inverter).map Field.key).Nodup := by
  have hboxes : ((s.boxFields inverter t).map Field.key).Nodup := by
    cases t <;> simp [boxFields, serialField]
  have hmodules : (((List.range' 1 modules.toNat).map moduleField).map Field.key).Nodup := by
    rw [List.map_map]
    refine List.Nodup.map (fun m n h => ?_) List.nodup_range'
    exact toString_injective ((String.append_right_inj "module").mp h)
  have hfront : ∀ key ∈ ((List.range' 1 modules.toNat).map moduleField).map Field.key,
      "module".toList <+: key.toList := by
    intro key hkey
    obtain ⟨f, hf, rfl⟩ := List.mem_map.mp hkey
    obtain ⟨number, -, rfl⟩ := List.mem_map.mp hf
    exact prefix_key_moduleField number
  rw [towerFields, List.map_append, List.map_cons, List.nodup_append']
  refine ⟨hboxes, List.nodup_cons.mpr ⟨fun hmem => ?_, hmodules⟩, ?_⟩
  · exact absurd (hfront _ hmem) (by decide)
  · intro key hbox hrest
    obtain ⟨f, hf, rfl⟩ := List.mem_map.mp hbox
    have hboxKey := key_mem_boxKeys hf
    rcases List.mem_cons.mp hrest with hkey | hmodule
    · rw [hkey] at hboxKey
      exact absurd hboxKey (by decide)
    · exact not_prefix_of_mem_boxKeys hboxKey (hfront _ hmodule)

section Schema

variable {proposed : SerialNumberDefaults} {p : Tower × List Field}

/-- The towers of a form are the first ones. -/
theorem fst_towers (s : StorageSystem) (proposed : SerialNumberDefaults) :
    (s.serialNumberSchema proposed).towers.map Prod.fst =
      Tower.all.take (proposed.clamp s).towers.toNat := by
  show ((Tower.all.take _).map _).map Prod.fst = _
  rw [List.map_map]
  exact List.map_id' _

theorem isComponent_of_mem_towers (hp : p ∈ (s.serialNumberSchema proposed).towers) (hf : f ∈ p.2) :
    f.IsComponent := by
  obtain ⟨t, -, rfl⟩ := List.mem_map.mp hp
  exact isComponent_of_mem hf

theorem nodup_keys_of_mem_towers (hp : p ∈ (s.serialNumberSchema proposed).towers) :
    (p.2.map Field.key).Nodup := by
  obtain ⟨t, -, rfl⟩ := List.mem_map.mp hp
  exact nodup_keys_towerFields

end Schema

end StorageSystem

/-! ### Lots -/

/-- The lot of a field, with the text of a value for a serial number. -/
def Field.lot (f : Field) (t : Tower) (v : Json) : ProtocolLot :=
  ⟨t.lotCategory, s!"{f.label} Seriennummer", v.trimmed⟩

theorem Field.lot?_entry {f : Field} {t : Tower} {v : Json} {text : String}
    (h : v.isBlank = false) (htext : v.display? = some text) :
    (f.entry v).lot? t = some (f.lot t v) := by
  have hne : (v.trimmed == "") = false := beq_eq_false_iff_ne.mpr (Json.trimmed_ne_empty h htext)
  simp only [SerialNumber.lot?, entry, kept?, h, Bool.false_eq_true, if_false, hne, lot]

/-- Towers that have no entries have no lots. -/
theorem SerialNumbers.lots_take {numbers : SerialNumbers} {n : Nat}
    (h : ∀ t, t ∉ Tower.all.take n → numbers.ofTower t = []) :
    numbers.lots = (Tower.all.take n).flatMap fun t =>
      (numbers.ofTower t).filterMap (·.lot? t) := by
  have hrest : (Tower.all.drop n).flatMap (fun t => (numbers.ofTower t).filterMap (·.lot? t)) =
      [] := by
    rw [List.flatMap_eq_nil_iff]
    intro t ht
    have hnot : t ∉ Tower.all.take n := fun hmem =>
      List.disjoint_take_drop (by decide) (Nat.le_refl n) hmem ht
    rw [h t hnot, List.filterMap_nil]
  rw [lots]
  conv_lhs => rw [← List.take_append_drop n Tower.all, List.flatMap_append, hrest, List.append_nil]

theorem Field.isWritable_given {f : Field} {values : TowerValues} (hvalues : values.AreWritable)
    (hdefault : f.default.IsWritable) (t : Tower) : (f.given (values.ofTower t)).IsWritable := by
  rw [given]
  cases hv : (values.ofTower t).get? f.key with
  | none => exact hdefault
  | some v => exact hvalues t f.key v hv

/-- The lots of a tower whose values are not blank. -/
theorem filterMap_lot?_towerEntries {fs : List Field} {values : Members} {t : Tower}
    (h : ∀ f ∈ fs, (f.given values).isBlank = false ∧
      ∃ text, (f.given values).display? = some text) :
    (towerEntries fs values).filterMap (·.lot? t) = fs.map fun f => f.lot t (f.given values) := by
  rw [towerEntries, List.filterMap_map, ← List.filterMap_eq_map]
  refine List.filterMap_congr fun f hf => ?_
  obtain ⟨hblank, text, htext⟩ := h f hf
  exact Field.lot?_entry hblank htext

/-- **The lots of a form** whose values are not blank are those of its fields in order. -/
theorem SerialNumbers.lots_eq_flatMap {numbers : SerialNumbers} {values : TowerValues}
    {towers : List (Tower × List Field)} {n : Nat}
    (hfst : towers.map Prod.fst = Tower.all.take n)
    (hentries : ∀ p ∈ towers, numbers.ofTower p.1 = towerEntries p.2 (values.ofTower p.1))
    (hothers : ∀ t, t ∉ towers.map Prod.fst → numbers.ofTower t = [])
    (hfields : ∀ p ∈ towers, ∀ f ∈ p.2, (f.given (values.ofTower p.1)).isBlank = false ∧
      ∃ text, (f.given (values.ofTower p.1)).display? = some text) :
    numbers.lots = towers.flatMap fun p =>
      p.2.map fun f => f.lot p.1 (f.given (values.ofTower p.1)) := by
  rw [hfst] at hothers
  rw [lots_take hothers, ← hfst, List.flatMap_map]
  refine congrArg List.flatten (List.map_congr_left fun p hp => ?_)
  rw [hentries p hp]
  exact filterMap_lot?_towerEntries (hfields p hp)

/-- Fields of different keys, in different towers, have different identifiers. -/
theorem nodup_fieldIds {towers : List (Tower × List Field)} (hnodup : (towers.map Prod.fst).Nodup)
    (hkeys : ∀ p ∈ towers, (p.2.map Field.key).Nodup) :
    (towers.flatMap fun p => p.2.map fun f => p.1.fieldId f.key).Nodup := by
  rw [List.nodup_flatMap]
  constructor
  · intro p hp
    have hids := (hkeys p hp).map (f := p.1.fieldId) fun key key' h => (Tower.fieldId_inj.mp h).2
    rwa [List.map_map] at hids
  · refine (List.pairwise_map.mp hnodup).imp fun hne => ?_
    intro id hleft hright
    obtain ⟨f, -, rfl⟩ := List.mem_map.mp hleft
    obtain ⟨g, -, hg⟩ := List.mem_map.mp hright
    exact hne (Tower.fieldId_inj.mp hg).1.symm

namespace StorageSystem

/-- **What a form comes to**: of the values for its towers nothing is lost, and nothing is added. -/
structure IsCollected (towers : List (Tower × List Field)) (values : TowerValues)
    (numbers : SerialNumbers) (complaints : Complaints) : Prop where
  /-- Each field of a tower gives one entry. -/
  entries : ∀ t fs, (t, fs) ∈ towers → numbers.ofTower t = towerEntries fs (values.ofTower t)
  /-- Another tower has no entries. -/
  others : ∀ t, (∀ fs, (t, fs) ∉ towers) → numbers.ofTower t = []
  /-- What is said against the values is said in the order of the fields. -/
  complaints_eq : complaints = towers.flatMap fun p => p.2.filterMap fun f =>
    (f.fault? (f.given (values.ofTower p.1))).map fun c => (p.1.fieldId f.key, c)
  /-- No two fields have the same identifier. -/
  nodup_ids : (towers.flatMap fun p => p.2.map fun f => p.1.fieldId f.key).Nodup
  /-- If nothing is said, each field gives one lot, -/
  lots_eq : complaints = [] → numbers.lots = towers.flatMap fun p =>
    p.2.map fun f => f.lot p.1 (f.given (values.ofTower p.1))
  /-- and that is a serial number, but for the inverter. -/
  isSerialNumber : complaints = [] → ∀ t fs f, (t, fs) ∈ towers → f ∈ fs →
    (f.given (values.ofTower t)).trimmed ≠ "" ∧ (f.key ≠ "batteryInverter" →
      IsSerialNumber (f.given (values.ofTower t)).trimmed.toList)

/-- **A form is collected** if its values can be written down. -/
theorem exists_collected (s : StorageSystem) (proposed : SerialNumberDefaults)
    {values : TowerValues} (hvalues : values.AreWritable) :
    ∃ numbers complaints,
      (s.serialNumberSchema proposed).collect values = .ok (numbers, complaints) ∧
      IsCollected (s.serialNumberSchema proposed).towers values numbers complaints := by
  have hfst : (s.serialNumberSchema proposed).towers.map Prod.fst =
      Tower.all.take (proposed.clamp s).towers.toNat := fst_towers s proposed
  have hcomponent : ∀ p ∈ (s.serialNumberSchema proposed).towers, ∀ f ∈ p.2, f.IsComponent :=
    fun p hp f hf => isComponent_of_mem_towers hp hf
  have hkeys : ∀ p ∈ (s.serialNumberSchema proposed).towers, (p.2.map Field.key).Nodup :=
    fun p hp => nodup_keys_of_mem_towers hp
  have hform : (s.serialNumberSchema proposed).collect values =
      collectTowers (s.serialNumberSchema proposed).towers values := rfl
  rw [hform]
  -- Nothing else is used of the towers of the form from here on.
  generalize (s.serialNumberSchema proposed).towers = towers at hfst hcomponent hkeys ⊢
  have hnodup : (towers.map Prod.fst).Nodup := by
    rw [hfst]
    exact List.Nodup.sublist (List.take_sublist _ _) (by decide)
  have hshown : ∀ p ∈ towers, ∀ f ∈ p.2,
      f.IsText ∧ ∃ text, (f.given (values.ofTower p.1)).display? = some text := by
    intro p hp f hf
    have hfield := hcomponent p hp f hf
    exact ⟨hfield.text, Json.exists_display (Field.isWritable_given hvalues hfield.default p.1)⟩
  obtain ⟨numbers, hcollect, hentries, hothers⟩ := exists_collectTowers hnodup hshown
  have hcomplaints : (towers.flatMap fun p => towerObjections p.1 p.2 (values.ofTower p.1)) =
      towers.flatMap fun p => p.2.filterMap fun f =>
        (f.fault? (f.given (values.ofTower p.1))).map fun c => (p.1.fieldId f.key, c) := by
    refine congrArg List.flatten (List.map_congr_left fun p hp => ?_)
    refine List.filterMap_congr fun f hf => ?_
    rw [(hcomponent p hp f hf).objection?_eq]
  -- Without a complaint there is no fault, so no value is blank.
  have hclean : (towers.flatMap fun p => towerObjections p.1 p.2 (values.ofTower p.1)) = [] →
      ∀ p ∈ towers, ∀ f ∈ p.2, f.fault? (f.given (values.ofTower p.1)) = none := by
    intro hnone p hp f hf
    rw [hcomplaints] at hnone
    have htower := List.flatMap_eq_nil_iff.mp hnone p hp
    exact Option.map_eq_none_iff.mp (List.filterMap_eq_nil_iff.mp htower f hf)
  refine ⟨numbers, _, hcollect, fun t fs ht => hentries (t, fs) ht, fun t ht => ?_, hcomplaints,
    nodup_fieldIds hnodup hkeys, fun hnone => ?_, fun hnone t fs f ht hf => ?_⟩
  · refine hothers t fun hmem => ?_
    obtain ⟨⟨t', fs⟩, hp, rfl⟩ := List.mem_map.mp hmem
    exact ht fs hp
  · refine SerialNumbers.lots_eq_flatMap hfst hentries hothers fun p hp f hf => ?_
    exact ⟨(Field.fault?_eq_none_iff.mp (hclean hnone p hp f hf)).1, (hshown p hp f hf).2⟩
  · have hfault := hclean hnone (t, fs) ht f hf
    obtain ⟨-, text, htext⟩ := hshown (t, fs) ht f hf
    exact ⟨Json.trimmed_ne_empty (Field.fault?_eq_none_iff.mp hfault).1 htext,
      (hcomponent (t, fs) ht f hf).isSerialNumber hfault⟩

/-- **A form in the body of a request is collected**, whatever values it has. -/
theorem exists_collected_of_body (s : StorageSystem) (proposed : SerialNumberDefaults)
    {body : String} {content : Server.BodyContent} {r : SubmitRequest}
    (hbody : Server.readBody body = .ok content)
    (hr : Server.required SubmitRequest.intake content = .ok r) :
    ∃ numbers complaints,
      (s.serialNumberSchema proposed).collect r.towers = .ok (numbers, complaints) ∧
      IsCollected (s.serialNumberSchema proposed).towers r.towers numbers complaints :=
  exists_collected s proposed (Server.areWritable_of_body hbody hr)

/-- **From the form to the protocol.** For a system and proposed counts, and values that can be
written down: the form is collected, and

* each of its towers has one entry for each field, with its label and the trimmed text of its value
  if that is not blank, in the order of the fields, and no other tower has any;
* the complaints are those of the fields in order, about each value that is blank or does not
  follow the pattern, under identifiers that are all different;
* if there are none, then each field has one lot, tower by tower in the order of the fields, and its
  text is not empty and, unless it is that of the inverter, is a serial number; and these are the
  lots in the protocol of any installation with these serial numbers. -/
theorem serialNumbers_kept (s : StorageSystem) (proposed : SerialNumberDefaults)
    {values : TowerValues} (hvalues : values.AreWritable) :
    let towers := (s.serialNumberSchema proposed).towers
    let given := fun (t : Tower) (f : Field) => f.given (values.ofTower t)
    ∃ numbers complaints,
      (s.serialNumberSchema proposed).collect values = .ok (numbers, complaints) ∧
      (∀ t fs, (t, fs) ∈ towers → numbers.ofTower t = fs.map fun f =>
        ⟨f.label, if (given t f).isBlank then none else some (given t f).trimmed⟩) ∧
      (∀ t, (∀ fs, (t, fs) ∉ towers) → numbers.ofTower t = []) ∧
      complaints = (towers.flatMap fun p => p.2.filterMap fun f =>
        (f.fault? (given p.1 f)).map fun c => (p.1.fieldId f.key, c)) ∧
      (towers.flatMap fun p => p.2.map fun f => p.1.fieldId f.key).Nodup ∧
      (complaints = [] →
        (numbers.lots = towers.flatMap fun p => p.2.map fun f =>
          ⟨p.1.lotCategory, s!"{f.label} Seriennummer", (given p.1 f).trimmed⟩) ∧
        (∀ (d : Installation) edgeId p, d.battery.serialNumbers = numbers →
          d.protocol edgeId = .ok p → p.lots = numbers.lots) ∧
        ∀ t fs f, (t, fs) ∈ towers → f ∈ fs → (given t f).trimmed ≠ "" ∧
          (f.key ≠ "batteryInverter" → IsSerialNumber (given t f).trimmed.toList)) := by
  obtain ⟨numbers, complaints, hcollect, h⟩ := exists_collected s proposed hvalues
  refine ⟨numbers, complaints, hcollect, h.entries, h.others, h.complaints_eq, h.nodup_ids,
    fun hnone => ⟨h.lots_eq hnone, fun d edgeId p hd hp => ?_, h.isSerialNumber hnone⟩⟩
  obtain ⟨items, -, hp⟩ := exists_of_bind_eq_ok hp
  obtain rfl := Except.ok.inj hp
  exact congrArg SerialNumbers.lots hd

/-- A form in which a text with blanks and a number are typed, and the modules are as shown. -/
def typedTowers : TowerValues :=
  [(1, [("emsBox", .str " EMS0000001 "), ("bmsBox", .int 1234567890)])]

theorem serialNumbers_kept_typed :
    let schema := home.serialNumberSchema ⟨1, 4, some "IN1", .live⟩
    typedTowers.AreWritable ∧
    ∃ numbers, schema.collect typedTowers = .ok (numbers, []) ∧
      numbers.lots.map (fun l => (l.name, l.serialNumber)) =
        [("Home - Wechselrichter Seriennummer", "IN1"),
          ("Home - EMS Box Seriennummer", "EMS0000001"),
          ("Home - BMS Box & Sockel Seriennummer", "1234567890"),
          ("Home - Batteriemodul 1 Seriennummer", defaultModule),
          ("Home - Batteriemodul 2 Seriennummer", defaultModule),
          ("Home - Batteriemodul 3 Seriennummer", defaultModule),
          ("Home - Batteriemodul 4 Seriennummer", defaultModule)] := by
  intro schema
  have hwritable : typedTowers.AreWritable := by
    intro t key v hv
    have hmem := Assoc.mem_of_get? hv
    cases t with
    | first =>
      rcases List.mem_pair.mp hmem with h | h
      · rw [(Prod.mk.inj h).2]
        exact Json.isWritable_str _
      · rw [(Prod.mk.inj h).2, Json.isWritable_int]
        decide
    | second => cases hmem
    | third => cases hmem
  obtain ⟨numbers, complaints, hcollect, -, -, hcomplaints, -, hlots⟩ :=
    serialNumbers_kept home ⟨1, 4, some "IN1", .live⟩ hwritable
  have hnone : complaints = [] := hcomplaints.trans (by decide +kernel)
  refine ⟨hwritable, numbers, hnone ▸ hcollect, ?_⟩
  rw [(hlots hnone).1]
  decide +kernel

end StorageSystem

end Commissioning
