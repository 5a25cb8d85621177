import Commissioning.Proofs.Installation.Writable
import Commissioning.Proofs.Intake.Leafwise

/-!
# The leaves of an installation

Every record of an installation with its leaves, from the smallest to the whole
(`Commissioning.Installation.leaves`): 33 values that are read as a whole, lists among them, and the
places of the nine records inside (`Commissioning.Installation.places`). That these are the values
that the readers read, each under its path, is what makes the readers leafwise
(`Commissioning.Installation.leafwise`); that they are written under the same paths is shown beside
it (`Commissioning.Installation.stands`), and that there is nothing else in an installation follows
from both (`Commissioning.Installation.eq_of_leaves`).

**What a patch makes of an installation** (`Commissioning.Installation.Becomes`) can therefore be
told leaf by leaf (`Commissioning.Installation.becomes_iff`). Whether it is accepted does not depend
on the installation at all, so it is accepted again where it has been accepted, and patches for
different leaves can be laid in either order (`Commissioning.Installation.Becomes.swap`).
-/

namespace Commissioning

open Leafwise

/-- The leaves of a contact. -/
def Contact.leaves : List (Leaf Contact) :=
  [⟨["first_name"], Intake.text, .str, firstName⟩, ⟨["last_name"], Intake.text, .str, lastName⟩,
   ⟨["street"], Intake.text, .str, street⟩, ⟨["zip"], Intake.text, .str, zip⟩,
   ⟨["city"], Intake.text, .str, city⟩, ⟨["country"], Intake.text, .str, country⟩,
   ⟨["email"], Intake.text, .str, email⟩, ⟨["phone"], Intake.text, .str, phone⟩]

theorem Contact.leafwise : Leafwise leaves [] id ofMembers := by
  have hmembers := (leaf "first_name" Intake.text .str firstName "")
    |>.pair (leaf "last_name" Intake.text .str lastName "")
    |>.pair (leaf "street" Intake.text .str street "")
    |>.pair (leaf "zip" Intake.text .str zip "")
    |>.pair (leaf "city" Intake.text .str city "")
    |>.pair (leaf "country" Intake.text .str country "de")
    |>.pair (leaf "email" Intake.text .str email "")
    |>.pair (leaf "phone" Intake.text .str phone "")
  exact hmembers.record (fun ms => by simp only [ofMembers, Checked.map_seq]; rfl)
    (fun _ => rfl) (fun _ => rfl)

/-- The leaves of a customer. -/
def Customer.leaves : List (Leaf Customer) :=
  [⟨["is_corporate_client"], Intake.flag, .bool, isCorporateClient⟩,
   ⟨["company_name"], Intake.optional Intake.text, Json.ofOptionStr, companyName⟩] ++
    Contact.leaves.map (·.among contact)

theorem Customer.leafwise : Leafwise leaves [] id ofMembers := by
  have hmembers := (leaf "is_corporate_client" Intake.flag .bool isCorporateClient false)
    |>.pair (leaf "company_name" (Intake.optional Intake.text) Json.ofOptionStr companyName none)
    |>.pair (Contact.leafwise.among contact)
  exact hmembers.record (fun ms => by simp only [ofMembers, Checked.map_seq]; rfl)
    (fun _ => rfl) (fun _ => rfl)

/-- The leaves of a location. -/
def Location.leaves : List (Leaf Location) :=
  [⟨["is_equal_to_customer_data"], Intake.flag, .bool, isEqualToCustomerData⟩,
   ⟨["company_name"], Intake.optional Intake.text, Json.ofOptionStr, companyName⟩] ++
    Contact.leaves.map (·.among contact)

theorem Location.leafwise : Leafwise leaves [] id ofMembers := by
  have hmembers :=
    (leaf "is_equal_to_customer_data" Intake.flag .bool isEqualToCustomerData true)
    |>.pair (leaf "company_name" (Intake.optional Intake.text) Json.ofOptionStr companyName none)
    |>.pair (Contact.leafwise.among contact)
  exact hmembers.record (fun ms => by simp only [ofMembers, Checked.map_seq]; rfl)
    (fun _ => rfl) (fun _ => rfl)

/-- A list of records is written record by record. -/
def Json.ofList {α : Type} (write : α → Json) (as : List α) : Json := .arr (as.map write)

/-- The leaves of the photovoltaic part: its lists. -/
def Photovoltaics.leaves : List (Leaf Photovoltaics) :=
  [⟨["dc"], Intake.list (DcString.intake .value), Json.ofList DcString.toJson, dc⟩,
   ⟨["ac"], Intake.list (AcProducer.intake .value), Json.ofList AcProducer.toJson, ac⟩]

theorem Photovoltaics.leafwise : Leafwise leaves [] id (ofMembers .value) := by
  have hmembers := (leaf "dc" (Intake.list (DcString.intake .value)) (Json.ofList DcString.toJson)
      dc [{}, {}])
    |>.pair (leaf "ac" (Intake.list (AcProducer.intake .value)) (Json.ofList AcProducer.toJson)
      ac [])
  exact hmembers.record (fun ms => by simp only [ofMembers, Checked.map_seq]; rfl)
    (fun _ => rfl) (fun _ => rfl)

/-- The leaves of a reserve. -/
def EmergencyReserve.leaves : List (Leaf EmergencyReserve) :=
  [⟨["is_enabled"], Intake.flag, .bool, isEnabled⟩,
   ⟨["value"], Intake.integerWithin 0 100, .int, value⟩]

theorem EmergencyReserve.leafwise : Leafwise leaves [] id ofMembers := by
  have hmembers := (leaf "is_enabled" Intake.flag .bool isEnabled false)
    |>.pair (leaf "value" (Intake.integerWithin 0 100) .int value 20)
  exact hmembers.record (fun ms => by simp only [ofMembers, Checked.map_seq]; rfl)
    (fun _ => rfl) (fun _ => rfl)

/-- The leaves of the serial numbers: the lists of the towers. -/
def SerialNumbers.leaves : List (Leaf SerialNumbers) :=
  [⟨["tower1"], Intake.list SerialNumber.intake, Json.ofList SerialNumber.toJson, tower1⟩,
   ⟨["tower2"], Intake.list SerialNumber.intake, Json.ofList SerialNumber.toJson, tower2⟩,
   ⟨["tower3"], Intake.list SerialNumber.intake, Json.ofList SerialNumber.toJson, tower3⟩]

theorem SerialNumbers.leafwise : Leafwise leaves [] id ofMembers := by
  have htower := fun name get => leaf (R := SerialNumbers) name (Intake.list SerialNumber.intake)
    (Json.ofList SerialNumber.toJson) get []
  have hmembers := (htower "tower1" tower1).pair (htower "tower2" tower2)
    |>.pair (htower "tower3" tower3)
  exact hmembers.record (fun ms => by simp only [ofMembers, Checked.map_seq]; rfl)
    (fun _ => rfl) (fun _ => rfl)

/-- The leaves of a battery. -/
def Battery.leaves : List (Leaf Battery) :=
  EmergencyReserve.leaves.map (·.inside "emergency_reserve" emergencyReserve) ++
    SerialNumbers.leaves.map (·.inside "serial_numbers" serialNumbers)

theorem Battery.leafwise :
    Leafwise leaves [["emergency_reserve"], ["serial_numbers"]] id ofMembers := by
  have hmembers := (EmergencyReserve.leafwise.inside "emergency_reserve" "EmergencyReserve" {}
      emergencyReserve)
    |>.pair (SerialNumbers.leafwise.inside "serial_numbers" "SerialNumbers" {} serialNumbers)
  exact hmembers.record (fun ms => by simp only [ofMembers, Checked.map_seq]; rfl)
    (fun _ => rfl) (fun _ => rfl)

/-- The leaves of a limitation. -/
def FeedInLimitation.leaves : List (Leaf FeedInLimitation) :=
  [⟨["feed_in_setting"], FeedInSetting.intake, FeedInSetting.toJson, feedInSetting⟩,
   ⟨["fixed_power_factor"], Intake.optional Intake.text, Json.ofOptionStr, fixedPowerFactor⟩,
   ⟨["maximum_feed_in_power"], Intake.optional Intake.integer, Json.ofOptionInt,
    maximumFeedInPower⟩]

theorem FeedInLimitation.leafwise : Leafwise leaves [] id ofMembers := by
  have hmembers :=
    (leaf "feed_in_setting" FeedInSetting.intake FeedInSetting.toJson feedInSetting .quEnableCurve)
    |>.pair (leaf "fixed_power_factor" (Intake.optional Intake.text) Json.ofOptionStr
      fixedPowerFactor none)
    |>.pair (leaf "maximum_feed_in_power" (Intake.optional Intake.integer) Json.ofOptionInt
      maximumFeedInPower none)
  exact hmembers.record (fun ms => by simp only [ofMembers, Checked.map_seq]; rfl)
    (fun _ => rfl) (fun _ => rfl)

/-- The leaves of an inverter. -/
def BatteryInverter.leaves : List (Leaf BatteryInverter) :=
  FeedInLimitation.leaves.map (·.inside "dynamic_feed_in_limitation" feedInLimitation)

theorem BatteryInverter.leafwise :
    Leafwise leaves [["dynamic_feed_in_limitation"]] id ofMembers := by
  have hmembers := FeedInLimitation.leafwise.inside "dynamic_feed_in_limitation"
    "DynamicFeedInLimitation" {} feedInLimitation
  exact hmembers.record (fun ms => rfl) (fun _ => rfl) (fun _ => rfl)

/-- The leaves of a fuse. -/
def LineSideMeterFuse.leaves : List (Leaf LineSideMeterFuse) :=
  [⟨["fixed_value"], Intake.optional Intake.integer, Json.ofOptionInt, fixedValue⟩,
   ⟨["other_value"], Intake.optional Intake.integer, Json.ofOptionInt, otherValue⟩]

theorem LineSideMeterFuse.leafwise : Leafwise leaves [] id ofMembers := by
  have hmembers :=
    (leaf "fixed_value" (Intake.optional Intake.integer) Json.ofOptionInt fixedValue none)
    |>.pair (leaf "other_value" (Intake.optional Intake.integer) Json.ofOptionInt otherValue none)
  exact hmembers.record (fun ms => by simp only [ofMembers, Checked.map_seq]; rfl)
    (fun _ => rfl) (fun _ => rfl)

namespace Installation

/-- **The leaves of an installation.** -/
def leaves : List (Leaf Installation) :=
  Customer.leaves.map (·.inside "customer" customer) ++
  Location.leaves.map (·.inside "location" location) ++
  Photovoltaics.leaves.map (·.inside "pv" pv) ++
  Battery.leaves.map (·.inside "battery" battery) ++
  BatteryInverter.leaves.map (·.inside "battery_inverter" batteryInverter) ++
  LineSideMeterFuse.leaves.map (·.inside "line_side_meter_fuse" lineSideMeterFuse) ++
  [⟨["setup_protocol_id"], Intake.optional Intake.text, Json.ofOptionStr, setupProtocolId⟩]

/-- The places of the records in an installation. -/
def places : List (List String) :=
  [["customer"], ["location"], ["pv"], ["battery"], ["battery", "emergency_reserve"],
   ["battery", "serial_numbers"], ["battery_inverter"],
   ["battery_inverter", "dynamic_feed_in_limitation"], ["line_side_meter_fuse"]]

/-- **An installation is read leaf by leaf.** -/
theorem leafwise : Leafwise leaves places id (ofMembers .value) := by
  have hmembers := (Customer.leafwise.inside "customer" "Customer" {} customer)
    |>.pair (Location.leafwise.inside "location" "Location" {} location)
    |>.pair (Photovoltaics.leafwise.inside "pv" "Pv" {} pv)
    |>.pair (Battery.leafwise.inside "battery" "Battery" {} battery)
    |>.pair (BatteryInverter.leafwise.inside "battery_inverter" "BatteryInverter" {}
      batteryInverter)
    |>.pair (LineSideMeterFuse.leafwise.inside "line_side_meter_fuse" "LineSideMeterFuse" {}
      lineSideMeterFuse)
    |>.pair (leaf "setup_protocol_id" (Intake.optional Intake.text) Json.ofOptionStr
      setupProtocolId none)
  exact hmembers.record (fun ms => by simp only [ofMembers, Checked.map_seq]; rfl)
    (fun _ => rfl) (fun _ => rfl)

end Installation

/-! ### The document of an installation -/

theorem Json.ofOptionStr_ne_obj (s : Option String) (ms : Members) : ofOptionStr s ≠ .obj ms := by
  cases s <;> nofun

theorem Json.ofOptionInt_ne_obj (i : Option Int) (ms : Members) : ofOptionInt i ≠ .obj ms := by
  cases i <;> nofun

section Stands

variable {ms : Members}

theorem Customer.stands {c : Customer} (hms : c.toJson = .obj ms) :
    ∀ leaf ∈ leaves, leaf.Stands ms c := by
  obtain rfl := (Json.obj.inj hms).symm
  simp [leaves, Contact.leaves, Contact.members, Leaf.among, Leaf.stands_iff, valueAt?, Json.at?,
    Assoc.get?, Json.ofOptionStr_ne_obj]

theorem Location.stands {l : Location} (hms : l.toJson = .obj ms) :
    ∀ leaf ∈ leaves, leaf.Stands ms l := by
  obtain rfl := (Json.obj.inj hms).symm
  simp [leaves, Contact.leaves, Contact.members, Leaf.among, Leaf.stands_iff, valueAt?, Json.at?,
    Assoc.get?, Json.ofOptionStr_ne_obj]

theorem Photovoltaics.stands {p : Photovoltaics} (hms : p.toJson = .obj ms) :
    ∀ leaf ∈ leaves, leaf.Stands ms p := by
  obtain rfl := (Json.obj.inj hms).symm
  have hdc : Intake.list (DcString.intake .value) (.arr (p.dc.map DcString.toJson)) =
      .valid p.dc := Intake.list_map fun s _ => DcString.intake_toJson .value s
  have hac : Intake.list (AcProducer.intake .value) (.arr (p.ac.map AcProducer.toJson)) =
      .valid p.ac := Intake.list_map fun a _ => AcProducer.intake_toJson .value a
  simp [leaves, Leaf.stands_iff, valueAt?, Json.at?, Assoc.get?, Json.ofList, hdc, hac]

theorem EmergencyReserve.stands {r : EmergencyReserve} (h : r.InBounds)
    (hms : r.toJson = .obj ms) : ∀ leaf ∈ leaves, leaf.Stands ms r := by
  obtain rfl := (Json.obj.inj hms).symm
  have hvalue : Intake.integerWithin 0 100 (.int r.value) = .valid r.value :=
    Intake.integerWithin_int h
  simp [leaves, Leaf.stands_iff, valueAt?, Json.at?, Assoc.get?, hvalue]

theorem SerialNumbers.stands {n : SerialNumbers} (hms : n.toJson = .obj ms) :
    ∀ leaf ∈ leaves, leaf.Stands ms n := by
  obtain rfl := (Json.obj.inj hms).symm
  have htower : ∀ tower : List SerialNumber,
      Intake.list SerialNumber.intake (.arr (tower.map SerialNumber.toJson)) = .valid tower :=
    fun tower => Intake.list_map fun n _ => SerialNumber.intake_toJson n
  simp [leaves, Leaf.stands_iff, valueAt?, Json.at?, Assoc.get?, Json.ofList, htower]

theorem Battery.stands {b : Battery} (h : b.emergencyReserve.InBounds) (hms : b.toJson = .obj ms) :
    ∀ leaf ∈ leaves, leaf.Stands ms b := by
  obtain rfl := (Json.obj.inj hms).symm
  refine List.forall_mem_append.mpr ⟨?_, ?_⟩ <;> rw [List.forall_mem_map]
  · exact fun leaf hleaf => (EmergencyReserve.stands h rfl leaf hleaf).inside rfl
  · exact fun leaf hleaf => (SerialNumbers.stands rfl leaf hleaf).inside rfl

theorem FeedInLimitation.stands {l : FeedInLimitation} (hms : l.toJson = .obj ms) :
    ∀ leaf ∈ leaves, leaf.Stands ms l := by
  obtain rfl := (Json.obj.inj hms).symm
  have hsetting : ∀ members, l.feedInSetting.toJson ≠ .obj members := by
    rintro members ⟨⟩
  simp [leaves, Leaf.stands_iff, valueAt?, Json.at?, Assoc.get?, Json.ofOptionStr_ne_obj,
    Json.ofOptionInt_ne_obj, hsetting]

theorem BatteryInverter.stands {b : BatteryInverter} (hms : b.toJson = .obj ms) :
    ∀ leaf ∈ leaves, leaf.Stands ms b := by
  obtain rfl := (Json.obj.inj hms).symm
  rw [leaves, List.forall_mem_map]
  exact fun leaf hleaf => (FeedInLimitation.stands rfl leaf hleaf).inside rfl

theorem LineSideMeterFuse.stands {f : LineSideMeterFuse} (hms : f.toJson = .obj ms) :
    ∀ leaf ∈ leaves, leaf.Stands ms f := by
  obtain rfl := (Json.obj.inj hms).symm
  simp [leaves, Leaf.stands_iff, valueAt?, Json.at?, Assoc.get?, Json.ofOptionInt_ne_obj]

end Stands

namespace Installation

variable {d d' e e' : Installation} {patch patch' : Members}

/-- **The document of an installation** has each of its leaves. -/
theorem stands (h : d.InBounds) : ∀ leaf ∈ leaves, leaf.Stands d.members d := by
  simp only [leaves, List.forall_mem_append, List.forall_mem_map, List.forall_mem_singleton]
  refine ⟨⟨⟨⟨⟨⟨?_, ?_⟩, ?_⟩, ?_⟩, ?_⟩, ?_⟩, ?_⟩
  · exact fun leaf hleaf => (Customer.stands rfl leaf hleaf).inside rfl
  · exact fun leaf hleaf => (Location.stands rfl leaf hleaf).inside rfl
  · exact fun leaf hleaf => (Photovoltaics.stands rfl leaf hleaf).inside rfl
  · exact fun leaf hleaf => (Battery.stands h rfl leaf hleaf).inside rfl
  · exact fun leaf hleaf => (BatteryInverter.stands rfl leaf hleaf).inside rfl
  · exact fun leaf hleaf => (LineSideMeterFuse.stands rfl leaf hleaf).inside rfl
  · exact ⟨rfl, Json.ofOptionStr_ne_obj _, Intake.optional_ofOptionStr _⟩

theorem laid (h : d.InBounds) (hpatch : Json.IsTidy (.obj patch)) :
    Laid leaves d.members d patch :=
  ⟨d.isRegular_toJson.isTidy, hpatch, stands h⟩

/-- **What can be written** is told by the leaves. -/
theorem isWritable_iff_leaves :
    d.IsWritable ↔ ∀ leaf ∈ leaves, Json.IsWritable (leaf.write (leaf.get d)) := by
  simp [isWritable_iff, leaves, Customer.leaves, Location.leaves, Contact.leaves,
    Photovoltaics.leaves, Battery.leaves, EmergencyReserve.leaves, SerialNumbers.leaves,
    BatteryInverter.leaves, FeedInLimitation.leaves, LineSideMeterFuse.leaves, Leaf.inside,
    Leaf.among, Customer.toJson, Location.toJson, Contact.members, Photovoltaics.toJson,
    EmergencyReserve.toJson, BatteryInverter.toJson, FeedInLimitation.toJson, FeedInSetting.toJson,
    LineSideMeterFuse.toJson, Json.ofList, and_assoc]

/-! ### Patches -/

/-- Laying a patch over an installation makes another one of it. -/
def Becomes (d : Installation) (patch : Members) (d' : Installation) : Prop :=
  ofMembers .value (Json.merge d.members patch) = .valid d'

/-- The patches do not both address a leaf. -/
def Apart (patch patch' : Members) : Prop :=
  ∀ leaf ∈ leaves, valueAt? patch leaf.path = none ∨ valueAt? patch' leaf.path = none

/-- A patch has the leaves of another, and no value in the place of a record. What else the two have
may differ. -/
structure Resembles (patch patch' : Members) : Prop where
  places : ∀ path ∈ places, ObjectAt patch path
  leaves : ∀ leaf ∈ leaves, valueAt? patch leaf.path = valueAt? patch' leaf.path

theorem Becomes.inBounds (h : d.Becomes patch d') : d'.InBounds := inBounds_of_ofMembers h

/-- **What a patch makes of an installation** is told leaf by leaf. -/
theorem becomes_iff (hd : d.InBounds) (hpatch : Json.IsTidy (.obj patch)) :
    d.Becomes patch d' ↔ (∀ path ∈ places, ObjectAt patch path) ∧
      ∀ leaf ∈ leaves, leaf.Follows patch d d' :=
  leafwise.valid_iff (laid hd hpatch) d'

/-- **Whether a patch is accepted** does not depend on the installation. -/
theorem exists_becomes_iff (hd : d.InBounds) (hpatch : Json.IsTidy (.obj patch)) :
    (∃ d', d.Becomes patch d') ↔ (∀ path ∈ places, ObjectAt patch path) ∧
      ∀ leaf ∈ leaves, leaf.Readable patch :=
  leafwise.accepts_iff (laid hd hpatch)

/-- **The leaves are all that there is** of an installation. -/
theorem eq_of_leaves (hd : d.InBounds) (h : ∀ leaf ∈ leaves, leaf.get d' = leaf.get d) :
    d' = d := by
  have hempty : Json.IsTidy (.obj []) := by
    simp [Json.IsTidy, Json.HaveTidy]
  -- A patch that addresses no leaf makes an installation with the same leaves, and only one.
  have hself : d.Becomes [] d := ofMembers_members .value hd
  have hother : d.Becomes [] d' := by
    refine (becomes_iff hd hempty).mpr ⟨((becomes_iff hd hempty).mp hself).1, fun leaf hleaf => ?_⟩
    have hpath := leafwise.path_ne_nil leaf hleaf
    obtain ⟨name, rest, hcons⟩ := List.exists_cons_of_ne_nil hpath
    rw [Leaf.follows_of_none (hcons ▸ valueAt?_cons_of_none rfl rest)]
    exact h leaf hleaf
  exact Checked.valid.inj (hother.symm.trans hself)

/-- **Once is as good as twice.** -/
theorem Becomes.again (h : d.Becomes patch d') (hd : d.InBounds)
    (hpatch : Json.IsTidy (.obj patch)) : d'.Becomes patch d' := by
  obtain ⟨hplaces, hleaves⟩ := (becomes_iff hd hpatch).mp h
  rw [becomes_iff h.inBounds hpatch]
  exact ⟨hplaces, fun leaf hleaf => (hleaves leaf hleaf).again⟩

/-- **What else is in a patch** has no effect. -/
theorem Becomes.congr (h : d.Becomes patch d') (hd : d.InBounds)
    (hpatch : Json.IsTidy (.obj patch)) (hpatch' : Json.IsTidy (.obj patch'))
    (hsame : Resembles patch' patch) : d.Becomes patch' d' := by
  rw [becomes_iff hd hpatch']
  refine ⟨hsame.places, fun leaf hleaf => ?_⟩
  rw [Leaf.Follows, hsame.leaves leaf hleaf]
  exact ((becomes_iff hd hpatch).mp h).2 leaf hleaf

/-- **Patches for different leaves** can be laid in either order, with the same result. -/
theorem Becomes.swap (h : d.Becomes patch e) (h' : d.Becomes patch' e') (hd : d.InBounds)
    (hpatch : Json.IsTidy (.obj patch)) (hpatch' : Json.IsTidy (.obj patch'))
    (hapart : Apart patch patch') :
    ∃ d', e.Becomes patch' d' ∧ e'.Becomes patch d' ∧
      (e.IsWritable → e'.IsWritable → d'.IsWritable) := by
  -- Whether a patch is accepted does not depend on what it is laid over.
  obtain ⟨t, ht⟩ : ∃ t, e.Becomes patch' t :=
    (exists_becomes_iff h.inBounds hpatch').mpr ((exists_becomes_iff hd hpatch').mp ⟨e', h'⟩)
  obtain ⟨t', ht'⟩ : ∃ t', e'.Becomes patch t' :=
    (exists_becomes_iff h'.inBounds hpatch).mpr ((exists_becomes_iff hd hpatch).mp ⟨e, h⟩)
  have hswap : ∀ leaf ∈ leaves, leaf.get t = leaf.get t' ∧
      (leaf.get t = leaf.get e ∨ leaf.get t = leaf.get e') := fun leaf hleaf =>
    (((becomes_iff hd hpatch).mp h).2 leaf hleaf).swap
      (((becomes_iff hd hpatch').mp h').2 leaf hleaf)
      (((becomes_iff h.inBounds hpatch').mp ht).2 leaf hleaf)
      (((becomes_iff h'.inBounds hpatch).mp ht').2 leaf hleaf) (hapart leaf hleaf)
  obtain rfl : t = t' := eq_of_leaves ht'.inBounds fun leaf hleaf => (hswap leaf hleaf).1
  refine ⟨t, ht, ht', fun hwritable hwritable' => ?_⟩
  rw [isWritable_iff_leaves] at hwritable hwritable' ⊢
  intro leaf hleaf
  rcases (hswap leaf hleaf).2 with hsame | hsame
  · exact hsame ▸ hwritable leaf hleaf
  · exact hsame ▸ hwritable' leaf hleaf

end Installation

end Commissioning
