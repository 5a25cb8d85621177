import Commissioning.Installation.Basic
import Commissioning.Installation.Edge
import Commissioning.Proofs.Json.StoredRoundTrip

/-!
# Installations as documents

The document of an installation meets the two conditions under which documents are read back:
it is regular, that is, no object in it has two members of one name and none of its texts is torn
(`Commissioning.Installation.isRegular_toJson`), and it has at most six levels, however long its
lists are (`Commissioning.Installation.height_toJson_le`). The document of a device without torn
texts is flat (`Commissioning.Edge.isFlat_toJson`).

An installation cannot be written when one of its whole numbers is too long. Its texts do not
matter: neither the serial numbers nor the identifier of a protocol decide whether it can be
written (`Commissioning.Installation.isWritable_withSerialNumbers`,
`Commissioning.Installation.isWritable_withProtocolId`).
-/

namespace Commissioning

namespace Json

@[simp] theorem isRegular_ofOptionStr (s : Option String) : IsRegular (ofOptionStr s) := by
  cases s <;> simp [ofOptionStr]

@[simp] theorem isRegular_ofOptionInt (i : Option Int) : IsRegular (ofOptionInt i) := by
  cases i <;> simp [ofOptionInt]

@[simp] theorem isRegular_ofOptionFloat (x : Option Binary64) : IsRegular (ofOptionFloat x) := by
  cases x <;> simp [ofOptionFloat]

@[simp] theorem height_ofOptionStr (s : Option String) : height (ofOptionStr s) = 1 := by
  cases s <;> rfl

@[simp] theorem height_ofOptionInt (i : Option Int) : height (ofOptionInt i) = 1 := by
  cases i <;> rfl

@[simp] theorem height_ofOptionFloat (x : Option Binary64) : height (ofOptionFloat x) = 1 := by
  cases x <;> rfl

@[simp] theorem isWritable_ofOptionStr (s : Option String) : IsWritable (ofOptionStr s) := by
  cases s <;> rfl

theorem itemsHeight_map_le {α : Type} {write : α → Json} {as : List α} {n : Nat}
    (h : ∀ a ∈ as, height (write a) ≤ n) : itemsHeight (as.map write) ≤ n :=
  itemsHeight_le (by simpa using h)

end Json

open Json

/-! ### The records -/

@[simp] theorem Customer.isRegular_toJson (c : Customer) : IsRegular c.toJson := by
  simp [toJson, Contact.members]

@[simp] theorem Customer.height_toJson (c : Customer) : height c.toJson = 2 := by
  simp [toJson, Contact.members, height, membersHeight]

@[simp] theorem Location.isRegular_toJson (l : Location) : IsRegular l.toJson := by
  simp [toJson, Contact.members]

@[simp] theorem Location.height_toJson (l : Location) : height l.toJson = 2 := by
  simp [toJson, Contact.members, height, membersHeight]

@[simp] theorem DcString.isRegular_toJson (s : DcString) : IsRegular s.toJson := by
  simp [toJson]

@[simp] theorem DcString.height_toJson (s : DcString) : height s.toJson = 2 := by
  simp [toJson, height, membersHeight]

@[simp] theorem AcProducer.isRegular_toJson (p : AcProducer) : IsRegular p.toJson := by
  simp [toJson, Meter.toJson]

@[simp] theorem AcProducer.height_toJson (p : AcProducer) : height p.toJson = 2 := by
  simp [toJson, Meter.toJson, height, membersHeight]

@[simp] theorem Photovoltaics.isRegular_toJson (p : Photovoltaics) : IsRegular p.toJson := by
  simp [toJson]

theorem Photovoltaics.height_toJson_le (p : Photovoltaics) : height p.toJson ≤ 4 := by
  have hdc := itemsHeight_map_le fun s (_ : s ∈ p.dc) => Nat.le_of_eq s.height_toJson
  have hac := itemsHeight_map_le fun s (_ : s ∈ p.ac) => Nat.le_of_eq s.height_toJson
  simp only [toJson, height, membersHeight]
  omega

@[simp] theorem SerialNumber.isRegular_toJson (s : SerialNumber) : IsRegular s.toJson := by
  simp [toJson]

@[simp] theorem SerialNumber.height_toJson (s : SerialNumber) : height s.toJson = 2 := by
  simp [toJson, height, membersHeight]

@[simp] theorem SerialNumber.isWritable_toJson (s : SerialNumber) : IsWritable s.toJson := by
  simp [toJson]

@[simp] theorem SerialNumbers.isRegular_toJson (s : SerialNumbers) : IsRegular s.toJson := by
  simp [toJson]

theorem SerialNumbers.height_toJson_le (s : SerialNumbers) : height s.toJson ≤ 4 := by
  have htower := fun tower : List SerialNumber =>
    itemsHeight_map_le fun n (_ : n ∈ tower) => Nat.le_of_eq n.height_toJson
  have h1 := htower s.tower1
  have h2 := htower s.tower2
  have h3 := htower s.tower3
  simp only [toJson, height, membersHeight]
  omega

@[simp] theorem SerialNumbers.isWritable_toJson (s : SerialNumbers) : IsWritable s.toJson := by
  simp [toJson]

@[simp] theorem Battery.isRegular_toJson (b : Battery) : IsRegular b.toJson := by
  simp [toJson, EmergencyReserve.toJson]

theorem Battery.height_toJson_le (b : Battery) : height b.toJson ≤ 5 := by
  have hnumbers := b.serialNumbers.height_toJson_le
  simp only [toJson, EmergencyReserve.toJson, height, membersHeight]
  omega

@[simp] theorem BatteryInverter.isRegular_toJson (b : BatteryInverter) : IsRegular b.toJson := by
  simp [toJson, FeedInLimitation.toJson, FeedInSetting.toJson]

@[simp] theorem BatteryInverter.height_toJson (b : BatteryInverter) : height b.toJson = 3 := by
  simp [toJson, FeedInLimitation.toJson, FeedInSetting.toJson, height, membersHeight]

@[simp] theorem LineSideMeterFuse.isRegular_toJson (f : LineSideMeterFuse) :
    IsRegular f.toJson := by
  simp [toJson]

@[simp] theorem LineSideMeterFuse.height_toJson (f : LineSideMeterFuse) :
    height f.toJson = 2 := by
  simp [toJson, height, membersHeight]

/-! ### The installation -/

namespace Installation

/-- **No object in it has two members of one name.** -/
@[simp] theorem isRegular_toJson (d : Installation) : IsRegular d.toJson := by
  simp [toJson, members]

/-- **It has at most six levels.** -/
theorem height_toJson_le (d : Installation) : height d.toJson ≤ 6 := by
  have hpv := d.pv.height_toJson_le
  have hbattery := d.battery.height_toJson_le
  simp only [toJson, members, height, membersHeight, Customer.height_toJson,
    Location.height_toJson, BatteryInverter.height_toJson, LineSideMeterFuse.height_toJson,
    height_ofOptionStr]
  omega

/-- Every whole number of the data can be written. -/
def IsWritable (d : Installation) : Prop := Json.IsWritable d.toJson

theorem isWritable_iff {d : Installation} : d.IsWritable ↔
    Json.IsWritable d.customer.toJson ∧ Json.IsWritable d.location.toJson ∧
      Json.IsWritable d.pv.toJson ∧ Json.IsWritable d.battery.emergencyReserve.toJson ∧
      Json.IsWritable d.batteryInverter.toJson ∧ Json.IsWritable d.lineSideMeterFuse.toJson := by
  simp [IsWritable, toJson, members, Battery.toJson]

/-- **Serial numbers** do not decide whether the data can be written. -/
theorem isWritable_withSerialNumbers {d : Installation} (h : d.IsWritable)
    (numbers : SerialNumbers) :
    IsWritable { d with battery := { d.battery with serialNumbers := numbers } } := by
  rw [isWritable_iff] at h ⊢
  exact h

/-- **The identifier of a protocol** does not decide whether the data can be written. -/
theorem isWritable_withProtocolId {d : Installation} (h : d.IsWritable) (id : Option String) :
    IsWritable { d with setupProtocolId := id } := by
  rw [isWritable_iff] at h ⊢
  exact h

end Installation

/-! ### The device -/

namespace Edge

/-- None of the texts of the device is torn. -/
def IsWhole (e : Edge) : Prop := e.torn? = none

instance (e : Edge) : Decidable e.IsWhole := inferInstanceAs (Decidable (_ = _))

theorem isWhole_iff {e : Edge} : e.IsWhole ↔ ∀ t ∈ e.looseTexts, ∃ s : String, t = .whole s := by
  rw [IsWhole, torn?, List.findSome?_eq_none_iff]
  refine forall₂_congr fun t _ => ?_
  cases t with
  | whole s => simp [LooseText.torn?]
  | torn t => simp [LooseText.torn?]

/-- A device whose comment is the first half of a pair. -/
def halfCommented : Edge := { id := "edge0", comment := .torn ⟨[.ofCode 0xd800], rfl⟩ }

/-- **The document of a device is flat**, if none of its texts is torn. -/
theorem isFlat_toJson {e : Edge} (h : e.IsWhole) : IsFlat e.toJson := by
  obtain ⟨id, comment, productType, version, role, isOnline⟩ := e
  have hwhole : ∀ t ∈ [comment, productType, version, role], IsPlain t.toJson := by
    intro t ht
    obtain ⟨s, rfl⟩ := isWhole_iff.mp h t ht
    trivial
  simp only [List.forall_mem_cons] at hwhole
  simp [toJson, IsFlat, hwhole, show ∀ s, IsPlain (.str s) from fun _ => trivial,
    show ∀ b, IsPlain (.bool b) from fun _ => trivial]

end Edge

end Commissioning
