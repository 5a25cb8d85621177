import Commissioning.Installation.Basic
import Commissioning.Installation.Edge
import Commissioning.Proofs.Assoc

/-!
# Records, written and read back

Every record of an installation is read back from the document it is written as: the reader
of a member finds the member under its name, and finds in it what the writer of that member
has put there. The lemmas on members, optional values and lists come first, then the records
from the smallest to the whole (`Commissioning.Installation.ofMembers_members`).

Two records are not for every value of their fields: the reserve for a power cut is a
percentage (`Commissioning.EmergencyReserve.InBounds`), and the identifier of a device has one
to 64 characters (`Commissioning.Edge.InBounds`). Whatever a reader accepts is in those bounds
(`Commissioning.Installation.inBounds_of_ofMembers`, `Commissioning.Edge.inBounds_of_intake`),
so a record that was read once is read back as itself from then on.
-/

namespace Commissioning

namespace Checked

variable {α β : Type}

@[simp] theorem under_valid (step : Step) (a : α) : (valid a).under step = .valid a := rfl

@[simp] theorem ensure_valid {ok : α → Bool} {a : α} (h : ok a = true) (cause : Cause) :
    (valid a).ensure ok cause = .valid a := by
  simp [ensure, h]

theorem map_eq_valid {f : α → β} {c : Checked α} {b : β} (h : f <$> c = .valid b) :
    ∃ a, c = .valid a ∧ f a = b := by
  cases c with
  | valid a => exact ⟨a, rfl, Checked.valid.inj h⟩
  | invalid issues => cases h

/-- **Both sides are valid** where a function applied to a value is. -/
theorem seq_eq_valid {c : Checked (α → β)} {d : Checked α} {b : β} (h : c <*> d = .valid b) :
    ∃ f a, c = .valid f ∧ d = .valid a ∧ f a = b := by
  cases c with
  | valid f =>
    obtain ⟨a, rfl, hb⟩ := map_eq_valid (f := f) (c := d) h
    exact ⟨f, a, rfl, rfl, hb⟩
  | invalid issues =>
    cases d <;> cases h

theorem ensure_eq_valid {ok : α → Bool} {cause : Cause} {c : Checked α} {a : α}
    (h : c.ensure ok cause = .valid a) : c = .valid a ∧ ok a = true := by
  cases c with
  | valid b =>
    rw [ensure] at h
    split at h
    · next hok =>
      obtain rfl := Checked.valid.inj h
      exact ⟨rfl, hok⟩
    · cases h
  | invalid issues => cases h

theorem under_eq_valid {step : Step} {c : Checked α} {a : α} (h : c.under step = .valid a) :
    c = .valid a := by
  cases c with
  | valid b => exact h
  | invalid issues => cases h

end Checked

namespace Intake

variable {α : Type}

/-! ### Members, optional values, lists -/

@[simp] theorem text_str (s : String) : text (.str s) = .valid s := rfl

@[simp] theorem looseText_toJson (t : LooseText) : looseText t.toJson = .valid t := by
  cases t <;> rfl

@[simp] theorem wholeText_str (s : String) : wholeText (.str s) = .valid s := rfl

@[simp] theorem flag_bool (b : Bool) : flag (.bool b) = .valid b := rfl

@[simp] theorem optional_ofOptionStr (s : Option String) :
    optional text (Json.ofOptionStr s) = .valid s := by
  cases s <;> rfl

@[simp] theorem optional_ofOptionInt (i : Option Int) :
    optional integer (Json.ofOptionInt i) = .valid i := by
  cases i <;> rfl

@[simp] theorem optional_ofOptionFloat (channel : Channel) (x : Option Binary64) :
    optional (float channel) (Json.ofOptionFloat x) = .valid x := by
  cases x <;> rfl

theorem itemsFrom_map {read : Intake α} {write : α → Json} {as : List α}
    (h : ∀ a ∈ as, read (write a) = .valid a) (n : Nat) :
    itemsFrom read n (as.map write) = .valid as := by
  induction as generalizing n with
  | nil => rfl
  | cons a as ih =>
    rw [List.map_cons, itemsFrom, h a (by simp), ih (fun b hb => h b (by simp [hb])) (n + 1)]
    rfl

/-- **A list is read back** if its items are. -/
theorem list_map {read : Intake α} {write : α → Json} {as : List α}
    (h : ∀ a ∈ as, read (write a) = .valid a) : list read (.arr (as.map write)) = .valid as :=
  itemsFrom_map h 0

/-- **A member** is read from the last value under its name, or is the given one. -/
theorem member_eq_valid {name : String} {read : Intake α} {default a : α} {ms : Members}
    (h : member name read default ms = .valid a) : a = default ∨ ∃ j, read j = .valid a := by
  rw [member] at h
  split at h
  · next j _ => exact Or.inr ⟨j, Checked.under_eq_valid h⟩
  · exact Or.inl (Checked.valid.inj h).symm

theorem required_eq_valid {name : String} {read : Intake α} {a : α} {ms : Members}
    (h : required name read ms = .valid a) : ∃ j, read j = .valid a := by
  rw [required] at h
  split at h
  · next j _ => exact ⟨j, Checked.under_eq_valid h⟩
  · cases h

theorem record_eq_valid {name : String} {read : Members → Checked α} {j : Json} {a : α}
    (h : record name read j = .valid a) : ∃ ms, read ms = .valid a := by
  cases j with
  | obj ms => exact ⟨ms, h⟩
  | _ => cases h

end Intake

/-! ### The customer and the location -/

@[simp] theorem Customer.intake_toJson (c : Customer) : intake c.toJson = .valid c := by
  simp [intake, toJson, Intake.record, ofMembers, Contact.ofMembers, Contact.members,
    Intake.member, Assoc.last?_cons]

@[simp] theorem Location.intake_toJson (l : Location) : intake l.toJson = .valid l := by
  simp [intake, toJson, Intake.record, ofMembers, Contact.ofMembers, Contact.members,
    Intake.member, Assoc.last?_cons]

/-! ### Photovoltaics -/

@[simp] theorem DcString.intake_toJson (channel : Channel) (s : DcString) :
    intake channel s.toJson = .valid s := by
  simp [intake, toJson, Intake.record, ofMembers, Intake.member, Assoc.last?_cons]

@[simp] theorem AcProducer.intake_toJson (channel : Channel) (p : AcProducer) :
    intake channel p.toJson = .valid p := by
  simp [intake, toJson, Intake.record, ofMembers, Intake.member, Assoc.last?_cons]

@[simp] theorem Photovoltaics.intake_toJson (channel : Channel) (p : Photovoltaics) :
    intake channel p.toJson = .valid p := by
  have hdc : Intake.list (DcString.intake channel) (.arr (p.dc.map DcString.toJson)) =
      .valid p.dc := Intake.list_map fun s _ => DcString.intake_toJson channel s
  have hac : Intake.list (AcProducer.intake channel) (.arr (p.ac.map AcProducer.toJson)) =
      .valid p.ac := Intake.list_map fun s _ => AcProducer.intake_toJson channel s
  simp [intake, toJson, Intake.record, ofMembers, Intake.member, Assoc.last?_cons, hdc, hac]

/-! ### The battery -/

/-- The reserve is a percentage. -/
def EmergencyReserve.InBounds (r : EmergencyReserve) : Prop := 0 ≤ r.value ∧ r.value ≤ 100

theorem Intake.integerWithin_int {least most i : Int} (h : least ≤ i ∧ i ≤ most) :
    Intake.integerWithin least most (.int i) = .valid i := by
  simp [Intake.integerWithin, Intake.integer, h.1, h.2]

theorem EmergencyReserve.intake_toJson {r : EmergencyReserve} (h : r.InBounds) :
    intake r.toJson = .valid r := by
  have hvalue : Intake.integerWithin 0 100 (.int r.value) = .valid r.value :=
    Intake.integerWithin_int h
  simp [intake, toJson, Intake.record, ofMembers, Intake.member, Assoc.last?_cons, hvalue]

@[simp] theorem SerialNumber.intake_toJson (s : SerialNumber) : intake s.toJson = .valid s := by
  simp [intake, toJson, Intake.record, ofMembers, Intake.required, Intake.member,
    Assoc.last?_cons]

@[simp] theorem SerialNumbers.intake_toJson (s : SerialNumbers) : intake s.toJson = .valid s := by
  have htower : ∀ tower : List SerialNumber,
      Intake.list SerialNumber.intake (.arr (tower.map SerialNumber.toJson)) = .valid tower :=
    fun tower => Intake.list_map fun n _ => SerialNumber.intake_toJson n
  simp [intake, toJson, Intake.record, ofMembers, Intake.member, Assoc.last?_cons, htower]

theorem Battery.intake_toJson {b : Battery} (h : b.emergencyReserve.InBounds) :
    intake b.toJson = .valid b := by
  simp [intake, toJson, Intake.record, ofMembers, Intake.member, Assoc.last?_cons,
    EmergencyReserve.intake_toJson h]

/-! ### The side of the grid -/

@[simp] theorem FeedInLimitation.intake_toJson (l : FeedInLimitation) :
    intake l.toJson = .valid l := by
  simp [intake, toJson, Intake.record, ofMembers, Intake.member, Assoc.last?_cons]

@[simp] theorem BatteryInverter.intake_toJson (b : BatteryInverter) :
    intake b.toJson = .valid b := by
  simp [intake, toJson, Intake.record, ofMembers, Intake.member, Assoc.last?_cons]

@[simp] theorem LineSideMeterFuse.intake_toJson (f : LineSideMeterFuse) :
    intake f.toJson = .valid f := by
  simp [intake, toJson, Intake.record, ofMembers, Intake.member, Assoc.last?_cons]

/-! ### The installation -/

namespace Installation

/-- The data are in the bounds that their reader sets. -/
def InBounds (d : Installation) : Prop := d.battery.emergencyReserve.InBounds

/-- **An installation is read back** from its members. -/
theorem ofMembers_members (channel : Channel) {d : Installation} (h : d.InBounds) :
    ofMembers channel d.members = .valid d := by
  simp [ofMembers, members, Intake.member, Assoc.last?_cons, Battery.intake_toJson h]

end Installation

theorem EmergencyReserve.inBounds_default : InBounds {} :=
  ⟨show (0 : Int) ≤ 20 by decide, show (20 : Int) ≤ 100 by decide⟩

theorem EmergencyReserve.inBounds_of_intake {j : Json} {r : EmergencyReserve}
    (h : intake j = .valid r) : r.InBounds := by
  obtain ⟨ms, hms⟩ := Intake.record_eq_valid h
  obtain ⟨_, value, h1, hvalue, rfl⟩ := Checked.seq_eq_valid hms
  obtain ⟨isEnabled, -, rfl⟩ := Checked.map_eq_valid h1
  rcases Intake.member_eq_valid hvalue with rfl | ⟨k, hk⟩
  · exact inBounds_default
  · obtain ⟨hmost, hleast⟩ := Checked.ensure_eq_valid hk
    obtain ⟨-, hmost⟩ := Checked.ensure_eq_valid hmost
    exact ⟨of_decide_eq_true hleast, of_decide_eq_true hmost⟩

theorem Battery.inBounds_of_intake {j : Json} {b : Battery} (h : intake j = .valid b) :
    b.emergencyReserve.InBounds := by
  obtain ⟨ms, hms⟩ := Intake.record_eq_valid h
  obtain ⟨_, numbers, h1, -, rfl⟩ := Checked.seq_eq_valid hms
  obtain ⟨reserve, hreserve, rfl⟩ := Checked.map_eq_valid h1
  rcases Intake.member_eq_valid hreserve with rfl | ⟨k, hk⟩
  · exact EmergencyReserve.inBounds_default
  · exact EmergencyReserve.inBounds_of_intake hk

namespace Installation

theorem inBounds_default : InBounds {} := EmergencyReserve.inBounds_default

/-- **What the reader accepts is in bounds.** -/
theorem inBounds_of_ofMembers {channel : Channel} {ms : Members} {d : Installation}
    (h : ofMembers channel ms = .valid d) : d.InBounds := by
  -- The members are taken off from the last to the first; only the battery has bounds.
  obtain ⟨_, _, h6, -, rfl⟩ := Checked.seq_eq_valid h
  obtain ⟨_, _, h5, -, rfl⟩ := Checked.seq_eq_valid h6
  obtain ⟨_, _, h4, -, rfl⟩ := Checked.seq_eq_valid h5
  obtain ⟨_, battery, h3, hbattery, rfl⟩ := Checked.seq_eq_valid h4
  obtain ⟨_, _, h2, -, rfl⟩ := Checked.seq_eq_valid h3
  obtain ⟨_, _, h1, -, rfl⟩ := Checked.seq_eq_valid h2
  obtain ⟨_, -, rfl⟩ := Checked.map_eq_valid h1
  rcases Intake.member_eq_valid hbattery with rfl | ⟨k, hk⟩
  · exact EmergencyReserve.inBounds_default
  · exact Battery.inBounds_of_intake hk

/-- **The values of the reader are the ones in bounds.** -/
theorem inBounds_iff_exists_intake {d : Installation} :
    d.InBounds ↔ ∃ channel j, intake channel j = .valid d := by
  refine ⟨fun h => ⟨.value, d.toJson, ofMembers_members .value h⟩, ?_⟩
  rintro ⟨channel, j, hj⟩
  obtain ⟨ms, hms⟩ := Intake.record_eq_valid hj
  exact inBounds_of_ofMembers hms

end Installation

/-! ### The device -/

namespace Edge

/-- The identifier has one to 64 characters. -/
def InBounds (e : Edge) : Prop := 1 ≤ e.id.length ∧ e.id.length ≤ 64

theorem intake_toJson {e : Edge} (h : e.InBounds) : intake e.toJson = .valid e := by
  have hid : Intake.textWithin 1 64 (.str e.id) = .valid e.id := by
    simp [Intake.textWithin, h.1, h.2]
  simp [intake, toJson, Intake.record, ofMembers, Intake.required, Intake.member,
    Assoc.last?_cons, hid]

theorem inBounds_of_intake {j : Json} {e : Edge} (h : intake j = .valid e) : e.InBounds := by
  obtain ⟨ms, hms⟩ := Intake.record_eq_valid h
  -- The members are taken off from the last to the first, which is the identifier.
  obtain ⟨_, _, h5, -, rfl⟩ := Checked.seq_eq_valid hms
  obtain ⟨_, _, h4, -, rfl⟩ := Checked.seq_eq_valid h5
  obtain ⟨_, _, h3, -, rfl⟩ := Checked.seq_eq_valid h4
  obtain ⟨_, _, h2, -, rfl⟩ := Checked.seq_eq_valid h3
  obtain ⟨_, _, h1, -, rfl⟩ := Checked.seq_eq_valid h2
  obtain ⟨id, h0, rfl⟩ := Checked.map_eq_valid h1
  obtain ⟨j, hid⟩ := Intake.required_eq_valid h0
  obtain ⟨hleast, hmost⟩ := Checked.ensure_eq_valid hid
  obtain ⟨-, hleast⟩ := Checked.ensure_eq_valid hleast
  exact ⟨of_decide_eq_true hleast, of_decide_eq_true hmost⟩

/-- **The values of the reader are the ones in bounds.** -/
theorem inBounds_iff_exists_intake {e : Edge} : e.InBounds ↔ ∃ j, intake j = .valid e :=
  ⟨fun h => ⟨e.toJson, intake_toJson h⟩, fun ⟨_, hj⟩ => inBounds_of_intake hj⟩

end Edge

end Commissioning
