import Commissioning.Proofs.Protocol.Filled
import Commissioning.StorageSystem.Payload

/-!
# Data behind a guard

Some of what is collected counts only while something else is as it should be: the name of a company
only for a customer who is one, a location only if it is not where the customer is, a string only if
it is selected, the reserve only if one is kept, a rating given by itself only if that is the
choice, and a power factor only if it is fixed. What does not count stays in the record, since the
forms do not remove it when the guard is switched off.

Two installations that differ at most in what does not count agree
(`Commissioning.Installation.Agrees`). Each of the six guards is read in up to three places: by the
fields of a view, which name it by a path into the document, by the settings of the app, and by the
setup protocol. **None of them lets through what does not count**
(`Commissioning.Installation.alike_of_agrees`): installations that agree have the same complaints in
the same order, the same settings of the app, and the same setup protocol.
-/

namespace Commissioning

/-! ### Records that agree -/

/-- Customers that agree: the name of the company counts only if the customer is one. -/
structure Customer.Agrees (c c' : Customer) : Prop where
  isCorporateClient : c.isCorporateClient = c'.isCorporateClient
  contact : c.contact = c'.contact
  companyName : c.isCorporateClient = true → c.companyName = c'.companyName

/-- Locations that agree: nothing else counts where the customer is. -/
structure Location.Agrees (l l' : Location) : Prop where
  isEqualToCustomerData : l.isEqualToCustomerData = l'.isEqualToCustomerData
  companyName : l.isEqualToCustomerData = false → l.companyName = l'.companyName
  contact : l.isEqualToCustomerData = false → l.contact = l'.contact

/-- Strings that agree: nothing else counts of one that is not selected. -/
structure DcString.Agrees (s s' : DcString) : Prop where
  isSelected : s.isSelected = s'.isSelected
  eq_of_isSelected : s.isSelected = true → s = s'

/-- Reserves that agree: the value counts only if a reserve is kept. -/
structure EmergencyReserve.Agrees (r r' : EmergencyReserve) : Prop where
  isEnabled : r.isEnabled = r'.isEnabled
  value : r.isEnabled = true → r.value = r'.value

/-- Fuses that agree: a rating by itself counts only if that is the choice. -/
structure LineSideMeterFuse.Agrees (f f' : LineSideMeterFuse) : Prop where
  fixedValue : f.fixedValue = f'.fixedValue
  otherValue : f.fixedValue = some otherRating → f.otherValue = f'.otherValue

/-- Limitations that agree: the power factor counts only if it is fixed. -/
structure FeedInLimitation.Agrees (l l' : FeedInLimitation) : Prop where
  feedInSetting : l.feedInSetting = l'.feedInSetting
  maximumFeedInPower : l.maximumFeedInPower = l'.maximumFeedInPower
  fixedPowerFactor : l.feedInSetting = .fixedPowerFactor → l.fixedPowerFactor = l'.fixedPowerFactor

/-- **Installations that agree** on everything that counts. -/
structure Installation.Agrees (d e : Installation) : Prop where
  customer : d.customer.Agrees e.customer
  location : d.location.Agrees e.location
  dc : List.Forall₂ DcString.Agrees d.pv.dc e.pv.dc
  ac : d.pv.ac = e.pv.ac
  reserve : d.battery.emergencyReserve.Agrees e.battery.emergencyReserve
  serialNumbers : d.battery.serialNumbers = e.battery.serialNumbers
  feedIn : d.batteryInverter.feedInLimitation.Agrees e.batteryInverter.feedInLimitation
  fuse : d.lineSideMeterFuse.Agrees e.lineSideMeterFuse
  setupProtocolId : d.setupProtocolId = e.setupProtocolId

theorem LineSideMeterFuse.Agrees.rating? {f f' : LineSideMeterFuse} (h : f.Agrees f') :
    f.rating? = f'.rating? := by
  unfold LineSideMeterFuse.rating?
  rw [← h.fixedValue]
  split
  · next hother => exact h.otherValue hother
  · rfl

/-! ### Values that a guard demands -/

theorem Number.eq_of_sameValue {m n : Int} (h : (int m).sameValue (int n) = true) : m = n := by
  have hplace : m * Binary64.one = n * Binary64.one := Position.finite.inj (eq_of_beq h)
  exact Int.eq_of_mul_eq_mul_right (Int.natCast_ne_zero.mpr (Nat.ne_of_gt Binary64.one_pos)) hplace

theorem Json.eq_of_alike_bool {a b : Bool} (h : (Json.bool a).alike (.bool b) = true) : a = b := by
  simp only [alike, alike.sameNumber, number?] at h
  have hbits := Number.eq_of_sameValue h
  revert hbits
  cases a <;> cases b <;> decide

theorem Json.eq_of_alike_int {i : Option Int} {n : Int}
    (h : (ofOptionInt i).alike (.int n) = true) : i = some n := by
  cases i with
  | none => simp only [ofOptionInt, alike, Bool.false_eq_true] at h
  | some i =>
    simp only [ofOptionInt, alike, alike.sameNumber, number?] at h
    rw [Number.eq_of_sameValue h]

theorem FeedInSetting.eq_of_alike {a b : FeedInSetting} (h : a.toJson.alike b.toJson = true) :
    a = b := by
  revert h
  cases a <;> cases b <;> decide

/-! ### What a field sees of a document -/

section Fields

variable {f : StepField} {fields : List StepField} {j k guard : Json} {path : List Step}

/-- A field sees the value of its guard, and its own value only if the guard is on. -/
theorem StepField.check_congr (hguard : ∀ path ∈ f.guardPath, j.at? path = k.at? path)
    (hvalue : f.isOn j = true → j.at? f.path = k.at? f.path) : f.check j = f.check k := by
  have hon : f.isOn j = f.isOn k := by
    unfold StepField.isOn
    split
    · rfl
    · next path hpath => rw [hguard path hpath]
  unfold StepField.check
  rw [← hon]
  split
  · next h => rw [hvalue h]
  · rfl

theorem checkFields_congr (h : ∀ f ∈ fields, f.check j = f.check k) :
    checkFields fields j = checkFields fields k := by
  induction fields with
  | nil => rfl
  | cons f fields ih =>
    obtain ⟨hf, hfields⟩ := List.forall_mem_cons.mp h
    simp only [checkFields, hf, ih hfields]

/-- A field without a guard sees its own value. -/
theorem StepField.check_of_open (hpath : f.guardPath = none)
    (hvalue : j.at? f.path = k.at? f.path) : f.check j = f.check k := by
  refine StepField.check_congr ?_ fun _ => hvalue
  rw [hpath]
  rintro _ ⟨⟩

/-- A field with a guard sees its own value only if the guard has the value that is demanded. -/
theorem StepField.check_of_guard (hpath : f.guardPath = some path) (hj : j.at? path = some guard)
    (hk : k.at? path = some guard)
    (hvalue : guard.alike f.guardValue = true → j.at? f.path = k.at? f.path) :
    f.check j = f.check k := by
  refine StepField.check_congr ?_ fun hon => hvalue ?_
  · rw [hpath]
    rintro _ ⟨⟩
    rw [hj, hk]
  · simpa only [StepField.isOn, hpath, hj] using hon

end Fields

/-! ### The fields of the views -/

/-- The contact fields of a form are found among those of the record. -/
theorem Contact.at?_member (c : Contact) (flag : Bool) (company : Option String) {flagName : String}
    (hflag : ∀ f ∈ contactForm, flagName ≠ f.key) {f : Field} (hf : f ∈ contactForm) :
    (Json.obj ((flagName, .bool flag) :: ("company_name", Json.ofOptionStr company) ::
      c.members)).at? [.field f.key] = (Json.obj c.members).at? [.field f.key] := by
  have hcompany : ∀ f ∈ contactForm, "company_name" ≠ f.key := by decide
  simp only [Json.at?, Assoc.get?, if_neg (hflag f hf), if_neg (hcompany f hf)]

theorem getElem?_of_forall₂ {α : Type} {R : α → α → Prop} {as bs : List α}
    (h : List.Forall₂ R as bs) {i : Nat} {a : α} (ha : as[i]? = some a) :
    ∃ b, bs[i]? = some b ∧ R a b := by
  obtain ⟨hi, rfl⟩ := List.getElem?_eq_some_iff.mp ha
  have hi' : i < bs.length := h.length_eq ▸ hi
  exact ⟨bs[i], List.getElem?_eq_getElem hi', h.get hi hi'⟩

namespace Installation

variable {d e : Installation}

/-- The fields of the customer see the name of a company only of a customer who is one. -/
theorem Agrees.check_customer (h : d.Agrees e) :
    ∀ f ∈ customerFields, f.check d.toJson = f.check e.toJson := by
  intro f hf
  rcases List.mem_append.mp hf with hf | hf
  · obtain ⟨field, hfield, rfl⟩ := List.mem_map.mp hf
    have hflag : ∀ f ∈ contactForm, "is_corporate_client" ≠ f.key := by decide
    refine StepField.check_of_open rfl ?_
    show d.customer.toJson.at? [.field field.key] = e.customer.toJson.at? [.field field.key]
    rw [Customer.toJson, Contact.at?_member _ _ _ hflag hfield, Customer.toJson,
      Contact.at?_member _ _ _ hflag hfield, h.customer.contact]
  · obtain rfl := List.mem_singleton.mp hf
    refine StepField.check_of_guard rfl rfl ?_ fun hon => ?_
    · rw [h.customer.isCorporateClient]
      rfl
    · have hname := h.customer.companyName (Json.eq_of_alike_bool hon)
      exact congrArg (fun name => some (Json.ofOptionStr name)) hname

/-- The fields of the location see nothing of one where the customer is. -/
theorem Agrees.check_location (h : d.Agrees e) :
    ∀ f ∈ locationFields, f.check d.toJson = f.check e.toJson := by
  intro f hf
  obtain ⟨field, hfield, rfl⟩ := List.mem_map.mp hf
  refine StepField.check_of_guard rfl rfl ?_ fun hon => ?_
  · rw [h.location.isEqualToCustomerData]
    rfl
  · have hcontact := h.location.contact (Json.eq_of_alike_bool hon)
    have hflag : ∀ f ∈ contactForm, "is_equal_to_customer_data" ≠ f.key := by decide
    show d.location.toJson.at? [.field field.key] = e.location.toJson.at? [.field field.key]
    rw [Location.toJson, Contact.at?_member _ _ _ hflag hfield, Location.toJson,
      Contact.at?_member _ _ _ hflag hfield, hcontact]

/-- The field of the reserve sees its value only if one is kept. -/
theorem Agrees.check_reserve (h : d.Agrees e) :
    ∀ f ∈ reserveFields, f.check d.toJson = f.check e.toJson := by
  intro f hf
  obtain rfl := List.mem_singleton.mp hf
  refine StepField.check_of_guard rfl rfl ?_ fun hon => ?_
  · rw [h.reserve.isEnabled]
    rfl
  · have hvalue := h.reserve.value (Json.eq_of_alike_bool hon)
    exact congrArg (fun value => some (Json.int value)) hvalue

/-- The fields of the fuse see a rating by itself only if that is the choice. -/
theorem Agrees.check_fuse (h : d.Agrees e) :
    ∀ f ∈ fuseFields, f.check d.toJson = f.check e.toJson := by
  have hchoice : e.toJson.at? [.field "line_side_meter_fuse", .field "fixed_value"] =
      some (Json.ofOptionInt d.lineSideMeterFuse.fixedValue) := by
    rw [h.fuse.fixedValue]
    rfl
  intro f hf
  simp only [fuseFields, List.mem_cons, List.not_mem_nil, or_false] at hf
  rcases hf with rfl | rfl
  · exact StepField.check_of_open rfl hchoice.symm
  · refine StepField.check_of_guard rfl rfl hchoice fun hon => ?_
    have hvalue := h.fuse.otherValue (Json.eq_of_alike_int hon)
    exact congrArg (fun value => some (Json.ofOptionInt value)) hvalue

/-- The fields of a string see nothing of one that is not selected. -/
theorem Agrees.check_string (h : d.Agrees e) {i : Nat} (hi : i < d.pv.dc.length) :
    ∀ f ∈ stringFields i, f.check d.toJson = f.check e.toJson := by
  obtain ⟨s, hs⟩ : ∃ s, d.pv.dc[i]? = some s := ⟨_, List.getElem?_eq_getElem hi⟩
  obtain ⟨t, ht, hagrees⟩ := getElem?_of_forall₂ h.dc hs
  intro f hf
  obtain ⟨hpath, hvalue, rest, hrest⟩ :
      f.guardPath = some ([.field "pv", .field "dc", .index i] ++ [.field "is_selected"]) ∧
        f.guardValue = .bool true ∧
        ∃ rest, f.path = [.field "pv", .field "dc", .index i] ++ rest := by
    simp only [stringFields, List.mem_cons, List.not_mem_nil, or_false] at hf
    rcases hf with rfl | rfl | rfl <;> exact ⟨rfl, rfl, _, rfl⟩
  refine StepField.check_of_guard hpath (at?_string hs _) ?_ fun hon => ?_
  · rw [at?_string ht]
    exact congrArg (fun b => some (Json.bool b)) hagrees.isSelected.symm
  · rw [hvalue] at hon
    rw [hrest, at?_string hs, at?_string ht, hagrees.eq_of_isSelected (Json.eq_of_alike_bool hon)]

/-- The fields of the producers see the producers. -/
theorem Agrees.check_producer (h : d.Agrees e) (i : Nat) :
    ∀ f ∈ producerFields i, f.check d.toJson = f.check e.toJson := by
  intro f hf
  obtain ⟨hpath, rest, hrest⟩ : f.guardPath = none ∧
      ∃ rest, f.path = [.field "pv", .field "ac"] ++ rest := by
    simp only [producerFields, List.mem_cons, List.not_mem_nil, or_false] at hf
    rcases hf with rfl | rfl | rfl <;> exact ⟨rfl, _, rfl⟩
  have hproducers : d.toJson.at? [.field "pv", .field "ac"] =
      e.toJson.at? [.field "pv", .field "ac"] := by
    show some (Json.arr (d.pv.ac.map AcProducer.toJson)) = _
    rw [h.ac]
    rfl
  refine StepField.check_of_open hpath ?_
  rw [hrest, Json.at?_append, Json.at?_append, hproducers]

/-- The fields of feeding in see the power factor only if it is fixed. -/
theorem Agrees.check_feedIn (h : d.Agrees e) :
    ∀ f ∈ feedInFields, f.check d.toJson = f.check e.toJson := by
  intro f hf
  simp only [feedInFields, List.mem_cons, List.not_mem_nil, or_false] at hf
  rcases hf with rfl | rfl
  · refine StepField.check_of_open rfl ?_
    exact congrArg (fun power => some (Json.ofOptionInt power)) h.feedIn.maximumFeedInPower
  · refine StepField.check_of_guard rfl rfl ?_ fun hon => ?_
    · rw [h.feedIn.feedInSetting]
      rfl
    · have hfactor := h.feedIn.fixedPowerFactor (FeedInSetting.eq_of_alike hon)
      exact congrArg (fun factor => some (Json.ofOptionStr factor)) hfactor

/-- **The complaints** of every view are the same. -/
theorem Agrees.checkStep (h : d.Agrees e) (view : Option View) (system : StorageSystem) :
    checkStep view system d = checkStep view system e := by
  have hfields : stepFields view system d = stepFields view system e := by
    unfold stepFields
    rw [h.dc.length_eq, h.ac]
  have hchecked : ∀ f ∈ stepFields view system d, f.check d.toJson = f.check e.toJson := by
    unfold stepFields
    split
    · exact h.check_customer
    · exact h.check_location
    · exact h.check_reserve
    · exact h.check_fuse
    · intro f hf
      obtain ⟨i, hi, hf⟩ := List.mem_flatMap.mp hf
      exact h.check_string (by have := List.mem_range.mp hi; omega) f hf
    · intro f hf
      obtain ⟨i, -, hf⟩ := List.mem_flatMap.mp hf
      exact h.check_producer i f hf
    · exact h.check_feedIn
    · intro f hf
      cases hf
  rw [Commissioning.checkStep, Commissioning.checkStep, ← hfields]
  exact checkFields_congr hchecked

/-! ### The settings of the app -/

/-- The string at a place is selected in both or in none. -/
theorem Agrees.selectedString? (h : d.Agrees e) (number : Nat) :
    d.selectedString? number = e.selectedString? number := by
  unfold Installation.selectedString?
  rcases hs : d.pv.dc[number - 1]? with _ | s
  · have hlength : e.pv.dc.length ≤ number - 1 := h.dc.length_eq ▸ List.getElem?_eq_none_iff.mp hs
    rw [List.getElem?_eq_none hlength]
  · obtain ⟨t, ht, hagrees⟩ := getElem?_of_forall₂ h.dc hs
    rw [ht]
    cases hselected : s.isSelected with
    | false =>
      rw [Option.filter_some_neg (by simp [hselected]),
        Option.filter_some_neg (by simp [← hagrees.isSelected, hselected])]
    | true => rw [hagrees.eq_of_isSelected hselected]

theorem Agrees.reserveProperties (h : d.Agrees e) : d.reserveProperties = e.reserveProperties := by
  unfold Installation.reserveProperties
  simp only [← h.reserve.isEnabled]
  split
  · next hon => rw [h.reserve.value hon]
  · rfl

/-- **The settings of the app** are the same. -/
theorem Agrees.payload (h : d.Agrees e) (system : StorageSystem) (country : SafetyCountry)
    (setting : FeedInSetting) :
    system.payload d country setting = system.payload e country setting := by
  have hfuse : system.fuseProperties d = system.fuseProperties e := by
    unfold StorageSystem.fuseProperties
    rw [h.fuse.rating?]
  have hfeedIn : d.feedInProperties setting = e.feedInProperties setting := by
    simp only [feedInProperties, h.feedIn.maximumFeedInPower]
  have hmeter : d.meterProperties = e.meterProperties := by
    unfold meterProperties
    rw [h.ac]
  have hstrings : ∀ flag caption,
      d.stringProperties flag caption = e.stringProperties flag caption := by
    intro flag caption
    funext number
    rw [stringProperties, stringProperties, h.selectedString?]
  have htable : ∀ s : StorageSystem, s.stringTable d = s.stringTable e := fun s => by
    rw [StorageSystem.stringTable, StorageSystem.stringTable, allStringProperties, hstrings,
      ← allStringProperties]
  unfold StorageSystem.payload StorageSystem.properties StorageSystem.fixedProperties
  rw [hfuse, hfeedIn, hmeter, htable, htable, h.reserveProperties]

end Installation

/-! ### The setup protocol -/

theorem Customer.Agrees.toProtocol {c c' : Customer} (h : c.Agrees c') :
    c.toProtocol = c'.toProtocol := by
  unfold Customer.toProtocol
  rw [h.contact, ← h.isCorporateClient]
  split
  · next hcorporate => rw [h.companyName hcorporate]
  · rfl

theorem Location.Agrees.toProtocol? {l l' : Location} (h : l.Agrees l') :
    l.toProtocol? = l'.toProtocol? := by
  unfold Location.toProtocol?
  rw [← h.isEqualToCustomerData]
  split
  · rfl
  · next hequal =>
    have hown : l.isEqualToCustomerData = false := (Bool.not_eq_true _).mp hequal
    rw [h.companyName hown, h.contact hown]

theorem EmergencyReserve.Agrees.items {r r' : EmergencyReserve} (h : r.Agrees r') :
    r.items = r'.items := by
  unfold EmergencyReserve.items
  rw [← h.isEnabled]
  split
  · next hon => rw [h.value hon]
  · rfl

theorem LineSideMeterFuse.Agrees.items {f f' : LineSideMeterFuse} (h : f.Agrees f') :
    f.items = f'.items := by
  unfold LineSideMeterFuse.items
  rw [h.rating?]

theorem DcString.Agrees.items {s s' : DcString} (h : s.Agrees s') : s.items = s'.items := by
  funext number
  unfold DcString.items
  rw [← h.isSelected]
  split
  · next hselected => rw [h.eq_of_isSelected hselected]
  · rfl

theorem FeedInLimitation.Agrees.items {l l' : FeedInLimitation} (h : l.Agrees l') :
    l.items = l'.items := by
  unfold FeedInLimitation.items
  rw [h.maximumFeedInPower, ← h.feedInSetting]
  split
  · next hfixed => rw [h.fixedPowerFactor hfixed]
  · rfl

/-- The items of strings that agree one by one are the same. -/
theorem itemsFrom_of_agrees {strings strings' : List DcString}
    (h : List.Forall₂ DcString.Agrees strings strings') (number : Nat) :
    itemsFrom DcString.items number strings = itemsFrom DcString.items number strings' := by
  induction h generalizing number with
  | nil => rfl
  | cons hs _ ih => rw [itemsFrom, itemsFrom, hs.items, ih]

namespace Installation

variable {d e : Installation}

/-- **The setup protocol** is the same. -/
theorem Agrees.protocol (h : d.Agrees e) (edgeId : String) :
    d.protocol edgeId = e.protocol edgeId := by
  have hitems : d.items edgeId = e.items edgeId := by
    unfold Installation.items
    rw [h.reserve.items, h.fuse.items, itemsFrom_of_agrees h.dc, h.feedIn.items, h.ac]
  unfold Installation.protocol
  rw [hitems, h.customer.toProtocol, h.location.toProtocol?, h.serialNumbers]

/-- **What does not count is not seen.** Installations that agree on everything that counts have the
same complaints in the same order at every view of every system, the same settings of the app, and
the same setup protocol for every device. -/
theorem alike_of_agrees (h : d.Agrees e) :
    (∀ view system, Commissioning.checkStep view system d =
      Commissioning.checkStep view system e) ∧
    (∀ (system : StorageSystem) country setting,
      system.payload d country setting = system.payload e country setting) ∧
    ∀ edgeId, d.protocol edgeId = e.protocol edgeId :=
  ⟨h.checkStep, h.payload, h.protocol⟩

/-- An installation on which every guard has been switched off after it was filled in. -/
def leftOver : Installation :=
  { customer := { companyName := some "Sun" }
    location := { companyName := some "Sun", contact := { firstName := "Ann" } }
    pv := { dc := [{ name := "Roof", orientation := "S" }, {}] }
    battery := { emergencyReserve := { value := 50 } }
    batteryInverter := { feedInLimitation := { fixedPowerFactor := some "0,95" } }
    lineSideMeterFuse := { fixedValue := some 35, otherValue := some 70 } }

/-- The same without what is left over. -/
theorem alike_of_agrees_leftOver :
    leftOver ≠ { lineSideMeterFuse := { fixedValue := some 35 } } ∧
    leftOver.protocol "edge0" =
      Installation.protocol { lineSideMeterFuse := { fixedValue := some 35 } } "edge0" := by
  have h : leftOver.Agrees { lineSideMeterFuse := { fixedValue := some 35 } } :=
    { customer := ⟨rfl, rfl, nofun⟩
      location := ⟨rfl, nofun, nofun⟩
      dc := .cons ⟨rfl, nofun⟩ (.cons ⟨rfl, nofun⟩ .nil)
      ac := rfl
      reserve := ⟨rfl, nofun⟩
      serialNumbers := rfl
      feedIn := ⟨rfl, rfl, nofun⟩
      fuse := ⟨rfl, by decide⟩
      setupProtocolId := rfl }
  exact ⟨by decide, (alike_of_agrees h).2.2 "edge0"⟩

end Installation

end Commissioning
