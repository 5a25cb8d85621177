import Commissioning.Proofs.Field.Judged
import Commissioning.Proofs.Installation.Guarded

/-!
# The rules of the views

What a view demands of an installation, said of the record itself
(`Commissioning.Installation.rules`): which texts must be filled in and what they must look like,
between which bounds the numbers must be, and which of this counts only while something else is so.
The program has the same in another form, as fields with paths into the document of the
installation, paths of guards with the values that switch a field on, options, patterns and bounds,
all of it interpreted by one check.

**The two agree** (`Commissioning.Installation.exists_checkStep`): for each view, system and
installation the check does not fail, and its complaints stand under the identifiers of the rules
that are violated, in their order. So the lists are not bounded, and neither is what is in them.
-/

namespace Commissioning

/-! ### Rules -/

/-- A rule about a field of the installation. -/
structure Rule where
  /-- The identifier of the field. -/
  id : String
  /-- What must hold. -/
  holds : Prop

namespace Rule

/-- The rule for a field of a member, under the path of the field. -/
def within (r : Rule) (member : String) : Rule := ⟨s!"{member}.{r.id}", r.holds⟩

/-- The rule as far as something else is so. -/
def onlyIf (r : Rule) (guard : Prop) : Rule := ⟨r.id, guard → r.holds⟩

/-- The identifiers of the rules that are violated, in order. -/
inductive Violated : List Rule → List String → Prop
  | nil : Violated [] []
  | kept {r : Rule} {rules : List Rule} {ids : List String} :
    r.holds → Violated rules ids → Violated (r :: rules) ids
  | broken {r : Rule} {rules : List Rule} {ids : List String} :
    ¬r.holds → Violated rules ids → Violated (r :: rules) (r.id :: ids)

/-- If all hold, none is violated. -/
theorem Violated.eq_nil {rules : List Rule} {ids : List String} (h : Violated rules ids)
    (hholds : ∀ r ∈ rules, r.holds) : ids = [] := by
  induction h with
  | nil => rfl
  | kept _ _ ih => exact ih fun r hr => hholds r (List.mem_cons_of_mem _ hr)
  | broken hbroken => exact absurd (hholds _ List.mem_cons_self) hbroken

/-- If none is violated, all hold. -/
theorem Violated.holds {rules : List Rule} {ids : List String} (h : Violated rules ids)
    (hnil : ids = []) : ∀ r ∈ rules, r.holds := by
  induction h with
  | nil => simp
  | kept hr _ ih => exact List.forall_mem_cons.mpr ⟨hr, ih hnil⟩
  | broken => cases hnil

end Rule

/-- A text is not blank. -/
def IsFilled (s : String) : Prop := Text.isEmptyText s = false

/-- A text that may be missing is there and not blank. -/
def IsGiven (s : Option String) : Prop := ∃ t, s = some t ∧ IsFilled t

/-- A double is finite and at least one. -/
def IsOneOrMore (x : Option Binary64) : Prop :=
  ∃ y, x = some y ∧ y.isFinite = true ∧ (Number.int 1).le (.float y) = true

/-- The rules for a contact, under the names of its fields. -/
def Contact.rules (c : Contact) : List Rule :=
  [⟨"first_name", IsFilled c.firstName⟩, ⟨"last_name", IsFilled c.lastName⟩,
   ⟨"street", IsFilled c.street⟩, ⟨"zip", IsZip (Text.trim c.zip.toList)⟩,
   ⟨"city", IsFilled c.city⟩, ⟨"country", c.country ∈ ["de", "at", "ch"]⟩,
   ⟨"email", IsEmail (Text.trim c.email.toList)⟩, ⟨"phone", IsFilled c.phone⟩]

/-- The rules for the customer: a company has a name. -/
def Customer.rules (c : Customer) : List Rule :=
  c.contact.rules.map (·.within "customer") ++
    [⟨"customer.company_name", c.isCorporateClient = true → IsGiven c.companyName⟩]

/-- The rules for the location: those of a contact, if it is not where the customer is. -/
def Location.rules (l : Location) : List Rule :=
  l.contact.rules.map fun r => (r.within "location").onlyIf (l.isEqualToCustomerData = false)

/-- The rule for the reserve. -/
def EmergencyReserve.rules (r : EmergencyReserve) : List Rule :=
  [⟨"battery.emergency_reserve.value", r.isEnabled = true → 5 ≤ r.value ∧ r.value ≤ 100⟩]

/-- The rules for the fuse. -/
def LineSideMeterFuse.rules (f : LineSideMeterFuse) : List Rule :=
  [⟨"line_side_meter_fuse.fixed_value", ∃ n ∈ [35, 40, 50, 63, 80, -1], f.fixedValue = some n⟩,
   ⟨"line_side_meter_fuse.other_value",
    f.fixedValue = some (-1) → ∃ n, f.otherValue = some n ∧ 1 ≤ n ∧ n ≤ 1000⟩]

/-- The rules for a string, under the names of its fields. -/
def DcString.rules (s : DcString) : List Rule :=
  [⟨"alias", s.isSelected = true → IsFilled s.name⟩,
   ⟨"value", s.isSelected = true → IsOneOrMore s.value⟩,
   ⟨"modules_per_string",
    s.isSelected = true → ∀ n, s.modulesPerString = some n → 1 ≤ n ∧ n ≤ 100⟩]

/-- The rules for a producer, under the names of its fields. -/
def AcProducer.rules (p : AcProducer) : List Rule :=
  [⟨"alias", IsFilled p.name⟩, ⟨"value", IsOneOrMore p.value⟩,
   ⟨"modbus_communication_address", ∃ n, p.modbusAddress = some n ∧ 1 ≤ n ∧ n ≤ 247⟩]

/-- The rules for the items of a list, each under the path of its item. -/
def listRules {α : Type} (path : String) (rules : α → List Rule) (items : List α) : List Rule :=
  items.zipIdx.flatMap fun item => (rules item.1).map (·.within s!"{path}.{item.2}")

/-- The rules for feeding in; a power that is too large for a double is none. -/
def FeedInLimitation.rules (l : FeedInLimitation) : List Rule :=
  [⟨"battery_inverter.dynamic_feed_in_limitation.maximum_feed_in_power",
    ∃ n, l.maximumFeedInPower = some n ∧ 0 ≤ n ∧ Binary64.ofInt? n ≠ none⟩,
   ⟨"battery_inverter.dynamic_feed_in_limitation.fixed_power_factor",
    l.feedInSetting = .fixedPowerFactor → IsGiven l.fixedPowerFactor⟩]

/-- **The rules of a view.** Of the strings only those count that the system has inputs for. -/
def Installation.rules (d : Installation) (view : Option View) (system : StorageSystem) :
    List Rule :=
  match view with
  | some .protocolCustomer => d.customer.rules
  | some .protocolSystem => d.location.rules
  | some .configurationEmergencyReserve => d.battery.emergencyReserve.rules
  | some .configurationLineSideMeterFuse => d.lineSideMeterFuse.rules
  | some .protocolPv => listRules "pv.dc" DcString.rules (d.pv.dc.take system.maxMppt)
  | some .protocolAdditionalAcProducers => listRules "pv.ac" AcProducer.rules d.pv.ac
  | some .protocolFeedInLimitation => d.batteryInverter.feedInLimitation.rules
  | _ => []

/-! ### Fields that enforce rules -/

namespace StepField

/-- A field of a view says of a document what a rule says. -/
structure Enforces (document : Json) (f : StepField) (r : Rule) : Prop where
  id : f.id = r.id
  total : ∃ c, f.check document = .ok c
  accepts : f.check document = .ok none ↔ r.holds

variable {f : StepField} {document : Json} {value : Json} {id : String} {guard holds : Prop}

theorem enforces_open (hid : f.id = id) (hguard : f.guardPath = none)
    (hvalue : (document.at? f.path).getD .null = value) (h : f.field.Judges value holds) :
    f.Enforces document ⟨id, holds⟩ := by
  have hcheck : f.check document = f.field.check value := by
    rw [check, if_pos (by rw [isOn, hguard]), hvalue]
  exact ⟨hid, hcheck ▸ h.total, hcheck ▸ h.accepts⟩

theorem enforces_guarded (hid : f.id = id) (hguard : f.isOn document = true ↔ guard)
    (hvalue : (document.at? f.path).getD .null = value) (h : f.field.Judges value holds) :
    f.Enforces document ⟨id, guard → holds⟩ := by
  by_cases hon : f.isOn document = true
  · have hcheck : f.check document = f.field.check value := by
      rw [check, if_pos hon, hvalue]
    refine ⟨hid, hcheck ▸ h.total, ?_⟩
    rw [hcheck, h.accepts]
    exact ⟨fun hholds _ => hholds, fun hrule => hrule (hguard.mp hon)⟩
  · have hcheck : f.check document = .ok none := by
      rw [check, if_neg hon]
      rfl
    exact ⟨hid, ⟨none, hcheck⟩, iff_of_true hcheck fun hg => absurd (hguard.mpr hg) hon⟩

end StepField

/-- **Fields that enforce rules** complain under the identifiers of those that are violated. -/
theorem exists_checkFields {document : Json} {fields : List StepField} {rules : List Rule}
    (h : List.Forall₂ (StepField.Enforces document) fields rules) :
    ∃ complaints, checkFields fields document = .ok complaints ∧
      Rule.Violated rules (complaints.map Prod.fst) := by
  induction h with
  | nil => exact ⟨[], rfl, .nil⟩
  | @cons f r fields rules hf _ ih =>
    obtain ⟨c, hc⟩ := hf.total
    obtain ⟨complaints, hcomplaints, hviolated⟩ := ih
    have hfields := checkFields_cons_eq_ok_iff.mpr ⟨c, complaints, hc, hcomplaints, rfl⟩
    refine ⟨_, hfields, ?_⟩
    cases c with
    | none => exact .kept (hf.accepts.mp hc) hviolated
    | some c =>
      have hnot : ¬r.holds := fun hr => by
        have hnone := hf.accepts.mpr hr
        rw [hc] at hnone
        cases hnone
      rw [Option.map_some, Option.toList_some, List.singleton_append, List.map_cons, hf.id]
      exact .broken hnot hviolated

/-! ### What a guard says -/

theorem Number.sameValue_self {m : Number} {p : Position} (h : m.position? = some p) :
    m.sameValue m = true := by
  simp only [sameValue, h, beq_self_eq_true]

theorem Json.alike_bool_iff {a b : Bool} : (Json.bool a).alike (.bool b) = true ↔ a = b := by
  constructor
  · exact Json.eq_of_alike_bool
  · rintro rfl
    simp only [alike, alike.sameNumber, number?]
    exact Number.sameValue_self rfl

theorem Json.alike_int_iff {i : Option Int} {n : Int} :
    (Json.ofOptionInt i).alike (.int n) = true ↔ i = some n := by
  constructor
  · exact Json.eq_of_alike_int
  · rintro rfl
    exact (Field.alike_int_toJson n (.int n)).trans (Number.sameValue_self rfl)

theorem FeedInSetting.alike_iff {a b : FeedInSetting} :
    a.toJson.alike b.toJson = true ↔ a = b := by
  constructor
  · exact FeedInSetting.eq_of_alike
  · rintro rfl
    cases a <;> decide

/-- A guard is on exactly if its value is the one that is demanded. -/
theorem StepField.isOn_iff {f : StepField} {document value : Json} {path : List Step}
    (hpath : f.guardPath = some path) (hvalue : document.at? path = some value) :
    f.isOn document = true ↔ value.alike f.guardValue = true := by
  simp only [StepField.isOn, hpath, hvalue]

/-! ### The fields of the views -/

open Commissioning.Field

/-- What the form for a contact says of one. -/
theorem Contact.judged (c : Contact) :
    List.Forall₂ (fun f r => f.key = r.id ∧
      f.Judges (((Json.obj c.members).at? [.field f.key]).getD .null) r.holds)
      contactForm c.rules := by
  have hcountries : ∀ s ∈ ["de", "at", "ch"], Text.isEmptyText s = false := by decide
  have hzip : ¬IsZip [] := by
    rintro ⟨hlength, -⟩
    simp at hlength
  have hemail : ¬IsEmail [] := by
    rintro ⟨name, domain, top, hnil, -⟩
    simp at hnil
  exact
    .cons ⟨rfl, judges_plain_text ⟨rfl, rfl⟩ rfl rfl c.firstName⟩ <|
    .cons ⟨rfl, judges_plain_text ⟨rfl, rfl⟩ rfl rfl c.lastName⟩ <|
    .cons ⟨rfl, judges_plain_text ⟨rfl, rfl⟩ rfl rfl c.street⟩ <|
    .cons ⟨rfl, judges_pattern ⟨rfl, rfl⟩ rfl rfl accepts_zip_iff hzip c.zip⟩ <|
    .cons ⟨rfl, judges_plain_text ⟨rfl, rfl⟩ rfl rfl c.city⟩ <|
    .cons ⟨rfl, judges_options ⟨rfl, rfl⟩ rfl rfl hcountries c.country⟩ <|
    .cons ⟨rfl, judges_pattern ⟨rfl, rfl⟩ rfl rfl accepts_email_iff hemail c.email⟩ <|
    .cons ⟨rfl, judges_plain_text ⟨rfl, rfl⟩ rfl rfl c.phone⟩ .nil

/-- The same of a member of a document that has the contact among its own members. -/
theorem Contact.judged_within (c : Contact) {document : Json} {member : String}
    (hmember : ∀ f ∈ contactForm, document.at? [.field member, .field f.key] =
      (Json.obj c.members).at? [.field f.key]) (guardPath : Option (List Step))
    (guardValue : Json) :
    List.Forall₂ (fun f r =>
      StepField.id ⟨f, [.field member, .field f.key], guardPath, guardValue⟩ =
        (r.within member).id ∧
      f.Judges ((document.at? [.field member, .field f.key]).getD .null) (r.within member).holds)
      contactForm c.rules := by
  have hjudged :=
    (List.forall₂_and_left (p := (· ∈ contactForm)) _ _).mpr ⟨fun f hf => hf, c.judged⟩
  refine hjudged.imp ?_
  rintro f r ⟨hf, hid, hholds⟩
  rw [hmember f hf]
  obtain ⟨id, holds⟩ := r
  obtain rfl : f.key = id := hid
  exact ⟨rfl, hholds⟩

namespace Installation

variable (d : Installation)

/-- The fields of the customer. -/
theorem customer_enforced :
    List.Forall₂ (StepField.Enforces d.toJson) customerFields d.customer.rules := by
  have hmember : ∀ f ∈ contactForm, d.toJson.at? [.field "customer", .field f.key] =
      (Json.obj d.customer.contact.members).at? [.field f.key] := by
    intro f hf
    exact d.customer.contact.at?_member _ _ (by decide) hf
  refine List.rel_append ?_ (.cons ?_ .nil)
  · rw [contactFields, List.forall₂_map_left_iff, List.forall₂_map_right_iff]
    refine (d.customer.contact.judged_within hmember none (.bool true)).imp ?_
    rintro f r ⟨hid, hholds⟩
    exact StepField.enforces_open hid rfl rfl hholds
  · refine StepField.enforces_guarded rfl ?_ rfl
      (judges_optional_text ⟨rfl, rfl⟩ rfl rfl d.customer.companyName)
    exact (StepField.isOn_iff rfl rfl).trans Json.alike_bool_iff

/-- The fields of the location. -/
theorem location_enforced :
    List.Forall₂ (StepField.Enforces d.toJson) locationFields d.location.rules := by
  have hmember : ∀ f ∈ contactForm, d.toJson.at? [.field "location", .field f.key] =
      (Json.obj d.location.contact.members).at? [.field f.key] := by
    intro f hf
    exact d.location.contact.at?_member _ _ (by decide) hf
  rw [locationFields, contactFields, Location.rules, List.forall₂_map_left_iff,
    List.forall₂_map_right_iff]
  refine (d.location.contact.judged_within hmember
    (some [.field "location", .field "is_equal_to_customer_data"]) (.bool false)).imp ?_
  rintro f r ⟨hid, hholds⟩
  refine StepField.enforces_guarded hid ?_ rfl hholds
  exact (StepField.isOn_iff rfl rfl).trans Json.alike_bool_iff

/-- The field of the reserve. -/
theorem reserve_enforced :
    List.Forall₂ (StepField.Enforces d.toJson) reserveFields d.battery.emergencyReserve.rules := by
  refine .cons ?_ .nil
  refine StepField.enforces_guarded rfl ?_ rfl
    (judges_between ⟨⟨rfl, rfl⟩, rfl, rfl, rfl, by decide, by decide⟩ _)
  exact (StepField.isOn_iff rfl rfl).trans Json.alike_bool_iff

/-- The fields of the fuse. -/
theorem fuse_enforced :
    List.Forall₂ (StepField.Enforces d.toJson) fuseFields d.lineSideMeterFuse.rules := by
  refine .cons ?_ (.cons ?_ .nil)
  · exact StepField.enforces_open rfl rfl rfl
      (judges_choice ⟨⟨rfl, rfl⟩, rfl, rfl, rfl, rfl, by decide⟩ d.lineSideMeterFuse.fixedValue)
  · refine StepField.enforces_guarded rfl ?_ rfl
      (judges_required_between ⟨⟨rfl, rfl⟩, rfl, rfl, rfl, by decide, by decide⟩ rfl
        d.lineSideMeterFuse.otherValue)
    exact (StepField.isOn_iff rfl rfl).trans Json.alike_int_iff

/-- The fields of feeding in. -/
theorem feedIn_enforced :
    List.Forall₂ (StepField.Enforces d.toJson) feedInFields
      d.batteryInverter.feedInLimitation.rules := by
  refine .cons ?_ (.cons ?_ .nil)
  · exact StepField.enforces_open rfl rfl rfl
      (judges_int_from ⟨⟨rfl, rfl⟩, rfl, rfl, rfl, rfl, by decide⟩
        d.batteryInverter.feedInLimitation.maximumFeedInPower)
  · refine StepField.enforces_guarded rfl ?_ rfl
      (judges_optional_text ⟨rfl, rfl⟩ rfl rfl d.batteryInverter.feedInLimitation.fixedPowerFactor)
    exact (StepField.isOn_iff rfl rfl).trans FeedInSetting.alike_iff

variable {d} {i : Nat}

/-- The fields of a string. -/
theorem string_enforced {s : DcString} (hs : d.pv.dc[i]? = some s) :
    List.Forall₂ (StepField.Enforces d.toJson) (stringFields i)
      (s.rules.map (·.within s!"pv.dc.{i}")) := by
  have hguard : ∀ f : StepField, f.guardValue = .bool true → f.guardPath =
      some ([.field "pv", .field "dc", .index i] ++ [.field "is_selected"]) →
      (f.isOn d.toJson = true ↔ s.isSelected = true) := by
    intro f hon hpath
    rw [StepField.isOn_iff hpath (at?_string hs _), hon]
    exact Json.alike_bool_iff
  have hvalue : ∀ rest,
      (d.toJson.at? ([.field "pv", .field "dc", .index i] ++ rest)).getD .null =
        (s.toJson.at? rest).getD .null := by
    intro rest
    rw [at?_string hs]
  refine .cons ?_ (.cons ?_ (.cons ?_ .nil))
  · exact StepField.enforces_guarded rfl (hguard _ rfl rfl) (hvalue _)
      (judges_plain_text ⟨rfl, rfl⟩ rfl rfl s.name)
  · exact StepField.enforces_guarded rfl (hguard _ rfl rfl) (hvalue _)
      (judges_float_from ⟨⟨rfl, rfl⟩, rfl, rfl, rfl, rfl, by decide⟩ s.value)
  · exact StepField.enforces_guarded rfl (hguard _ rfl rfl) (hvalue _)
      (judges_optional_between ⟨⟨rfl, rfl⟩, rfl, rfl, rfl, by decide, by decide⟩ rfl
        s.modulesPerString)

/-- The fields of a producer. -/
theorem producer_enforced {p : AcProducer} (hp : d.pv.ac[i]? = some p) :
    List.Forall₂ (StepField.Enforces d.toJson) (producerFields i)
      (p.rules.map (·.within s!"pv.ac.{i}")) := by
  have hvalue : ∀ rest,
      (d.toJson.at? ([.field "pv", .field "ac", .index i] ++ rest)).getD .null =
        (p.toJson.at? rest).getD .null := by
    intro rest
    rw [at?_producer hp]
  refine .cons ?_ (.cons ?_ (.cons ?_ .nil))
  · exact StepField.enforces_open rfl rfl (hvalue _)
      (judges_plain_text ⟨rfl, rfl⟩ rfl rfl p.name)
  · exact StepField.enforces_open rfl rfl (hvalue _)
      (judges_float_from ⟨⟨rfl, rfl⟩, rfl, rfl, rfl, rfl, by decide⟩ p.value)
  · exact StepField.enforces_open rfl rfl (hvalue _)
      (judges_required_between ⟨⟨rfl, rfl⟩, rfl, rfl, rfl, by decide, by decide⟩ rfl
        p.modbusAddress)

/-- Fields for each index of a list enforce the rules for its items. -/
theorem listRules_enforced {α : Type} {document : Json} {path : String} {rules : α → List Rule}
    {fields : Nat → List StepField} {items : List α}
    (h : ∀ (i : Nat) (item : α), items[i]? = some item →
      List.Forall₂ (StepField.Enforces document) (fields i)
        ((rules item).map (·.within s!"{path}.{i}"))) :
    List.Forall₂ (StepField.Enforces document) ((List.range items.length).flatMap fields)
      (listRules path rules items) := by
  -- The fields are listed by indices and the rules by items, which run side by side.
  have hindices : List.Forall₂ (fun i item => i = item.2 ∧ items[i]? = some item.1)
      (List.range items.length) items.zipIdx := by
    refine List.forall₂_iff_get.mpr ⟨by simp, fun i hi _ => ?_⟩
    have hi' : i < items.length := by simpa using hi
    simp [List.getElem?_eq_getElem hi']
  refine List.rel_flatMap hindices ?_
  rintro i ⟨item, _⟩ ⟨rfl, hitem⟩
  exact h i item hitem

/-- **The fields of a view** enforce its rules. -/
theorem enforced (view : Option View) (system : StorageSystem) (d : Installation) :
    List.Forall₂ (StepField.Enforces d.toJson) (stepFields view system d)
      (d.rules view system) := by
  rcases view with _ | view
  · exact .nil
  · cases view with
    | protocolCustomer => exact d.customer_enforced
    | protocolSystem => exact d.location_enforced
    | configurationEmergencyReserve => exact d.reserve_enforced
    | configurationLineSideMeterFuse => exact d.fuse_enforced
    | protocolPv =>
      have hcount : min d.pv.dc.length system.maxMppt = (d.pv.dc.take system.maxMppt).length := by
        rw [List.length_take, Nat.min_comm]
      show List.Forall₂ _ ((List.range (min d.pv.dc.length system.maxMppt)).flatMap stringFields) _
      rw [hcount]
      refine listRules_enforced fun i s hs => string_enforced ?_
      have hi := (List.getElem?_eq_some_iff.mp hs).1
      rw [List.length_take] at hi
      rwa [List.getElem?_take_of_lt (by omega)] at hs
    | protocolAdditionalAcProducers =>
      exact listRules_enforced fun i p hp => producer_enforced hp
    | protocolFeedInLimitation => exact d.feedIn_enforced
    | _ => exact .nil

/-- **The complaints about a view** stand under the identifiers of the rules that are violated. -/
theorem exists_checkStep (view : Option View) (system : StorageSystem) (d : Installation) :
    ∃ complaints, checkStep view system d = .ok complaints ∧
      Rule.Violated (d.rules view system) (complaints.map Prod.fst) :=
  exists_checkFields (enforced view system d)

end Installation

end Commissioning
