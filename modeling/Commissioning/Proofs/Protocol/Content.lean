import Commissioning.Proofs.Except
import Commissioning.Proofs.Number.Digits
import Commissioning.Proofs.Protocol.Assembly

/-!
# What a protocol says

The **content** of an installation on a device (`Commissioning.Content`) is what is meant to be
archived of it: no field that another one rules out, no string that is not selected, no component
without a serial number. `Commissioning.Installation.content` reads it off an installation, and
`Commissioning.Content.protocol` writes a protocol of it; the protocol of an installation is the
one that is written of its content (`Commissioning.Installation.protocol_eq`).

The items of a protocol are one flat list, in which some sections have as many items as there are
strings or producers. Nothing is lost in it all the same
(`Commissioning.Content.protocol_injective`): every section stands under a heading of its own
(`Commissioning.sections_injective`), a string or a producer has always the same number of items
(`Commissioning.flatMap_injective`), its first item holds its place, and a whole number has a text
that no other one has (`Commissioning.Json.amount_injective`). So two protocols are transmitted
alike exactly if they have the same content (`Commissioning.Installation.protocol_alike_iff`).
-/

namespace Commissioning

/-! ### Texts of amounts -/

theorem intChars_injective {i j : Int} (h : intChars i = intChars j) : i = j := by
  have hsplit := congrArg splitSign h
  rw [splitSign_intChars, splitSign_intChars] at hsplit
  obtain ⟨hsign, hdigits⟩ := Prod.mk.inj hsplit
  have habs := congrArg natOfDigits hdigits
  rw [natOfDigits_natChars, natOfDigits_natChars] at habs
  rw [← signed_natAbs i, ← signed_natAbs j, hsign, habs]

theorem toString_injective {m n : Nat} (h : toString m = toString n) : m = n := by
  have hchars : natChars m = natChars n := String.ofList_injective h
  rw [← natOfDigits_natChars m, ← natOfDigits_natChars n, hchars]

namespace Json

/-- The text of a whole number, empty if it is absent. -/
def amount : Option Int → String
  | some i => String.ofList (intChars i)
  | none => ""

/-- The text of a double, empty if it is absent. -/
def peak (x : Option Binary64) : String := (amountText (ofOptionFloat x)).toOption.getD ""

/-- **No two amounts have one text.** -/
theorem amount_injective {i j : Option Int} (h : amount i = amount j) : i = j := by
  have hne : ∀ i, intChars i ≠ [] := fun i => by
    have hdigits := natChars_ne_nil i.natAbs
    unfold intChars
    split <;> simp [hdigits]
  cases i <;> cases j
  · rfl
  · exact absurd (String.ofList_eq_empty_iff.mp h.symm) (hne _)
  · exact absurd (String.ofList_eq_empty_iff.mp h) (hne _)
  · exact congrArg some (intChars_injective (String.ofList_injective h))

theorem amountText_int {i : Option Int} {s : String} (h : amountText (ofOptionInt i) = .ok s) :
    amount i = s := by
  cases i with
  | none => exact Except.ok.inj h
  | some i =>
    simp only [ofOptionInt, amountText, display, display?, innerChars, intChars?] at h
    split at h
    · next hdisplay =>
      split at hdisplay
      · obtain rfl := Except.ok.inj h
        exact Option.some.inj hdisplay
      · cases hdisplay
    · cases h

theorem amountText_float {x : Option Binary64} {s : String}
    (h : amountText (ofOptionFloat x) = .ok s) : peak x = s := by
  rw [peak, h]
  rfl

end Json

/-! ### Sections of a flat list -/

/-- **Pieces of one length** can be told apart in a flat list. -/
theorem flatMap_injective {α β : Type} {write : α → List β} {n : Nat}
    (hlength : ∀ a, (write a).length = n + 1) (hwrite : ∀ a b, write a = write b → a = b) :
    ∀ {as bs : List α}, as.flatMap write = bs.flatMap write → as = bs
  | [], [], _ => rfl
  | [], b :: bs, h => by
    have hcount := congrArg List.length h
    simp only [List.flatMap_nil, List.flatMap_cons, List.length_append, List.length_nil,
      hlength] at hcount
    omega
  | a :: as, [], h => by
    have hcount := congrArg List.length h
    simp only [List.flatMap_nil, List.flatMap_cons, List.length_append, List.length_nil,
      hlength] at hcount
    omega
  | a :: as, b :: bs, h => by
    rw [List.flatMap_cons, List.flatMap_cons] at h
    obtain ⟨hfirst, hrest⟩ := List.append_inj h (by rw [hlength, hlength])
    rw [hwrite a b hfirst, flatMap_injective hlength hwrite hrest]

section Sections

variable {α : Type} {heading : α → String}

/-- Every member of a section stands under its heading. -/
def Headed (heading : α → String) (sections : List (String × List α)) : Prop :=
  ∀ s ∈ sections, ∀ a ∈ s.2, heading a = s.1

/-- What stands under the first heading of a flat list is the first section. -/
theorem filter_heading {name : String} {xs : List α} {sections : List (String × List α)}
    (hxs : ∀ a ∈ xs, heading a = name) (hsections : Headed heading sections)
    (hnew : name ∉ sections.map Prod.fst) :
    (xs ++ sections.flatMap Prod.snd).filter (heading · = name) = xs := by
  have hothers : ∀ a ∈ sections.flatMap Prod.snd, ¬heading a = name := by
    intro a ha hheading
    obtain ⟨s, hs, has⟩ := List.mem_flatMap.mp ha
    exact hnew (List.mem_map.mpr ⟨s, hs, (hsections s hs a has).symm.trans hheading⟩)
  rw [List.filter_append, List.filter_eq_self.mpr (by simpa using hxs),
    List.filter_eq_nil_iff.mpr (by simpa using hothers), List.append_nil]

/-- **Sections under headings of their own** can be told apart in a flat list. -/
theorem sections_injective : ∀ {as bs : List (String × List α)},
    as.map Prod.fst = bs.map Prod.fst → (as.map Prod.fst).Nodup → Headed heading as →
      Headed heading bs → as.flatMap Prod.snd = bs.flatMap Prod.snd → as = bs
  | [], [], _, _, _, _, _ => rfl
  | (name, xs) :: as, (name', ys) :: bs, hall, hnodup, hleft, hright, h => by
    obtain ⟨hname, hnames⟩ := List.cons_eq_cons.mp hall
    obtain rfl : name = name' := hname
    obtain ⟨hnew, hothers⟩ := List.nodup_cons.mp hnodup
    obtain ⟨hxs, has⟩ := List.forall_mem_cons.mp hleft
    obtain ⟨hys, hbs⟩ := List.forall_mem_cons.mp hright
    have hnew' : name ∉ bs.map Prod.fst := by
      rw [← hnames]
      exact hnew
    rw [List.flatMap_cons, List.flatMap_cons] at h
    have hfirst := congrArg (List.filter (heading · = name)) h
    rw [filter_heading hxs has hnew, filter_heading hys hbs hnew'] at hfirst
    obtain rfl : xs = ys := hfirst
    rw [sections_injective hnames hothers has hbs (List.append_cancel_left h)]

end Sections

/-! ### The content -/

/-- A string that is selected. -/
structure StringContent where
  /-- Its place among all strings, counted from one. -/
  number : Nat
  /-- Its name. -/
  name : String
  /-- The text of its peak power. -/
  value : String
  /-- The direction it faces. -/
  orientation : String
  /-- The type of its modules. -/
  moduleType : String
  /-- How many modules it has. -/
  modules : Option Int

/-- A producer on the AC side. -/
structure ProducerContent where
  /-- Its name. -/
  name : String
  /-- The text of its peak power. -/
  value : String
  /-- The direction it faces. -/
  orientation : String
  /-- The type of its modules. -/
  moduleType : String
  /-- How many modules it has. -/
  modules : Option Int
  /-- The meter that counts its production. -/
  meter : Meter
  /-- The address of the meter on the bus. -/
  address : Option Int

/-- How feeding in is limited. -/
structure FeedInContent where
  /-- The greatest power that may be fed in. -/
  power : Option Int
  /-- How feeding in is adjusted to the grid. -/
  setting : FeedInSetting
  /-- The power factor, only if it is fixed; a missing one is empty. -/
  factor : Option String

/-- **What is meant to be archived** of an installation on a device. -/
structure Content where
  /-- The identifier of the device. -/
  edgeId : String
  /-- The contact fields of the customer. -/
  customer : Contact
  /-- The name of the company, only if the customer is one. -/
  company : Option (Option String)
  /-- The contact fields and the company of the location, only if it is not where the customer
  is. -/
  location : Option (Contact × Option String)
  /-- The reserve, only if one is kept. -/
  reserve : Option Int
  /-- The rating of the fuse that counts. -/
  fuse : Option Int
  /-- The strings that are selected. -/
  strings : List StringContent
  /-- How feeding in is limited. -/
  feedIn : FeedInContent
  /-- All producers. -/
  producers : List ProducerContent
  /-- The components of each tower that have a serial number, and the number. -/
  components : Tower → List (String × String)

/-- The content of the string at a place; none if it is not selected. -/
def DcString.content? (s : DcString) (number : Nat) : Option StringContent :=
  if s.isSelected then
    some ⟨number, s.name, Json.peak s.value, s.orientation, s.moduleType, s.modulesPerString⟩
  else none

/-- The content of the strings of a list, the first of which has the given number. -/
def stringContents : Nat → List DcString → List StringContent
  | _, [] => []
  | number, s :: rest => (s.content? number).toList ++ stringContents (number + 1) rest

/-- The content of a producer. -/
def AcProducer.content (p : AcProducer) : ProducerContent :=
  ⟨p.name, Json.peak p.value, p.orientation, p.moduleType, p.modulesPerString, p.meterType,
    p.modbusAddress⟩

/-- The content of a limitation. -/
def FeedInLimitation.content (l : FeedInLimitation) : FeedInContent :=
  ⟨l.maximumFeedInPower, l.feedInSetting,
    if l.feedInSetting = .fixedPowerFactor then some (l.fixedPowerFactor.getD "") else none⟩

/-- The label and the serial number of a component; none if it has no serial number. -/
def SerialNumber.content? (s : SerialNumber) : Option (String × String) :=
  match s.value with
  | some value => if value = "" then none else some (s.label, value)
  | none => none

/-- **The content of an installation on a device.** -/
def Installation.content (d : Installation) (edgeId : String) : Content where
  edgeId
  customer := d.customer.contact
  company := if d.customer.isCorporateClient then some d.customer.companyName else none
  location :=
    if d.location.isEqualToCustomerData then none
    else some (d.location.contact, d.location.companyName)
  reserve :=
    if d.battery.emergencyReserve.isEnabled then some d.battery.emergencyReserve.value else none
  fuse := d.lineSideMeterFuse.rating?
  strings := stringContents 1 d.pv.dc
  feedIn := d.batteryInverter.feedInLimitation.content
  producers := d.pv.ac.map AcProducer.content
  components t := (d.battery.serialNumbers.ofTower t).filterMap SerialNumber.content?

/-! ### Writing a content -/

open Json

/-- The items of a string. -/
def StringContent.items (s : StringContent) : List ProtocolItem :=
  [⟨DcString.category, s!"Alias MPPT{s.number}", s.name⟩,
    ⟨DcString.category, s!"Wert MPPT{s.number} [Wp]", s.value⟩,
    ⟨DcString.category, s!"Ausrichtung MPPT{s.number}", s.orientation⟩,
    ⟨DcString.category, s!"Modultyp MPPT{s.number}", s.moduleType⟩,
    ⟨DcString.category, s!"Modulanzahl MPPT{s.number}", amount s.modules⟩]

/-- The items of a producer at a place. -/
def ProducerContent.items (p : ProducerContent) (number : Nat) : List ProtocolItem :=
  [⟨AcProducer.category, s!"Alias AC{number}", p.name⟩,
    ⟨AcProducer.category, s!"Wert AC{number} [Wp]", p.value⟩,
    ⟨AcProducer.category, s!"Ausrichtung AC{number}", p.orientation⟩,
    ⟨AcProducer.category, s!"Modultyp AC{number}", p.moduleType⟩,
    ⟨AcProducer.category, s!"Modulanzahl AC{number}", amount p.modules⟩,
    ⟨AcProducer.category, s!"Zählertyp AC{number}", p.meter.label⟩,
    ⟨AcProducer.category, s!"Modbus Kommunikationsadresse AC{number}", amount p.address⟩]

/-- The items of feeding in. -/
def FeedInContent.items (l : FeedInContent) : List ProtocolItem :=
  [⟨FeedInLimitation.category, "Maximale Einspeiseleistung [W]", amount l.power⟩,
    ⟨FeedInLimitation.category, "Typ", l.setting.name⟩] ++
    l.factor.toList.map fun factor => ⟨FeedInLimitation.category, "Cos φ Festwert", factor⟩

/-- The items of the reserve. -/
def reserveItems : Option Int → List ProtocolItem
  | some value =>
    [⟨EmergencyReserve.category, "Notstrom?", "ja"⟩,
      ⟨EmergencyReserve.category, "Notstromreserve [%]", amount (some value)⟩]
  | none => [⟨EmergencyReserve.category, "Notstrom?", "nein"⟩]

/-- The lots of a tower. -/
def towerLots (t : Tower) (components : List (String × String)) : List ProtocolLot :=
  components.map fun c => ⟨t.lotCategory, s!"{c.1} Seriennummer", c.2⟩

namespace Content

/-- The items of a content, section by section. -/
def sections (c : Content) : List (String × List ProtocolItem) :=
  [(EmergencyReserve.category, reserveItems c.reserve),
    ("Zählervorsicherung", [⟨"Zählervorsicherung", "Wert [A]", amount c.fuse⟩]),
    (DcString.category, c.strings.flatMap StringContent.items),
    (FeedInLimitation.category, c.feedIn.items),
    (AcProducer.category, (c.producers.zipIdx 1).flatMap fun p => p.1.items p.2),
    ("FEMS", [⟨"FEMS", "FEMS Nummer", c.edgeId⟩])]

/-- The lots of a content, tower by tower. -/
def towers (c : Content) : List (String × List ProtocolLot) :=
  Tower.all.map fun t => (t.lotCategory, towerLots t (c.components t))

/-- **The protocol of a content.** -/
def protocol (c : Content) : SetupProtocol where
  edgeId := c.edgeId
  customer := c.customer.toProtocol (c.company.map ProtocolCompany.mk)
  location := c.location.map fun l => l.1.toProtocol (some ⟨l.2⟩)
  items := c.sections.flatMap Prod.snd
  lots := c.towers.flatMap Prod.snd

end Content

/-! ### The protocol of an installation -/

theorem EmergencyReserve.items_eq {r : EmergencyReserve} {items : List ProtocolItem}
    (h : r.items = .ok items) :
    items = reserveItems (if r.isEnabled then some r.value else none) := by
  unfold EmergencyReserve.items at h
  split at h
  · next henabled =>
    obtain ⟨value, hvalue, h⟩ := exists_of_bind_eq_ok h
    obtain rfl := Except.ok.inj h
    rw [if_pos henabled, ← amountText_int (i := some r.value) hvalue]
    rfl
  · next henabled =>
    obtain rfl := Except.ok.inj h
    rw [if_neg henabled]
    rfl

theorem LineSideMeterFuse.items_eq {f : LineSideMeterFuse} {items : List ProtocolItem}
    (h : f.items = .ok items) :
    items = [⟨"Zählervorsicherung", "Wert [A]", amount f.rating?⟩] := by
  obtain ⟨value, hvalue, h⟩ := exists_of_bind_eq_ok h
  obtain rfl := Except.ok.inj h
  rw [amountText_int hvalue]

theorem DcString.items_eq {s : DcString} {number : Nat} {items : List ProtocolItem}
    (h : s.items number = .ok items) :
    items = (s.content? number).toList.flatMap StringContent.items := by
  unfold DcString.items at h
  unfold content?
  split at h
  · next hselected =>
    obtain ⟨value, hvalue, h⟩ := exists_of_bind_eq_ok h
    obtain ⟨modules, hmodules, h⟩ := exists_of_bind_eq_ok h
    obtain rfl := Except.ok.inj h
    rw [if_pos hselected, ← amountText_float hvalue, ← amountText_int hmodules]
    rfl
  · next hselected =>
    obtain rfl := Except.ok.inj h
    rw [if_neg hselected]
    rfl

theorem itemsFrom_strings {strings : List DcString} : ∀ {number : Nat} {items : List ProtocolItem},
    itemsFrom DcString.items number strings = .ok items →
      items = (stringContents number strings).flatMap StringContent.items := by
  induction strings with
  | nil =>
    intro number items h
    exact (Except.ok.inj h).symm
  | cons s strings ih =>
    intro number items h
    obtain ⟨these, hthese, h⟩ := exists_of_bind_eq_ok h
    obtain ⟨others, hothers, h⟩ := exists_of_bind_eq_ok h
    obtain rfl := Except.ok.inj h
    rw [stringContents, List.flatMap_append, ← DcString.items_eq hthese, ← ih hothers]

theorem FeedInLimitation.items_eq {l : FeedInLimitation} {items : List ProtocolItem}
    (h : l.items = .ok items) : items = l.content.items := by
  obtain ⟨power, hpower, h⟩ := exists_of_bind_eq_ok h
  obtain rfl := Except.ok.inj h
  rw [content, ← amountText_int hpower]
  split <;> rfl

theorem AcProducer.items_eq {p : AcProducer} {number : Nat} {items : List ProtocolItem}
    (h : p.items number = .ok items) : items = p.content.items number := by
  obtain ⟨value, hvalue, h⟩ := exists_of_bind_eq_ok h
  obtain ⟨modules, hmodules, h⟩ := exists_of_bind_eq_ok h
  obtain ⟨address, haddress, h⟩ := exists_of_bind_eq_ok h
  obtain rfl := Except.ok.inj h
  rw [← amountText_float hvalue, ← amountText_int hmodules, ← amountText_int haddress]
  rfl

theorem itemsFrom_producers {producers : List AcProducer} :
    ∀ {number : Nat} {items : List ProtocolItem},
      itemsFrom AcProducer.items number producers = .ok items →
        items = ((producers.map AcProducer.content).zipIdx number).flatMap
          fun p => p.1.items p.2 := by
  induction producers with
  | nil =>
    intro number items h
    exact (Except.ok.inj h).symm
  | cons p producers ih =>
    intro number items h
    obtain ⟨these, hthese, h⟩ := exists_of_bind_eq_ok h
    obtain ⟨others, hothers, h⟩ := exists_of_bind_eq_ok h
    obtain rfl := Except.ok.inj h
    rw [List.map_cons, List.zipIdx_cons, List.flatMap_cons, ← AcProducer.items_eq hthese,
      ← ih hothers]

theorem SerialNumbers.lots_eq (s : SerialNumbers) :
    s.lots = Tower.all.flatMap fun t =>
      towerLots t ((s.ofTower t).filterMap SerialNumber.content?) := by
  have hlot : ∀ (t : Tower) (n : SerialNumber), n.lot? t =
      n.content?.map fun c => ⟨t.lotCategory, s!"{c.1} Seriennummer", c.2⟩ := by
    intro t n
    unfold SerialNumber.lot? SerialNumber.content?
    cases n.value with
    | none => rfl
    | some value => by_cases hempty : value = "" <;> simp [hempty]
  rw [SerialNumbers.lots]
  congr 1
  funext t
  rw [towerLots, List.map_filterMap]
  congr 1
  funext n
  exact hlot t n

/-- **The protocol of an installation** is the one that is written of its content. -/
theorem Installation.protocol_eq {d : Installation} {edgeId : String} {p : SetupProtocol}
    (h : d.protocol edgeId = .ok p) : p = (d.content edgeId).protocol := by
  obtain ⟨items, hitems, h⟩ := exists_of_bind_eq_ok h
  obtain ⟨reserve, hreserve, hitems⟩ := exists_of_bind_eq_ok hitems
  obtain ⟨fuse, hfuse, hitems⟩ := exists_of_bind_eq_ok hitems
  obtain ⟨strings, hstrings, hitems⟩ := exists_of_bind_eq_ok hitems
  obtain ⟨feedIn, hfeedIn, hitems⟩ := exists_of_bind_eq_ok hitems
  obtain ⟨producers, hproducers, hitems⟩ := exists_of_bind_eq_ok hitems
  obtain rfl := Except.ok.inj hitems
  obtain rfl := Except.ok.inj h
  have hcustomer : d.customer.toProtocol =
      d.customer.contact.toProtocol ((d.content edgeId).company.map ProtocolCompany.mk) := by
    unfold Customer.toProtocol content
    split <;> rfl
  have hlocation : d.location.toProtocol? =
      (d.content edgeId).location.map fun l => l.1.toProtocol (some ⟨l.2⟩) := by
    unfold Location.toProtocol? content
    split <;> rfl
  rw [hcustomer, hlocation, SerialNumbers.lots_eq, EmergencyReserve.items_eq hreserve,
    LineSideMeterFuse.items_eq hfuse, itemsFrom_strings hstrings,
    FeedInLimitation.items_eq hfeedIn, itemsFrom_producers hproducers]
  simp [Content.protocol, Content.sections, Content.towers, List.flatMap_map, content]

/-! ### Nothing is lost -/

theorem FeedInSetting.name_injective {a b : FeedInSetting} (h : a.name = b.name) : a = b := by
  have hsettings := congrArg FeedInSetting.ofName? h
  rw [FeedInSetting.ofName?_name, FeedInSetting.ofName?_name] at hsettings
  exact Option.some.inj hsettings

theorem Meter.label_injective {a b : Meter} (h : a.label = b.label) : a = b := by
  cases a <;> cases b <;> first | rfl | exact absurd h (by decide)

/-- The first item of a string holds its place. -/
theorem StringContent.items_injective (s t : StringContent) (h : s.items = t.items) : s = t := by
  obtain ⟨number, name, value, orientation, moduleType, modules⟩ := s
  obtain ⟨number', name', value', orientation', moduleType', modules'⟩ := t
  simp only [StringContent.items, List.cons.injEq, ProtocolItem.mk.injEq] at h
  obtain ⟨⟨-, hnumber, hname⟩, ⟨-, -, hvalue⟩, ⟨-, -, horientation⟩, ⟨-, -, htype⟩,
    ⟨-, -, hmodules⟩, -⟩ := h
  have hnumber := toString_injective ((String.append_right_inj "Alias MPPT").mp hnumber)
  rw [hnumber, hname, hvalue, horientation, htype, amount_injective hmodules]

/-- The first item of a producer holds its place. -/
theorem ProducerContent.items_injective (p q : ProducerContent × Nat)
    (h : p.1.items p.2 = q.1.items q.2) : p = q := by
  obtain ⟨⟨name, value, orientation, moduleType, modules, meter, address⟩, number⟩ := p
  obtain ⟨⟨name', value', orientation', moduleType', modules', meter', address'⟩, number'⟩ := q
  simp only [ProducerContent.items, List.cons.injEq, ProtocolItem.mk.injEq] at h
  obtain ⟨⟨-, hnumber, hname⟩, ⟨-, -, hvalue⟩, ⟨-, -, horientation⟩, ⟨-, -, htype⟩,
    ⟨-, -, hmodules⟩, ⟨-, -, hmeter⟩, ⟨-, -, haddress⟩, -⟩ := h
  have hnumber := toString_injective ((String.append_right_inj "Alias AC").mp hnumber)
  rw [hnumber, hname, hvalue, horientation, htype, amount_injective hmodules,
    Meter.label_injective hmeter, amount_injective haddress]

theorem FeedInContent.items_injective {l m : FeedInContent} (h : l.items = m.items) : l = m := by
  obtain ⟨power, setting, factor⟩ := l
  obtain ⟨power', setting', factor'⟩ := m
  simp only [FeedInContent.items, List.cons_append, List.nil_append, List.cons.injEq,
    ProtocolItem.mk.injEq] at h
  obtain ⟨⟨-, -, hpower⟩, ⟨-, -, hsetting⟩, hfactor⟩ := h
  have hfactor : factor = factor' := by
    cases factor <;> cases factor' <;> simp_all
  rw [amount_injective hpower, FeedInSetting.name_injective hsetting, hfactor]

theorem reserveItems_injective {i j : Option Int} (h : reserveItems i = reserveItems j) :
    i = j := by
  cases i <;> cases j <;> simp only [reserveItems, List.cons.injEq, ProtocolItem.mk.injEq] at h
  · rfl
  · exact absurd h.1.2.2 (by decide)
  · exact absurd h.1.2.2 (by decide)
  · exact amount_injective h.2.1.2.2

theorem towerLots_injective {t : Tower} {cs ds : List (String × String)}
    (h : towerLots t cs = towerLots t ds) : cs = ds := by
  refine (List.map_inj_right ?_).mp h
  rintro ⟨label, value⟩ ⟨label', value'⟩ hlot
  obtain ⟨-, hlabel, hvalue⟩ := ProtocolLot.mk.inj hlot
  have hlabel : label = label' := (String.append_left_inj " Seriennummer").mp hlabel
  have hvalue : value = value' := hvalue
  rw [hlabel, hvalue]

theorem Contact.toProtocol_injective {c d : Contact} {company company' : Option ProtocolCompany}
    (h : c.toProtocol company = d.toProtocol company') : c = d ∧ company = company' := by
  obtain ⟨firstName, lastName, street, zip, city, country, email, phone⟩ := c
  obtain ⟨firstName', lastName', street', zip', city', country', email', phone'⟩ := d
  simp only [toProtocol, ProtocolContact.mk.injEq, ProtocolAddress.mk.injEq] at h
  obtain ⟨hfirst, hlast, hemail, hphone, ⟨hstreet, hcity, hzip, hcountry⟩, hcompany⟩ := h
  rw [hfirst, hlast, hemail, hphone, hstreet, hcity, hzip, hcountry]
  exact ⟨rfl, hcompany⟩

namespace Content

theorem headed_sections (c : Content) : Headed ProtocolItem.category c.sections := by
  intro s hs
  simp only [sections, List.mem_cons, List.not_mem_nil, or_false] at hs
  rcases hs with rfl | rfl | rfl | rfl | rfl | rfl
  · cases c.reserve <;> simp [reserveItems]
  · simp
  · intro i hi
    obtain ⟨s, -, hs⟩ := List.mem_flatMap.mp hi
    simp only [StringContent.items, List.mem_cons, List.not_mem_nil, or_false] at hs
    rcases hs with rfl | rfl | rfl | rfl | rfl <;> rfl
  · simp only [FeedInContent.items]
    cases c.feedIn.factor <;> simp
  · intro i hi
    obtain ⟨p, -, hp⟩ := List.mem_flatMap.mp hi
    simp only [ProducerContent.items, List.mem_cons, List.not_mem_nil, or_false] at hp
    rcases hp with rfl | rfl | rfl | rfl | rfl | rfl | rfl <;> rfl
  · simp

theorem headed_towers (c : Content) : Headed ProtocolLot.category c.towers := by
  intro s hs lot hlot
  obtain ⟨t, -, rfl⟩ := List.mem_map.mp hs
  obtain ⟨_, -, rfl⟩ := List.mem_map.mp hlot
  rfl

theorem nodup_sections (c : Content) : (c.sections.map Prod.fst).Nodup := by
  simp only [sections, List.map_cons, List.map_nil]
  decide

theorem nodup_towers (c : Content) : (c.towers.map Prod.fst).Nodup := by
  simp only [towers, Tower.all, List.map_cons, List.map_nil]
  decide

/-- **Nothing of a content is lost** in its protocol. -/
theorem protocol_injective {c d : Content} (h : c.protocol = d.protocol) : c = d := by
  obtain ⟨hedgeId, hcustomer, hlocation, hitems, hlots⟩ := SetupProtocol.mk.inj h
  obtain ⟨hcontact, hcompany⟩ := Contact.toProtocol_injective hcustomer
  have hcompany : c.company = d.company :=
    Option.map_injective (fun _ _ h => ProtocolCompany.mk.inj h) hcompany
  have hlocation : c.location = d.location := by
    refine Option.map_injective ?_ hlocation
    rintro ⟨contact, name⟩ ⟨contact', name'⟩ hl
    obtain ⟨hcontact, hname⟩ := Contact.toProtocol_injective hl
    exact Prod.ext hcontact (ProtocolCompany.mk.inj (Option.some.inj hname))
  have hsections : c.sections = d.sections :=
    sections_injective rfl c.nodup_sections c.headed_sections d.headed_sections hitems
  have htowers : c.towers = d.towers :=
    sections_injective rfl c.nodup_towers c.headed_towers d.headed_towers hlots
  simp only [sections, List.cons.injEq, Prod.mk.injEq, true_and, and_true,
    ProtocolItem.mk.injEq] at hsections
  obtain ⟨hreserve, hfuse, hstrings, hfeedIn, hproducers, -⟩ := hsections
  have hstrings : c.strings = d.strings :=
    flatMap_injective (n := 4) (fun _ => rfl) StringContent.items_injective hstrings
  have hproducers : c.producers = d.producers := by
    have hnumbered :=
      flatMap_injective (n := 6) (fun _ => rfl) ProducerContent.items_injective hproducers
    rw [← List.zipIdx_map_fst 1 c.producers, hnumbered, List.zipIdx_map_fst]
  have hcomponents : c.components = d.components := by
    funext t
    have ht : t ∈ Tower.all := by cases t <;> decide
    have hlots := List.map_inj_left.mp htowers t ht
    exact towerLots_injective (Prod.mk.inj hlots).2
  obtain ⟨edgeId, customer, company, location, reserve, fuse, strings, feedIn, producers,
    components⟩ := c
  obtain ⟨edgeId', customer', company', location', reserve', fuse', strings', feedIn', producers',
    components'⟩ := d
  rw [Content.mk.injEq]
  exact ⟨hedgeId, hcontact, hcompany, hlocation, reserveItems_injective hreserve,
    amount_injective hfuse, hstrings, FeedInContent.items_injective hfeedIn, hproducers,
    hcomponents⟩

end Content

/-! ### Protocols that are transmitted alike -/

section Alike

theorem Json.alikeItems_map {α : Type} {write : α → Json}
    (h : ∀ a b, alike (write a) (write b) = true ↔ a = b) :
    ∀ as bs : List α, alikeItems (as.map write) (bs.map write) = true ↔ as = bs
  | [], [] => by simp [alikeItems]
  | [], b :: bs => by simp [alikeItems]
  | a :: as, [] => by simp [alikeItems]
  | a :: as, b :: bs => by
    rw [List.map_cons, List.map_cons, alikeItems, Bool.and_eq_true, h, alikeItems_map h,
      List.cons.injEq]

theorem ProtocolItem.alike_iff (i j : ProtocolItem) : i.toJson.alike j.toJson = true ↔ i = j := by
  obtain ⟨category, name, value⟩ := i
  obtain ⟨category', name', value'⟩ := j
  simp [toJson, alike, alikeMembers, Assoc.get?]

theorem ProtocolLot.alike_iff (l m : ProtocolLot) : l.toJson.alike m.toJson = true ↔ l = m := by
  obtain ⟨category, name, serialNumber⟩ := l
  obtain ⟨category', name', serialNumber'⟩ := m
  simp [toJson, alike, alikeMembers, Assoc.get?]

theorem ProtocolCompany.alike_iff (c d : ProtocolCompany) :
    c.toJson.alike d.toJson = true ↔ c = d := by
  obtain ⟨name⟩ := c
  obtain ⟨name'⟩ := d
  cases name <;> cases name' <;>
    simp [toJson, optionalMember, alike, alikeMembers, Assoc.get?]

theorem ProtocolAddress.alike_iff (a b : ProtocolAddress) :
    a.toJson.alike b.toJson = true ↔ a = b := by
  obtain ⟨street, city, zip, country⟩ := a
  obtain ⟨street', city', zip', country'⟩ := b
  simp [toJson, alike, alikeMembers, Assoc.get?]

theorem ProtocolContact.alike_iff (c d : ProtocolContact) :
    c.toJson.alike d.toJson = true ↔ c = d := by
  obtain ⟨firstName, lastName, email, phone, address, company⟩ := c
  obtain ⟨firstName', lastName', email', phone', address', company'⟩ := d
  cases company <;> cases company' <;>
    simp [toJson, optionalMember, alike, alikeMembers, Assoc.get?, ProtocolAddress.alike_iff,
      ProtocolCompany.alike_iff]

/-- **Protocols are transmitted alike** exactly if they are the same. -/
theorem SetupProtocol.alike_iff (p q : SetupProtocol) : p.toJson.alike q.toJson = true ↔ p = q := by
  obtain ⟨edgeId, customer, location, items, lots⟩ := p
  obtain ⟨edgeId', customer', location', items', lots'⟩ := q
  cases location <;> cases location' <;>
    simp [toJson, optionalMember, alike, alikeMembers, Assoc.get?, ProtocolContact.alike_iff,
      Json.alikeItems_map ProtocolItem.alike_iff, Json.alikeItems_map ProtocolLot.alike_iff]

end Alike

/-- **A protocol is exactly the content**: of two installations on two devices that have a
protocol, the protocols are transmitted alike if and only if the contents are the same. -/
theorem Installation.protocol_alike_iff {d₁ d₂ : Installation} {edge₁ edge₂ : String}
    {p₁ p₂ : SetupProtocol} (h₁ : d₁.protocol edge₁ = .ok p₁) (h₂ : d₂.protocol edge₂ = .ok p₂) :
    p₁.toJson.alike p₂.toJson = true ↔ d₁.content edge₁ = d₂.content edge₂ := by
  rw [SetupProtocol.alike_iff, protocol_eq h₁, protocol_eq h₂]
  constructor
  · exact Content.protocol_injective
  · exact congrArg Content.protocol

/-- An installation with one string, which is the second one. -/
def Installation.bare : Installation :=
  { pv := { dc := [{}, { isSelected := true, value := some (.zero false) }] } }

/-- The same with much that does not count: a company that the customer is not, a location where
the customer is, a reserve that is not kept, a rating that is not chosen, a string that is not
selected, the sign of a zero, a power factor that is not fixed, components without serial
numbers. -/
def Installation.padded : Installation :=
  { customer := { companyName := some "Solar" }
    location := { companyName := some "Solar", contact := { city := "Bern" } }
    pv := { dc := [{ name := "Süd" }, { isSelected := true, value := some (.zero true) }] }
    battery :=
      { emergencyReserve := { value := 50 }
        serialNumbers := { tower1 := [{ label := "BMS" }, { label := "Modul", value := "" }] } }
    batteryInverter := { feedInLimitation := { fixedPowerFactor := "0.9" } }
    lineSideMeterFuse := { otherValue := some 100 } }

/-- What does not count makes no difference. -/
theorem Installation.protocol_alike_padded : ∃ p₁ p₂, bare.protocol "edge0" = .ok p₁ ∧
    padded.protocol "edge0" = .ok p₂ ∧ p₁.toJson.alike p₂.toJson = true := by
  have hbare : bare.IsWritable := show (chars bare.toJson).isSome = true by decide +kernel
  have hpadded : padded.IsWritable := show (chars padded.toJson).isSome = true by decide +kernel
  obtain ⟨p₁, h₁⟩ := exists_protocol hbare "edge0"
  obtain ⟨p₂, h₂⟩ := exists_protocol hpadded "edge0"
  have hpeak : peak (some (.zero false)) = peak (some (.zero true)) := by decide +kernel
  have hcontent : bare.content "edge0" = padded.content "edge0" := by
    simp [content, bare, padded, stringContents, DcString.content?, FeedInLimitation.content,
      LineSideMeterFuse.rating?, hpeak]
    funext t
    cases t <;> rfl
  exact ⟨p₁, p₂, h₁, h₂, (protocol_alike_iff h₁ h₂).mpr hcontent⟩

end Commissioning
