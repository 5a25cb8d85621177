import Commissioning.Field.Step
import Commissioning.Proofs.Protocol.Content
import Mathlib.Data.List.Nodup

/-!
# What the views have asked for is filled in

The wizard leaves a view only when nothing is said against its fields, and some fields must not be
left empty. This module follows three of them into the setup protocol: the name and the peak power
of a string or of a producer, and the address of a producer on the bus.

How far this goes depends on the system. The view for the strings checks as many of them as the
system has inputs, and a protocol has all that are selected; producers are checked by a view that
only one of the systems has, and a protocol has them anyway. **Up to these two bounds, what is asked
for is filled in** (`Commissioning.Installation.filled_of_checked`), and no further: an installation
on which every view of its system agrees may have a string behind the inputs, and a producer, of
which nothing is known (`Commissioning.Installation.not_filled_beyond`).
-/

namespace Commissioning

/-! ### A value that must not be empty -/

/-- The complaint about a field, if there is one, stands in front of those about the others. -/
theorem checkFields_cons_eq_ok_iff {f : StepField} {fields : List StepField} {document : Json}
    {complaints : Complaints} :
    checkFields (f :: fields) document = .ok complaints ↔
      ∃ c rest, f.check document = .ok c ∧ checkFields fields document = .ok rest ∧
        complaints = (c.map fun c => (f.id, c)).toList ++ rest := by
  constructor
  · intro h
    obtain ⟨c, hc, h⟩ := exists_of_bind_eq_ok h
    obtain ⟨rest, hrest, h⟩ := exists_of_bind_eq_ok h
    refine ⟨c, rest, hc, hrest, ?_⟩
    cases c <;> exact (Except.ok.inj h).symm
  · rintro ⟨c, rest, hc, hrest, rfl⟩
    rw [checkFields, hc, hrest]
    cases c <;> rfl

/-- Nothing is said against a document if nothing is said against any of its fields. -/
theorem check_of_checkFields {document : Json} {fields : List StepField}
    (h : checkFields fields document = .ok []) : ∀ f ∈ fields, f.check document = .ok none := by
  induction fields with
  | nil => simp
  | cons g fields ih =>
    obtain ⟨c, rest, hc, hrest, hnil⟩ := checkFields_cons_eq_ok_iff.mp h
    obtain ⟨hnone, rfl⟩ := List.append_eq_nil_iff.mp hnil.symm
    obtain rfl : c = none := by simpa using hnone
    exact List.forall_mem_cons.mpr ⟨hc, ih hrest⟩

/-- A required value against which nothing is said is not empty. -/
theorem Field.isBlank_of_check {f : Field} {value : Json} (h : f.check value = .ok none)
    (hrequired : f.required = true) : value.isBlank = false := by
  cases hblank : value.isBlank with
  | false => rfl
  | true =>
    rw [Field.check, if_pos hblank, if_pos hrequired] at h
    cases h

/-- **A required field that counts** has a value in the document. -/
theorem StepField.isBlank_of_check {f : StepField} {document : Json}
    (h : f.check document = .ok none) (hon : f.isOn document = true)
    (hrequired : f.field.required = true) :
    ((document.at? f.path).getD .null).isBlank = false := by
  rw [StepField.check, if_pos hon] at h
  exact Field.isBlank_of_check h hrequired

/-! ### Texts that are not empty -/

namespace Text

theorem isEmptyText_of_mem {cs : List Char} {c : Char} (hc : c ∈ cs) (h : isBlank c = false) :
    isEmptyText (String.ofList cs) = false := by
  rw [isEmptyText, String.toList_ofList, List.all_eq_false]
  exact ⟨c, hc, by simp [h]⟩

end Text

namespace Json

/-- The text of a whole number is not empty. -/
theorem isEmptyText_intChars (i : Int) : Text.isEmptyText (String.ofList (intChars i)) = false := by
  obtain ⟨c, hc⟩ : ∃ c, c ∈ intChars i := by
    refine List.exists_mem_of_ne_nil _ ?_
    unfold intChars
    split
    · exact List.cons_ne_nil _ _
    · exact natChars_ne_nil _
  exact Text.isEmptyText_of_mem hc (isNumeralChar_of_mem_intChars hc).isBlank

theorem isEmptyText_of_text {i : Int} {s : String} (h : Number.text (.int i) = .ok s) :
    Text.isEmptyText s = false := by
  unfold Number.text intChars? at h
  by_cases hlength : (natChars i.natAbs).length ≤ digitLimit
  · simp only [if_pos hlength] at h
    obtain rfl := Except.ok.inj h
    exact isEmptyText_intChars i
  · simp only [if_neg hlength] at h
    cases h

theorem isEmptyText_amount {i : Option Int} (h : (ofOptionInt i).isBlank = false) :
    Text.isEmptyText (amount i) = false := by
  cases i with
  | none => cases h
  | some i => exact isEmptyText_intChars i

/-- The text of a double that is not whole is not empty. -/
theorem isEmptyText_text (negative : Bool) {u : Nat} (hu : Binary64.Representable u) :
    Text.isEmptyText (Binary64.finite negative u hu).text = false := by
  obtain ⟨n, hchars, -⟩ := exists_numeral negative hu
  obtain ⟨c, cs, hc, hcs⟩ := n.exists_cons_unsignedChars
  have hmem : c ∈ (Binary64.finite negative u hu).chars plainLayout := by
    show c ∈ (Binary64.finite negative u hu).chars documentLayout
    rw [← hchars, Numeral.chars, hcs]
    simp
  exact Text.isEmptyText_of_mem hmem (isBlank_of_isDigit hc)

theorem isEmptyText_peak {x : Option Binary64} (h : (ofOptionFloat x).isBlank = false) :
    Text.isEmptyText (peak x) = false := by
  rcases x with _ | x
  · cases h
  obtain ⟨s, hs⟩ := exists_amountText_float (some x)
  rw [amountText_float hs]
  cases x with
  | nan =>
    cases hs
    decide
  | infinite negative =>
    cases hs
    cases negative <;> decide
  | finite negative u hu =>
    by_cases hwhole : u % Binary64.one = 0
    · simp only [ofOptionFloat, amountText, Number.ofBinary64, if_pos hwhole] at hs
      exact isEmptyText_of_text hs
    · simp only [ofOptionFloat, amountText, Number.ofBinary64, if_neg hwhole, Number.text] at hs
      obtain rfl := Except.ok.inj hs
      exact isEmptyText_text negative hu

end Json

/-! ### The document of an installation -/

/-- A path through a list goes on in one of its items. -/
theorem Json.at?_item {document item : Json} {items : List Json} {list : List Step} {i : Nat}
    (hlist : document.at? list = some (.arr items)) (hitem : items[i]? = some item)
    (path : List Step) : document.at? (list ++ .index i :: path) = item.at? path := by
  rw [Json.at?_append, hlist, Option.bind_some, Json.at?, if_neg (by omega), Int.toNat_natCast,
    hitem]

namespace Installation

variable {d : Installation} {i : Nat}

/-- The string at a place of the document. -/
theorem at?_string {s : DcString} (hs : d.pv.dc[i]? = some s) (path : List Step) :
    d.toJson.at? ([.field "pv", .field "dc", .index i] ++ path) = s.toJson.at? path := by
  have hstrings : d.toJson.at? [.field "pv", .field "dc"] =
      some (.arr (d.pv.dc.map DcString.toJson)) := rfl
  exact Json.at?_item hstrings (by rw [List.getElem?_map, hs, Option.map_some]) path

/-- The producer at a place of the document. -/
theorem at?_producer {p : AcProducer} (hp : d.pv.ac[i]? = some p) (path : List Step) :
    d.toJson.at? ([.field "pv", .field "ac", .index i] ++ path) = p.toJson.at? path := by
  have hproducers : d.toJson.at? [.field "pv", .field "ac"] =
      some (.arr (d.pv.ac.map AcProducer.toJson)) := rfl
  exact Json.at?_item hproducers (by rw [List.getElem?_map, hp, Option.map_some]) path

/-- **A string that has been checked** has a name and a peak power. -/
theorem string_filled {system : StorageSystem}
    (h : checkStep (some .protocolPv) system d = .ok []) {s : DcString}
    (hs : d.pv.dc[i]? = some s) (hselected : s.isSelected = true) (hi : i < system.maxMppt) :
    Text.isEmptyText s.name = false ∧ Text.isEmptyText (Json.peak s.value) = false := by
  obtain ⟨hlength, -⟩ := List.getElem?_eq_some_iff.mp hs
  have hchecked : ∀ f ∈ stringFields i, f.check d.toJson = .ok none := fun f hf =>
    check_of_checkFields h f (List.mem_flatMap.mpr ⟨i, List.mem_range.mpr (by omega), hf⟩)
  have hon : ∀ f ∈ stringFields i, f.isOn d.toJson = true := by
    intro f hf
    have hguard : d.toJson.at? ([.field "pv", .field "dc", .index i] ++ [.field "is_selected"]) =
        some (.bool s.isSelected) := d.at?_string hs _
    simp only [stringFields, List.mem_cons, List.not_mem_nil, or_false] at hf
    rcases hf with rfl | rfl | rfl
    all_goals
      simp only [StepField.isOn]
      rw [hguard, hselected]
      decide +kernel
  simp only [stringFields, List.forall_mem_cons] at hchecked hon
  have hname := StepField.isBlank_of_check hchecked.1 hon.1 rfl
  have hvalue := StepField.isBlank_of_check hchecked.2.1 hon.2.1 rfl
  rw [at?_string hs] at hname hvalue
  exact ⟨hname, Json.isEmptyText_peak hvalue⟩

/-- **A producer that has been checked** has a name, a peak power, and an address. -/
theorem producer_filled {system : StorageSystem}
    (h : checkStep (some .protocolAdditionalAcProducers) system d = .ok []) {p : AcProducer}
    (hp : d.pv.ac[i]? = some p) :
    Text.isEmptyText p.name = false ∧ Text.isEmptyText (Json.peak p.value) = false ∧
      Text.isEmptyText (Json.amount p.modbusAddress) = false := by
  obtain ⟨hlength, -⟩ := List.getElem?_eq_some_iff.mp hp
  have hchecked : ∀ f ∈ producerFields i, f.check d.toJson = .ok none := fun f hf =>
    check_of_checkFields h f (List.mem_flatMap.mpr ⟨i, List.mem_range.mpr hlength, hf⟩)
  simp only [producerFields, List.forall_mem_cons] at hchecked
  have hname := StepField.isBlank_of_check hchecked.1 rfl rfl
  have hvalue := StepField.isBlank_of_check hchecked.2.1 rfl rfl
  have haddress := StepField.isBlank_of_check hchecked.2.2.1 rfl rfl
  rw [at?_producer hp] at hname hvalue haddress
  exact ⟨hname, Json.isEmptyText_peak hvalue, Json.isEmptyText_amount haddress⟩

end Installation

/-! ### The items of a protocol -/

/-- What the names of the items begin with that the views for strings and producers ask for. -/
def askedFor : List String := ["Alias", "Wert", "Modbus Kommunikationsadresse"]

/-- Whether the name of an item begins like that. -/
def ProtocolItem.isAskedFor (i : ProtocolItem) : Bool :=
  askedFor.any fun start => start.toList.isPrefixOf i.name.toList

/-- A name that begins in another way is not asked for. -/
theorem ProtocolItem.not_isAskedFor {category rest value : String} (start : String)
    (h : ∀ asked ∈ askedFor, ¬asked.toList <+: start.toList ∧ ¬start.toList <+: asked.toList) :
    ¬(⟨category, start ++ rest, value⟩ : ProtocolItem).isAskedFor = true := by
  intro hasked
  obtain ⟨asked, hmem, hprefix⟩ := List.any_eq_true.mp hasked
  have hname : asked.toList <+: start.toList ++ rest.toList := by
    rw [← String.toList_append]
    exact List.isPrefixOf_iff_prefix.mp hprefix
  rcases List.prefix_or_prefix_of_prefix hname (List.prefix_append _ _) with hleft | hright
  · exact (h asked hmem).1 hleft
  · exact (h asked hmem).2 hright

/-- The string of a content is one of the selected ones, under its place counted from one. -/
theorem exists_of_mem_stringContents {c : StringContent} :
    ∀ {strings : List DcString} {number : Nat}, c ∈ stringContents number strings →
      ∃ i s, strings[i]? = some s ∧ s.isSelected = true ∧ c.number = number + i ∧
        c.name = s.name ∧ c.value = Json.peak s.value
  | s :: rest, number, hc => by
    rcases List.mem_append.mp hc with hc | hc
    · unfold DcString.content? at hc
      split at hc
      · next hselected =>
        obtain rfl := List.mem_singleton.mp hc
        exact ⟨0, s, rfl, hselected, rfl, rfl, rfl⟩
      · cases hc
    · obtain ⟨i, t, ht, hselected, hnumber, hname, hvalue⟩ := exists_of_mem_stringContents hc
      exact ⟨i + 1, t, ht, hselected, by omega, hname, hvalue⟩

/-- An item of a string that is asked for is its name or its peak power. -/
theorem StringContent.cases_of_isAskedFor {c : StringContent} {item : ProtocolItem}
    (hitem : item ∈ c.items) (hasked : item.isAskedFor = true) :
    (item.name = s!"Alias MPPT{c.number}" ∧ item.value = c.name) ∨
      (item.name = s!"Wert MPPT{c.number} [Wp]" ∧ item.value = c.value) := by
  simp only [StringContent.items, List.mem_cons, List.not_mem_nil, or_false] at hitem
  rcases hitem with rfl | rfl | rfl | rfl | rfl
  · exact Or.inl ⟨rfl, rfl⟩
  · exact Or.inr ⟨rfl, rfl⟩
  · exact absurd hasked (ProtocolItem.not_isAskedFor "Ausrichtung MPPT" (by decide))
  · exact absurd hasked (ProtocolItem.not_isAskedFor "Modultyp MPPT" (by decide))
  · exact absurd hasked (ProtocolItem.not_isAskedFor "Modulanzahl MPPT" (by decide))

/-- An item of a producer that is asked for is its name, its peak power, or its address. -/
theorem ProducerContent.value_of_isAskedFor {c : ProducerContent} {number : Nat}
    {item : ProtocolItem} (hitem : item ∈ c.items number) (hasked : item.isAskedFor = true) :
    item.value = c.name ∨ item.value = c.value ∨ item.value = Json.amount c.address := by
  simp only [ProducerContent.items, List.mem_cons, List.not_mem_nil, or_false] at hitem
  rcases hitem with rfl | rfl | rfl | rfl | rfl | rfl | rfl
  · exact Or.inl rfl
  · exact Or.inr (Or.inl rfl)
  · exact absurd hasked (ProtocolItem.not_isAskedFor "Ausrichtung AC" (by decide))
  · exact absurd hasked (ProtocolItem.not_isAskedFor "Modultyp AC" (by decide))
  · exact absurd hasked (ProtocolItem.not_isAskedFor "Modulanzahl AC" (by decide))
  · exact absurd hasked (ProtocolItem.not_isAskedFor "Zählertyp AC" (by decide))
  · exact Or.inr (Or.inr rfl)

/-- What stands under a heading of a protocol is the section of that heading. -/
theorem Content.mem_section {c : Content} {item : ProtocolItem} (h : item ∈ c.protocol.items)
    {items : List ProtocolItem} (hsection : (item.category, items) ∈ c.sections) :
    item ∈ items := by
  obtain ⟨⟨name, others⟩, hs, hitem⟩ := List.mem_flatMap.mp h
  obtain rfl : item.category = name := c.headed_sections _ hs item hitem
  have hsame : (item.category, others) = (item.category, items) :=
    List.inj_on_of_nodup_map c.nodup_sections hs hsection rfl
  rw [← (Prod.mk.inj hsame).2]
  exact hitem

namespace Installation

variable {d : Installation} {system : StorageSystem} {edgeId : String} {p : SetupProtocol}
  {item : ProtocolItem}

/-- **The strings** up to the number of inputs are filled in. -/
theorem filled_string (hp : d.protocol edgeId = .ok p)
    (hchecked : checkStep (some .protocolPv) system d = .ok []) (hitem : item ∈ p.items)
    (hcategory : item.category = DcString.category) (hasked : item.isAskedFor = true) :
    Text.isEmptyText item.value = false ∨ ∃ number, system.maxMppt < number ∧
      (item.name = s!"Alias MPPT{number}" ∨ item.name = s!"Wert MPPT{number} [Wp]") := by
  obtain rfl := protocol_eq hp
  have hsection : item ∈ (d.content edgeId).strings.flatMap StringContent.items :=
    Content.mem_section hitem (by simp [Content.sections, hcategory])
  obtain ⟨c, hc, hitem⟩ := List.mem_flatMap.mp hsection
  obtain ⟨i, s, hs, hselected, hnumber, hname, hvalue⟩ := exists_of_mem_stringContents hc
  have hcases := StringContent.cases_of_isAskedFor hitem hasked
  by_cases hi : i < system.maxMppt
  · left
    obtain ⟨hfilled, hfilled'⟩ := string_filled hchecked hs hselected hi
    rcases hcases with ⟨-, h⟩ | ⟨-, h⟩
    · rwa [h, hname]
    · rwa [h, hvalue]
  · refine Or.inr ⟨c.number, by omega, ?_⟩
    exact hcases.imp And.left And.left

/-- **The producers** are filled in, where there is a view for them. -/
theorem filled_producer (hp : d.protocol edgeId = .ok p)
    (hchecked : checkStep (some .protocolAdditionalAcProducers) system d = .ok [])
    (hitem : item ∈ p.items) (hcategory : item.category = AcProducer.category)
    (hasked : item.isAskedFor = true) : Text.isEmptyText item.value = false := by
  obtain rfl := protocol_eq hp
  have hsection : item ∈ ((d.content edgeId).producers.zipIdx 1).flatMap fun p => p.1.items p.2 :=
    Content.mem_section hitem (by simp [Content.sections, hcategory])
  obtain ⟨⟨c, number⟩, hc, hitem⟩ := List.mem_flatMap.mp hsection
  obtain ⟨producer, hproducer, rfl⟩ :=
    List.mem_map.mp (show c ∈ d.pv.ac.map AcProducer.content from List.fst_mem_of_mem_zipIdx hc)
  obtain ⟨i, hi⟩ := List.mem_iff_getElem?.mp hproducer
  obtain ⟨hname, hvalue, haddress⟩ := producer_filled hchecked hi
  rcases ProducerContent.value_of_isAskedFor hitem hasked with h | h | h
  · rwa [h]
  · rwa [h]
  · rwa [h]

/-- Every system that can be chosen has a view for the strings. -/
theorem protocolPv_mem_views (h : system.isGeneral = false) : .protocolPv ∈ system.views := by
  cases system with
  | general => cases h
  | _ => decide

/-- **What is asked for is filled in**, if no view of the system has anything to say against the
installation: in every item of a string that is connected to an input of the system, and in every
item of a producer if the system has a view for producers. An installation that can be written has
a protocol. -/
theorem filled_of_checked (hsystem : system.isGeneral = false)
    (hchecked : ∀ view ∈ system.views, checkStep (some view) system d = .ok []) (edgeId : String) :
    (∀ p, d.protocol edgeId = .ok p → ∀ item ∈ p.items, item.isAskedFor = true →
      (item.category = DcString.category → Text.isEmptyText item.value = false ∨
        ∃ number, system.maxMppt < number ∧
          (item.name = s!"Alias MPPT{number}" ∨ item.name = s!"Wert MPPT{number} [Wp]")) ∧
      (item.category = AcProducer.category → .protocolAdditionalAcProducers ∈ system.views →
        Text.isEmptyText item.value = false)) ∧
    (d.IsWritable → ∃ p, d.protocol edgeId = .ok p) := by
  refine ⟨fun p hp item hitem hasked => ⟨fun hcategory => ?_, fun hcategory hview => ?_⟩,
    fun hw => exists_protocol hw edgeId⟩
  · exact filled_string hp (hchecked _ (protocolPv_mem_views hsystem)) hitem hcategory hasked
  · exact filled_producer hp (hchecked _ hview) hitem hcategory hasked

/-! ### Two installations -/

/-- An installation on which every view agrees, with the given strings and producers. -/
def surveyed (pv : Photovoltaics) : Installation where
  customer :=
    { contact :=
        { firstName := "Anna", lastName := "Muster", street := "Weg 1", zip := "94469"
          city := "Deggendorf", email := "anna@example.org", phone := "0991" } }
  pv
  batteryInverter := { feedInLimitation := { maximumFeedInPower := some 5000 } }
  lineSideMeterFuse := { fixedValue := some 35 }

/-- A string that is filled in. -/
def roof : DcString := { isSelected := true, name := "Dach", value := some (.ofRatio 5000 1) }

/-- Two strings and a producer that are filled in, and a string behind the inputs that is not. -/
theorem filled_of_checked_home :
    let d := surveyed ⟨[roof, roof, { isSelected := true }],
      [{ name := "BHKW", value := some (.ofRatio 5000 1), modbusAddress := some 6 }]⟩
    StorageSystem.home.isGeneral = false ∧
    (∀ view ∈ StorageSystem.home.views, checkStep (some view) .home d = .ok []) ∧
    (∀ p, d.protocol "edge0" = .ok p → ∀ item ∈ p.items, item.isAskedFor = true →
      (item.category = DcString.category → Text.isEmptyText item.value = false ∨
        ∃ number, StorageSystem.home.maxMppt < number ∧
          (item.name = s!"Alias MPPT{number}" ∨ item.name = s!"Wert MPPT{number} [Wp]")) ∧
      (item.category = AcProducer.category →
        .protocolAdditionalAcProducers ∈ StorageSystem.home.views →
          Text.isEmptyText item.value = false)) ∧
    (d.IsWritable → ∃ p, d.protocol "edge0" = .ok p) := by
  intro d
  have hchecked : ∀ view ∈ StorageSystem.home.views, checkStep (some view) .home d = .ok [] := by
    decide +kernel
  exact ⟨rfl, hchecked, filled_of_checked rfl hchecked "edge0"⟩

/-- A third string and a producer of which nothing is filled in. -/
def overfull : Installation := surveyed ⟨[roof, roof, { isSelected := true }], [{}]⟩

/-- The items with their names. -/
def unnamed : List ProtocolItem :=
  [⟨DcString.category, "Alias MPPT3", ""⟩, ⟨AcProducer.category, "Alias AC1", ""⟩]

/-- **Beyond that, nothing is known**: every view of a larger system agrees on such an installation,
and what is not filled in is archived. -/
theorem not_filled_beyond :
    StorageSystem.home20.isGeneral = false ∧
    (∀ view ∈ StorageSystem.home20.views, checkStep (some view) .home20 overfull = .ok []) ∧
    ∃ p, overfull.protocol "edge0" = .ok p ∧ ∀ item ∈ unnamed,
      item ∈ p.items ∧ item.isAskedFor = true ∧ Text.isEmptyText item.value = true := by
  have hitems : (overfull.protocol "edge0").toOption.any (fun p => unnamed.all (· ∈ p.items)) =
      true := by decide +kernel
  have hunnamed : ∀ item ∈ unnamed,
      item.isAskedFor = true ∧ Text.isEmptyText item.value = true := by decide +kernel
  rcases hp : overfull.protocol "edge0" with e | p
  · rw [hp] at hitems
    cases hitems
  · rw [hp] at hitems
    have hmem := List.all_eq_true.mp hitems
    exact ⟨rfl, by decide +kernel, p, rfl, fun item hitem =>
      ⟨of_decide_eq_true (hmem item hitem), hunnamed item hitem⟩⟩

end Installation

end Commissioning
