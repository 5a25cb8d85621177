import Commissioning.Proofs.Installation.Rules

/-!
# Where the fields of the views stand

The fields of a view say by paths where their values and the values of their guards stand in the
document of the installation. These paths are written apart from the records that the document is
made of. One that led nowhere would go unnoticed: the field would be checked as if it were empty, or
never be switched on.

**Every path leads to a value, and every field has an identifier of its own**
(`Commissioning.Installation.stepFields_resolve`). The indices in a path come from the lengths of
the lists, so their items exist. And an identifier is a path with points between its parts; no part
has a point in it, so the parts can be told from the identifier
(`Commissioning.StepField.parts_eq_of_id`), and the parts of different fields differ in an index or
in a name. Hence the complaints of a view may be put into a table by their identifiers, and none
takes the place of another.
-/

namespace Commissioning

/-! ### Identifiers -/

/-- A step that is written without a point. -/
def Step.IsPlain (s : Step) : Prop := '.' ∉ s.text.toList

instance (s : Step) : Decidable s.IsPlain := inferInstanceAs (Decidable ('.' ∉ s.text.toList))

theorem Step.isPlain_index (i : Nat) : (Step.index i).IsPlain := by
  have htext : (Step.index i).text.toList = natChars i := String.toList_ofList
  rw [Step.IsPlain, htext]
  intro h
  exact absurd (isDigit_of_mem_natChars h) (by decide)

namespace StepField

variable {f g : StepField} {document : Json}

/-- The parts of the identifier of a field. -/
def parts (f : StepField) : List String := f.path.map Step.text

/-- A field whose identifier can be taken apart. -/
def IsPlain (f : StepField) : Prop := f.path ≠ [] ∧ ∀ s ∈ f.path, s.IsPlain

instance (f : StepField) : Decidable f.IsPlain :=
  inferInstanceAs (Decidable (f.path ≠ [] ∧ ∀ s ∈ f.path, s.IsPlain))

/-- **The parts can be told from the identifier.** -/
theorem parts_eq_of_id (hf : f.IsPlain) (hg : g.IsPlain) (h : f.id = g.id) : f.parts = g.parts := by
  -- No part has a point in it, so cutting the identifier at its points gives the parts back.
  have hsplit : ∀ f : StepField, f.IsPlain →
      f.id.toList.splitOn '.' = f.parts.map String.toList := by
    rintro f ⟨hne, hplain⟩
    rw [StepField.id, String.toList_intercalate]
    refine List.splitOn_intercalate '.' ?_ (by simpa using hne)
    simpa [parts, Step.IsPlain] using hplain
  have hchars : f.parts.map String.toList = g.parts.map String.toList := by
    rw [← hsplit f hf, ← hsplit g hg, h]
  exact List.map_injective_iff.mpr (fun s t => String.toList_inj.mp) hchars

/-- Fields with different parts have different identifiers. -/
theorem nodup_ids (fields : List StepField) (hplain : ∀ f ∈ fields, f.IsPlain)
    (hparts : (fields.map parts).Nodup) : (fields.map StepField.id).Nodup := by
  rw [List.Nodup, List.pairwise_map] at hparts ⊢
  exact hparts.imp_of_mem fun hf hg hne hid => hne (parts_eq_of_id (hplain _ hf) (hplain _ hg) hid)

/-- A field for an item of a list: its path goes to the item, and from there to a member of it. -/
def IsItem (member list : String) (i : Nat) (f : StepField) : Prop :=
  ∃ name, (Step.field name).IsPlain ∧
    f.path = [.field member, .field list, .index i, .field name]

section Items

variable {member list : String} {i : Nat}

theorem IsItem.isPlain (h : f.IsItem member list i) (hmember : (Step.field member).IsPlain)
    (hlist : (Step.field list).IsPlain) : f.IsPlain := by
  obtain ⟨name, hname, hpath⟩ := h
  refine ⟨hpath ▸ List.cons_ne_nil _ _, ?_⟩
  rw [hpath]
  simp only [List.forall_mem_cons]
  exact ⟨hmember, hlist, Step.isPlain_index i, hname, List.forall_mem_nil _⟩

theorem IsItem.getElem?_parts (h : f.IsItem member list i) : f.parts[2]? = some (toString i) := by
  obtain ⟨name, -, hpath⟩ := h
  rw [parts, hpath]
  rfl

/-- Fields for the items of a list have different identifiers if those for one item have. -/
theorem nodup_ids_flatMap {fields : Nat → List StepField} (n : Nat)
    (hmember : (Step.field member).IsPlain) (hlist : (Step.field list).IsPlain)
    (hitem : ∀ i, ∀ f ∈ fields i, f.IsItem member list i)
    (hparts : ∀ i, ((fields i).map parts).Nodup) :
    (((List.range n).flatMap fields).map StepField.id).Nodup := by
  refine nodup_ids _ (List.forall_mem_flatMap.mpr fun i _ f hf =>
    (hitem i f hf).isPlain hmember hlist) ?_
  -- The third part is the index, and fields for different items differ in it.
  have hindex : ∀ i, ∀ t ∈ (fields i).map parts, t[2]? = some (toString i) := fun i =>
    List.forall_mem_map.mpr fun f hf => (hitem i f hf).getElem?_parts
  rw [List.map_flatMap, List.nodup_flatMap]
  refine ⟨fun i _ => hparts i, List.nodup_range.imp fun {i j} hne t hi hj => hne ?_⟩
  exact toString_injective (Option.some.inj ((hindex i t hi).symm.trans (hindex j t hj)))

end Items

/-! ### Values -/

/-- A field whose path and the path of whose guard lead to values of a document. -/
structure Resolves (document : Json) (f : StepField) : Prop where
  path : ∃ value, document.at? f.path = some value
  guardPath : ∀ path, f.guardPath = some path → ∃ value, document.at? path = some value

theorem resolves_open (hpath : ∃ value, document.at? f.path = some value)
    (hguard : f.guardPath = none) : f.Resolves document :=
  ⟨hpath, fun path h => absurd (h.symm.trans hguard) (Option.some_ne_none path)⟩

theorem resolves_guarded {guardPath : List Step}
    (hpath : ∃ value, document.at? f.path = some value) (hguard : f.guardPath = some guardPath)
    (hvalue : ∃ value, document.at? guardPath = some value) : f.Resolves document := by
  refine ⟨hpath, fun path h => ?_⟩
  obtain rfl := Option.some.inj (hguard.symm.trans h)
  exact hvalue

end StepField

/-- The form for a contact asks for members of it. -/
theorem Contact.exists_member (c : Contact) {f : Field} (hf : f ∈ contactForm) :
    ∃ value, (Json.obj c.members).at? [.field f.key] = some value := by
  simp only [contactForm, List.mem_cons, List.not_mem_nil, or_false] at hf
  rcases hf with rfl | rfl | rfl | rfl | rfl | rfl | rfl | rfl
  all_goals exact ⟨_, rfl⟩

namespace Installation

variable (d : Installation)

theorem customerFields_resolve : ∀ f ∈ customerFields, f.Resolves d.toJson := by
  rw [customerFields, contactFields, List.forall_mem_append, List.forall_mem_map]
  refine ⟨fun g hg => ?_, List.forall_mem_singleton.mpr ?_⟩
  · refine StepField.resolves_open ?_ rfl
    obtain ⟨value, hvalue⟩ := d.customer.contact.exists_member hg
    exact ⟨value, (d.customer.contact.at?_member _ _ (by decide) hg).trans hvalue⟩
  · exact StepField.resolves_guarded ⟨_, rfl⟩ rfl ⟨_, rfl⟩

theorem locationFields_resolve : ∀ f ∈ locationFields, f.Resolves d.toJson := by
  rw [locationFields, contactFields, List.forall_mem_map]
  intro g hg
  refine StepField.resolves_guarded ?_ rfl ⟨_, rfl⟩
  obtain ⟨value, hvalue⟩ := d.location.contact.exists_member hg
  exact ⟨value, (d.location.contact.at?_member _ _ (by decide) hg).trans hvalue⟩

theorem reserveFields_resolve : ∀ f ∈ reserveFields, f.Resolves d.toJson :=
  List.forall_mem_singleton.mpr (StepField.resolves_guarded ⟨_, rfl⟩ rfl ⟨_, rfl⟩)

theorem fuseFields_resolve : ∀ f ∈ fuseFields, f.Resolves d.toJson := by
  rw [fuseFields, List.forall_mem_cons, List.forall_mem_singleton]
  exact ⟨StepField.resolves_open ⟨_, rfl⟩ rfl, StepField.resolves_guarded ⟨_, rfl⟩ rfl ⟨_, rfl⟩⟩

theorem feedInFields_resolve : ∀ f ∈ feedInFields, f.Resolves d.toJson := by
  rw [feedInFields, List.forall_mem_cons, List.forall_mem_singleton]
  exact ⟨StepField.resolves_open ⟨_, rfl⟩ rfl, StepField.resolves_guarded ⟨_, rfl⟩ rfl ⟨_, rfl⟩⟩

variable {d} {i : Nat}

theorem stringFields_resolve {s : DcString} (hs : d.pv.dc[i]? = some s) :
    ∀ f ∈ stringFields i, f.Resolves d.toJson := by
  have hresolves : ∀ f : StepField, (∃ rest value,
      f.path = [.field "pv", .field "dc", .index i] ++ rest ∧ s.toJson.at? rest = some value) →
      f.guardPath = some ([.field "pv", .field "dc", .index i] ++ [.field "is_selected"]) →
      f.Resolves d.toJson := by
    rintro f ⟨rest, value, hpath, hvalue⟩ hguard
    refine StepField.resolves_guarded ⟨value, ?_⟩ hguard ⟨_, at?_string hs _⟩
    rw [hpath, at?_string hs, hvalue]
  rw [stringFields, List.forall_mem_cons, List.forall_mem_cons, List.forall_mem_singleton]
  exact ⟨hresolves _ ⟨_, _, rfl, rfl⟩ rfl, hresolves _ ⟨_, _, rfl, rfl⟩ rfl,
    hresolves _ ⟨_, _, rfl, rfl⟩ rfl⟩

theorem producerFields_resolve {p : AcProducer} (hp : d.pv.ac[i]? = some p) :
    ∀ f ∈ producerFields i, f.Resolves d.toJson := by
  have hresolves : ∀ f : StepField, (∃ rest value,
      f.path = [.field "pv", .field "ac", .index i] ++ rest ∧ p.toJson.at? rest = some value) →
      f.guardPath = none → f.Resolves d.toJson := by
    rintro f ⟨rest, value, hpath, hvalue⟩ hguard
    refine StepField.resolves_open ⟨value, ?_⟩ hguard
    rw [hpath, at?_producer hp, hvalue]
  rw [producerFields, List.forall_mem_cons, List.forall_mem_cons, List.forall_mem_singleton]
  exact ⟨hresolves _ ⟨_, _, rfl, rfl⟩ rfl, hresolves _ ⟨_, _, rfl, rfl⟩ rfl,
    hresolves _ ⟨_, _, rfl, rfl⟩ rfl⟩

/-- **Every path of a view leads to a value.** -/
theorem resolve_of_mem (view : Option View) (system : StorageSystem) (d : Installation) :
    ∀ f ∈ stepFields view system d, f.Resolves d.toJson := by
  rcases view with _ | view
  · exact List.forall_mem_nil _
  · cases view with
    | protocolCustomer => exact d.customerFields_resolve
    | protocolSystem => exact d.locationFields_resolve
    | configurationEmergencyReserve => exact d.reserveFields_resolve
    | configurationLineSideMeterFuse => exact d.fuseFields_resolve
    | protocolPv =>
      refine List.forall_mem_flatMap.mpr fun i hi => ?_
      have hlength : i < d.pv.dc.length := by
        have hmin := List.mem_range.mp hi
        omega
      exact stringFields_resolve (List.getElem?_eq_getElem hlength)
    | protocolAdditionalAcProducers =>
      refine List.forall_mem_flatMap.mpr fun i hi => ?_
      exact producerFields_resolve (List.getElem?_eq_getElem (List.mem_range.mp hi))
    | protocolFeedInLimitation => exact d.feedInFields_resolve
    | _ => exact List.forall_mem_nil _

theorem isItem_string (i : Nat) : ∀ f ∈ stringFields i, f.IsItem "pv" "dc" i := by
  rw [stringFields, List.forall_mem_cons, List.forall_mem_cons, List.forall_mem_singleton]
  exact ⟨⟨_, by decide, rfl⟩, ⟨_, by decide, rfl⟩, ⟨_, by decide, rfl⟩⟩

theorem isItem_producer (i : Nat) : ∀ f ∈ producerFields i, f.IsItem "pv" "ac" i := by
  rw [producerFields, List.forall_mem_cons, List.forall_mem_cons, List.forall_mem_singleton]
  exact ⟨⟨_, by decide, rfl⟩, ⟨_, by decide, rfl⟩, ⟨_, by decide, rfl⟩⟩

/-- **No two fields of a view have one identifier.** -/
theorem nodup_ids (view : Option View) (system : StorageSystem) (d : Installation) :
    ((stepFields view system d).map StepField.id).Nodup := by
  rcases view with _ | view
  · exact List.nodup_nil
  · cases view with
    | protocolCustomer => exact StepField.nodup_ids customerFields (by decide) (by decide)
    | protocolSystem => exact StepField.nodup_ids locationFields (by decide) (by decide)
    | configurationEmergencyReserve => exact List.nodup_singleton _
    | configurationLineSideMeterFuse =>
      exact StepField.nodup_ids fuseFields (by decide) (by decide)
    | protocolPv =>
      refine StepField.nodup_ids_flatMap _ (by decide) (by decide) isItem_string fun i => ?_
      simp [stringFields, StepField.parts, Step.text]
    | protocolAdditionalAcProducers =>
      refine StepField.nodup_ids_flatMap _ (by decide) (by decide) isItem_producer fun i => ?_
      simp [producerFields, StepField.parts, Step.text]
    | protocolFeedInLimitation => exact StepField.nodup_ids feedInFields (by decide) (by decide)
    | _ => exact List.nodup_nil

/-! ### Complaints -/

/-- The complaints stand under identifiers of fields, in their order. -/
theorem keys_checkFields_sublist {document : Json} {fields : List StepField}
    {complaints : Complaints} (h : checkFields fields document = .ok complaints) :
    (Assoc.keys complaints).Sublist (fields.map StepField.id) := by
  induction fields generalizing complaints with
  | nil =>
    obtain rfl := Except.ok.inj h
    exact List.Sublist.refl _
  | cons f fields ih =>
    obtain ⟨c, rest, -, hrest, rfl⟩ := checkFields_cons_eq_ok_iff.mp h
    cases c with
    | none => exact (ih hrest).cons _
    | some c => exact (ih hrest).cons_cons _

/-- **Each complaint stands under the identifier of its field**, if every field has its own. -/
theorem check_eq_get? {document : Json} {fields : List StepField} {complaints : Complaints}
    (h : checkFields fields document = .ok complaints)
    (hids : (fields.map StepField.id).Nodup) :
    ∀ f ∈ fields, f.check document = .ok (Assoc.get? complaints f.id) := by
  induction fields generalizing complaints with
  | nil => exact List.forall_mem_nil _
  | cons g fields ih =>
    obtain ⟨c, rest, hc, hrest, rfl⟩ := checkFields_cons_eq_ok_iff.mp h
    obtain ⟨hg, hids⟩ := List.nodup_cons.mp hids
    -- All that is said of the other fields stands under other identifiers.
    have habsent : Assoc.get? rest g.id = none :=
      Assoc.get?_eq_none fun hmem => hg ((keys_checkFields_sublist hrest).subset hmem)
    refine List.forall_mem_cons.mpr ⟨?_, fun f hf => ?_⟩
    · rw [hc, Assoc.get?_append, habsent, Option.or_none]
      cases c with
      | none => rfl
      | some c => simp [Assoc.get?]
    · have hne : g.id ≠ f.id := fun hid => hg (hid ▸ List.mem_map_of_mem hf)
      rw [ih hrest hids f hf, Assoc.get?_append]
      cases c with
      | none => rfl
      | some c => simp [Assoc.get?, hne]

/-- **The fields of a view are found, and told apart.** For each view, system and installation, the
paths of the fields and of their guards lead to values of the document, and no two fields have one
identifier. So complaints that are put into a table under these identifiers one after another all
stay there, and what is found under the identifier of a field is what is said of this field. -/
theorem stepFields_resolve (view : Option View) (system : StorageSystem) (d : Installation) :
    (∀ f ∈ stepFields view system d, f.Resolves d.toJson) ∧
      ((stepFields view system d).map StepField.id).Nodup ∧
      ∃ complaints, checkStep view system d = .ok complaints ∧
        Assoc.ofList complaints = complaints ∧
        ∀ f ∈ stepFields view system d,
          f.check d.toJson = .ok (Assoc.get? complaints f.id) := by
  have hids := nodup_ids view system d
  obtain ⟨complaints, hcomplaints, -⟩ := exists_checkStep view system d
  have hkeys : (Assoc.keys complaints).Nodup := hids.sublist (keys_checkFields_sublist hcomplaints)
  exact ⟨resolve_of_mem view system d, hids, complaints, hcomplaints, Assoc.ofList_of_nodup hkeys,
    check_eq_get? hcomplaints hids⟩

/-- The third string is found under its own number, and what is missing of it is said there. -/
theorem stepFields_resolve_third :
    let d : Installation :=
      { pv := { dc := [{}, {}, { isSelected := true, name := "Garage" }] } }
    ∃ f ∈ stepFields (some .protocolPv) .home30 d,
      f.path = [.field "pv", .field "dc", .index 2, .field "value"] ∧ f.Resolves d.toJson ∧
        ∃ complaints, checkStep (some .protocolPv) .home30 d = .ok complaints ∧
          Assoc.get? complaints "pv.dc.2.value" = some .missing := by
  intro d
  obtain ⟨hresolves, -, complaints, hcomplaints, -, hfound⟩ :=
    stepFields_resolve (some .protocolPv) .home30 d
  obtain ⟨f, hf, hpath, hmissing⟩ : ∃ f ∈ stringFields 2,
      f.path = [.field "pv", .field "dc", .index 2, .field "value"] ∧
        f.check d.toJson = .ok (some .missing) :=
    ⟨_, List.mem_cons_of_mem _ List.mem_cons_self, rfl, by decide +kernel⟩
  have hmem : f ∈ stepFields (some .protocolPv) .home30 d :=
    List.mem_flatMap.mpr ⟨2, by decide, hf⟩
  refine ⟨f, hmem, hpath, hresolves f hmem, complaints, hcomplaints, ?_⟩
  have hid : f.id = "pv.dc.2.value" := by
    rw [StepField.id, hpath]
    decide +kernel
  exact hid ▸ Except.ok.inj ((hfound f hmem).symm.trans hmissing)

end Installation

end Commissioning
