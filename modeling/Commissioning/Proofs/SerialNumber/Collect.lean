import Commissioning.Proofs.Protocol.Content
import Commissioning.SerialNumber.Collect
import Mathlib.Data.List.Basic

/-!
# What is said about a form for serial numbers

A complaint about a filled-in form stands under the number of a tower and the key of a field, and
this is the same field that it is about: `Commissioning.SerialNumberSchema.mem_complaints` says
that the complaints of a form are exactly those that its fields make about the values given for
them, and `Commissioning.Tower.fieldId_inj` that no two places have one identifier.

The fields of a tower are of two kinds. The boxes are shown without a value, or, in the case of the
inverter, with one that is found elsewhere; the box of the battery management and the modules are
shown with a serial number that they accept
(`Commissioning.StorageSystem.mem_boxFields_or_accepts`). The key tells which kind a field is of.
-/

namespace Commissioning

/-! ### Identifiers -/

/-- The identifier under which a complaint about a field of a tower stands. -/
def Tower.fieldId (t : Tower) (key : String) : String := s!"tower{t.number}.{key}"

/-- The digit of a tower. -/
def Tower.digit : Tower → Char
  | first => '1'
  | second => '2'
  | third => '3'

theorem Tower.toList_fieldId (t : Tower) (key : String) :
    (t.fieldId key).toList = "tower".toList ++ t.digit :: '.' :: key.toList := by
  have hnumber : (toString t.number).toList = [t.digit] := by
    cases t <;> rfl
  simp only [fieldId, String.toList_append, List.append_assoc, hnumber]
  rfl

/-- **An identifier** belongs to one tower and one key. -/
theorem Tower.fieldId_inj {t t' : Tower} {key key' : String} :
    t.fieldId key = t'.fieldId key' ↔ t = t' ∧ key = key' := by
  constructor
  · intro h
    have hchars := congrArg String.toList h
    rw [toList_fieldId, toList_fieldId] at hchars
    obtain ⟨hdigit, hrest⟩ := List.cons.inj (List.append_cancel_left hchars)
    obtain ⟨-, hkey⟩ := List.cons.inj hrest
    refine ⟨?_, String.toList_inj.mp hkey⟩
    cases t <;> cases t' <;> first | rfl | exact absurd hdigit (by decide)
  · rintro ⟨rfl, rfl⟩
    rfl

/-! ### Complaints -/

/-- The value that counts for a field: that of the request, or the one that it is shown with. -/
def Field.given (f : Field) (values : Members) : Json := (values.get? f.key).getD f.default

theorem check_of_collectField {f : Field} {values : Members} {entry : SerialNumber}
    {complaint : Option Complaint} (h : collectField f values = .ok (entry, complaint)) :
    f.check (f.given values) = .ok complaint := by
  obtain ⟨complaint', hcheck, h⟩ := exists_of_bind_eq_ok h
  obtain ⟨kept, -, h⟩ := exists_of_bind_eq_ok h
  split at h
  · obtain rfl := (Prod.mk.inj (Except.ok.inj h)).2
    exact hcheck
  · obtain ⟨text, -, h⟩ := exists_of_bind_eq_ok h
    obtain rfl := (Prod.mk.inj (Except.ok.inj h)).2
    exact hcheck

theorem mem_complaints_of_collectTower {t : Tower} {values : Members} {id : String}
    {c : Complaint} : ∀ {fs : List Field} {entries : List SerialNumber} {complaints : Complaints},
      collectTower t fs values = .ok (entries, complaints) →
        ((id, c) ∈ complaints ↔
          ∃ f ∈ fs, id = t.fieldId f.key ∧ f.check (f.given values) = .ok (some c))
  | [], entries, complaints, h => by
    obtain rfl := (Prod.mk.inj (Except.ok.inj h)).2
    simp
  | f :: fs, entries, complaints, h => by
    obtain ⟨⟨entry, complaint⟩, hfield, h⟩ := exists_of_bind_eq_ok h
    obtain ⟨⟨others, more⟩, hrest, h⟩ := exists_of_bind_eq_ok h
    have hcheck := check_of_collectField hfield
    rw [List.exists_mem_cons_iff, hcheck, ← mem_complaints_of_collectTower hrest]
    cases complaint with
    | some c' =>
      obtain rfl := (Prod.mk.inj (Except.ok.inj h)).2
      rw [List.mem_cons, Prod.mk.injEq, Except.ok.injEq, Option.some.injEq]
      exact or_congr_left (and_congr_right fun _ => eq_comm)
    | none =>
      obtain rfl := (Prod.mk.inj (Except.ok.inj h)).2
      simp

/-- **The complaints about a form** are those of its fields about the values given for them. -/
theorem mem_complaints_of_collectTowers {values : TowerValues} {id : String} {c : Complaint} :
    ∀ {towers : List (Tower × List Field)} {numbers : SerialNumbers} {complaints : Complaints},
      collectTowers towers values = .ok (numbers, complaints) →
        ((id, c) ∈ complaints ↔ ∃ t fs f, (t, fs) ∈ towers ∧ f ∈ fs ∧ id = t.fieldId f.key ∧
          f.check (f.given ((values.get? t.number).getD [])) = .ok (some c))
  | [], numbers, complaints, h => by
    obtain rfl := (Prod.mk.inj (Except.ok.inj h)).2
    simp
  | (t, fs) :: rest, numbers, complaints, h => by
    obtain ⟨⟨entries, these⟩, htower, h⟩ := exists_of_bind_eq_ok h
    obtain ⟨⟨others, more⟩, hrest, h⟩ := exists_of_bind_eq_ok h
    obtain rfl := (Prod.mk.inj (Except.ok.inj h)).2
    rw [List.mem_append, mem_complaints_of_collectTower htower,
      mem_complaints_of_collectTowers hrest]
    constructor
    · rintro (⟨f, hf, hid, hc⟩ | ⟨t', fs', f, ht, hf, hid, hc⟩)
      · exact ⟨t, fs, f, List.mem_cons_self, hf, hid, hc⟩
      · exact ⟨t', fs', f, List.mem_cons_of_mem _ ht, hf, hid, hc⟩
    · rintro ⟨t', fs', f, ht, hf, hid, hc⟩
      rcases List.mem_cons.mp ht with heq | ht
      · cases heq
        exact Or.inl ⟨f, hf, hid, hc⟩
      · exact Or.inr ⟨t', fs', f, ht, hf, hid, hc⟩

theorem SerialNumberSchema.mem_complaints {schema : SerialNumberSchema} {values : TowerValues}
    {numbers : SerialNumbers} {complaints : Complaints} {id : String} {c : Complaint}
    (h : schema.collect values = .ok (numbers, complaints)) :
    (id, c) ∈ complaints ↔ ∃ t fs f, (t, fs) ∈ schema.towers ∧ f ∈ fs ∧ id = t.fieldId f.key ∧
      f.check (f.given ((values.get? t.number).getD [])) = .ok (some c) :=
  mem_complaints_of_collectTowers h

/-! ### Two kinds of fields -/

namespace StorageSystem

/-- The keys of the boxes. -/
def boxKeys : List String := ["batteryInverter", "emsBox", "parallelBox", "extensionBox"]

variable {s : StorageSystem} {t : Tower} {modules : Int} {inverter : Option String} {f : Field}

theorem key_mem_boxKeys (hf : f ∈ s.boxFields inverter t) : f.key ∈ boxKeys := by
  cases t with
  | first =>
    rcases List.mem_pair.mp hf with rfl | rfl <;> simp [boxKeys, serialField]
  | second =>
    obtain rfl := List.mem_singleton.mp hf
    simp [boxKeys, serialField]
  | third =>
    obtain rfl := List.mem_singleton.mp hf
    simp [boxKeys, serialField]

/-- The key of a module begins with the word for it. -/
theorem prefix_key_moduleField (number : Nat) :
    "module".toList <+: (moduleField number).key.toList := by
  show "module".toList <+: ("module" ++ toString number).toList
  rw [String.toList_append]
  exact List.prefix_append _ _

/-- No key of a box does. -/
theorem not_prefix_of_mem_boxKeys {key : String} (h : key ∈ boxKeys) :
    ¬"module".toList <+: key.toList := by
  have hnone : ∀ key ∈ boxKeys, ¬"module".toList <+: key.toList := by decide
  exact hnone key h

/-- **A field of a tower** is one of the boxes, or is shown with a serial number that it accepts
and has no key of a box. -/
theorem mem_boxFields_or_accepts (hf : f ∈ s.towerFields t modules inverter) :
    f ∈ s.boxFields inverter t ∨ (f.check f.default = .ok none ∧ f.key ∉ boxKeys) := by
  rcases List.mem_append.mp hf with hf | hf
  · exact Or.inl hf
  rcases List.mem_cons.mp hf with rfl | hf
  · exact Or.inr ⟨by decide +kernel, by decide⟩
  · obtain ⟨number, -, rfl⟩ := List.mem_map.mp hf
    have hfirst : (moduleField 1).check (.str defaultModule) = .ok none := by decide +kernel
    refine Or.inr ⟨hfirst, fun hmem => ?_⟩
    exact not_prefix_of_mem_boxKeys hmem (prefix_key_moduleField number)

end StorageSystem

end Commissioning
