import Commissioning.Proofs.Field.Check
import Commissioning.Proofs.Number.Typed
import Commissioning.SerialNumber.Collect

/-!
# Counts that have been checked

The two counts of a form are checked as numbers, and then they are read. The check and the reader
have the same bounds in mind, but not the same numerals: **counts against which nothing is said are
read as the whole parts of the numbers that have been checked, within the bounds of the system**,
so long as they are written without the characters that only a form field puts up with
(`Commissioning.Field.IsPlain`); with one of these, the form accepts a count and reading it fails
(`Commissioning.StorageSystem.counts_of_checked`).

A comma as decimal point is one of these characters, so a form with `1,0` towers is accepted and
cannot be read (`Commissioning.StorageSystem.not_read_with_comma`).
-/

namespace Commissioning

/-! ### One count -/

/-- Nothing is said against values if nothing is said against any of them. -/
theorem check_of_checkSettings {values : Members} :
    ∀ {fields : List Field}, checkSettings fields values = .ok [] →
      ∀ f ∈ fields, f.check ((values.get? f.key).getD .null) = .ok none
  | [], _, f, hf => absurd hf List.not_mem_nil
  | g :: fields, h, f, hf => by
    obtain ⟨complaint, hcomplaint, h⟩ := exists_of_bind_eq_ok h
    obtain ⟨rest, hrest, h⟩ := exists_of_bind_eq_ok h
    cases complaint with
    | some c => cases h
    | none =>
      obtain rfl := Except.ok.inj h
      rcases List.mem_cons.mp hf with rfl | hf
      · exact hcomplaint
      · exact check_of_checkSettings hrest f hf

/-- Nothing is said against any of some values if nothing is said against each. -/
theorem checkSettings_of_check {values : Members} {fields : List Field}
    (h : ∀ f ∈ fields, f.check ((values.get? f.key).getD .null) = .ok none) :
    checkSettings fields values = .ok [] := by
  induction fields with
  | nil => rfl
  | cons f fields ih =>
    rw [List.forall_mem_cons] at h
    rw [checkSettings, h.1, ih h.2]
    rfl

/-- A value that a number field has accepted, with the number it stands for and its whole part. -/
structure Counted (values : Members) (key : String) (v : Json) (x : Binary64) (n : Int) : Prop where
  found : values.get? key = some v
  number : Field.numberOf? v = some x
  whole : x.toInt = .ok n

variable {values : Members} {key : String} {v : Json} {x : Binary64} {n : Int}

theorem exists_counted {f : Field} {a b : Int} (hf : f.IsNumber) (hrequired : f.required = true)
    (hmin : f.minimum = some (.int a)) (hmax : f.maximum = some (.int b))
    (h : f.check ((values.get? f.key).getD .null) = .ok none) :
    ∃ v x n, Counted values f.key v x n ∧ a ≤ n ∧ n ≤ b := by
  obtain ⟨x, hx, hbounds⟩ := Field.exists_number_of_check hf hrequired h
  obtain ⟨n, hn, hle⟩ := hbounds.toInt (Field.isFinite_of_numberOf? hx) hmin hmax
  cases hv : values.get? f.key with
  | none =>
    rw [hv] at hx
    cases hx
  | some v =>
    rw [hv] at hx
    exact ⟨v, x, n, ⟨hv, hx, hn⟩, hle⟩

namespace Counted

/-- A count that is written plainly is read. -/
theorem countOf_of_plain (h : Counted values key v x n) (hplain : Field.IsPlain v) :
    countOf values key = .ok n := by
  have hread := (Field.toBinary64_of_numberOf? h.number).1 hplain
  simp only [countOf, h.found, hread]
  exact congrArg (Except.mapError CountError.unreadable) h.whole

/-- Any other is not. -/
theorem countOf_of_not_plain (h : Counted values key v x n) (hplain : ¬Field.IsPlain v) :
    ∃ s, v = .str s ∧ countOf values key = .error (.unreadable (.unreadable s)) := by
  obtain ⟨s, hs, herror⟩ := (Field.toBinary64_of_numberOf? h.number).2 hplain
  refine ⟨s, hs, ?_⟩
  simp only [countOf, h.found, herror]
  rfl

end Counted

/-! ### Both counts -/

theorem clampInt_eq_self {least most n : Int} (hle : least ≤ n) (hge : n ≤ most) :
    clampInt least most n = n := by
  rw [clampInt]
  omega

namespace StorageSystem

/-- **Counts that have been checked**: both are there and stand for numbers, whose whole parts are
within the bounds of the system. They are what is read if both are written plainly; and if one is
not, reading fails on its text. -/
theorem counts_of_checked {s : StorageSystem} {towers modules : Int}
    (h : checkSettings (s.countFields towers modules) values = .ok []) :
    ∃ v w x y t m, Counted values "numberOfTowers" v x t ∧
      Counted values "numberOfModulesPerTower" w y m ∧
      (1 ≤ t ∧ t ≤ s.maxSerialNumberTowers) ∧
      (s.minModulesPerTower ≤ m ∧ m ≤ s.maxModulesPerTower) ∧
      (∀ inverter source, SerialNumberDefaults.clamp ⟨t, m, inverter, source⟩ s =
        ⟨t, m, inverter, source⟩) ∧
      (Field.IsPlain v → Field.IsPlain w → settingsCounts values = .ok (t, m)) ∧
      (¬Field.IsPlain v → ∃ text, v = .str text ∧
        settingsCounts values = .error (.unreadable (.unreadable text))) ∧
      (Field.IsPlain v → ¬Field.IsPlain w → ∃ text, w = .str text ∧
        settingsCounts values = .error (.unreadable (.unreadable text))) := by
  have hchecked := check_of_checkSettings h
  simp only [countFields, List.forall_mem_cons] at hchecked
  obtain ⟨v, x, t, hv, ht⟩ := exists_counted ⟨rfl, rfl⟩ rfl rfl rfl hchecked.1
  obtain ⟨w, y, m, hw, hm⟩ := exists_counted ⟨rfl, rfl⟩ rfl rfl rfl hchecked.2.1
  refine ⟨v, w, x, y, t, m, hv, hw, ht, hm, ?_, ?_, ?_, ?_⟩
  · intro inverter source
    simp only [SerialNumberDefaults.clamp, clampInt_eq_self ht.1 ht.2, clampInt_eq_self hm.1 hm.2]
  · intro hplain hplain'
    rw [settingsCounts, hv.countOf_of_plain hplain, hw.countOf_of_plain hplain']
    rfl
  · intro hplain
    obtain ⟨text, htext, herror⟩ := hv.countOf_of_not_plain hplain
    refine ⟨text, htext, ?_⟩
    rw [settingsCounts, herror]
    rfl
  · intro hplain hplain'
    obtain ⟨text, htext, herror⟩ := hw.countOf_of_not_plain hplain'
    refine ⟨text, htext, ?_⟩
    rw [settingsCounts, hv.countOf_of_plain hplain, herror]
    rfl

/-- A form filled in with an exponent, an underscore, blanks, and a digit of another script. -/
def typedCounts : Members :=
  [("numberOfTowers", .str " 2_0e-1 "), ("numberOfModulesPerTower", .str "\u00a0\u0665")]

theorem counts_of_checked_typed :
    checkSettings (home.countFields 1 4) typedCounts = .ok [] ∧
    ∃ t m, settingsCounts typedCounts = .ok (t, m) ∧
      (1 ≤ t ∧ t ≤ home.maxSerialNumberTowers) ∧
      (home.minModulesPerTower ≤ m ∧ m ≤ home.maxModulesPerTower) := by
  have hchecked : checkSettings (home.countFields 1 4) typedCounts = .ok [] := by decide +kernel
  obtain ⟨v, w, x, y, t, m, hv, hw, ht, hm, -, hread, -⟩ := counts_of_checked hchecked
  obtain rfl := Option.some.inj hv.found
  obtain rfl := Option.some.inj hw.found
  have hplain : ∀ s : String, (s.toList.all fun c => c ∉ Field.tolerated) = true →
      Field.IsPlain (.str s) := by
    intro s hall c hc
    exact of_decide_eq_true (List.all_eq_true.mp hall c hc)
  exact ⟨hchecked, t, m, hread (hplain _ (by decide)) (hplain _ (by decide)), ht, hm⟩

/-- **A decimal comma** is accepted by the form and cannot be read. -/
theorem not_read_with_comma :
    let values : Members := [("numberOfTowers", .str "1,0"), ("numberOfModulesPerTower", .int 5)]
    checkSettings (home.countFields 1 4) values = .ok [] ∧
      settingsCounts values = .error (.unreadable (.unreadable "1,0")) := by
  decide +kernel

end StorageSystem

end Commissioning
