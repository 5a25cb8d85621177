import Commissioning.Proofs.Field.Check
import Commissioning.Proofs.Number.Typed

/-!
# The number that is kept

A number field says something of a value (`Commissioning.Field.check`) and keeps something of it
(`Commissioning.Field.coerce`). Whole numbers, doubles and typed texts go different ways through
either function, and the number that is kept is written anew: a double that is whole becomes a whole
number.

**The two agree** (`Commissioning.Field.kept_as_checked`). Nothing is kept exactly of the values
that the check finds to be no number. Of any other a number is kept, and it is the one that the
check compares with the bounds, whatever they are, and looks up among the options
(`Commissioning.Field.ChecksAs`). It is in its final form (`Commissioning.Field.Keeps`): what has
been kept is kept unchanged.
-/

namespace Commissioning

/-! ### Places -/

/-- Of two places either one comes first, or the other comes first or they are the same. -/
theorem Position.lt_eq_false_iff {p q : Position} : p.lt q = false ↔ q.lt p = true ∨ q = p := by
  rcases p with _ | u | _ <;> rcases q with _ | w | _ <;> simp [lt]
  omega

namespace Number

variable {m n : Number}

/-- A number is neither infinite nor the value that is not a number. -/
def IsFinite (n : Number) : Prop := ∃ units, n.position? = some (.finite units)

theorem lt_congr (h : m.position? = n.position?) (k : Number) : m.lt k = n.lt k := by
  rw [lt, lt, h]

theorem lt_congr_right (h : m.position? = n.position?) (k : Number) : k.lt m = k.lt n := by
  rw [lt, lt, h]

/-- Numbers that have a place are at least what they are not less than. -/
theorem lt_eq_false_iff (hm : m.position? ≠ none) (hn : n.position? ≠ none) :
    m.lt n = false ↔ n.le m = true := by
  obtain ⟨p, hp⟩ := Option.ne_none_iff_exists'.mp hm
  obtain ⟨q, hq⟩ := Option.ne_none_iff_exists'.mp hn
  simp [lt, le, sameValue, hp, hq, Position.lt_eq_false_iff]

theorem lt_of_position?_eq_none (h : n.position? = none) : m.lt n = false ∧ n.lt m = false := by
  cases hm : m.position? <;> simp [lt, h, hm]

theorem IsFinite.position?_ne_none (h : n.IsFinite) : n.position? ≠ none := by
  obtain ⟨units, hunits⟩ := h
  exact hunits ▸ Option.some_ne_none _

theorem isFinite_ofBinary64 {x : Binary64} (h : x.isFinite = true) : (ofBinary64 x).IsFinite := by
  obtain ⟨units, -, hplace⟩ := Binary64.exists_units h
  exact ⟨units, (position?_ofBinary64 x).trans hplace⟩

end Number

namespace Field

variable {f : Field} {v : Json} {n : Number} {x : Binary64}

/-! ### Checking a number -/

/-- A number is between the bounds of a field. A bound that is not a number bounds nothing. -/
structure Within (f : Field) (n : Number) : Prop where
  minimum : ∀ least, f.minimum = some least → least.position? ≠ none → least.le n = true
  maximum : ∀ most, f.maximum = some most → most.position? ≠ none → n.le most = true

/-- A number is among the options of a field, if it has any. -/
def Offers (f : Field) (n : Number) : Prop :=
  ∀ options, f.options = some options → ∃ option ∈ options, option.alike n.toJson = true

/-- **A value is checked as a number**: either the number is below the least one, or it is above the
greatest one, or it is between them but no option, or only the text of the value can be wrong. -/
inductive ChecksAs (f : Field) (v : Json) (n : Number) : Prop where
  | below (least : Number) : f.minimum = some least → n.lt least = true →
    f.check v = (fun bound => some (.belowMinimum bound)) <$> least.boundText → ChecksAs f v n
  | above (most : Number) : (∀ least, f.minimum = some least → n.lt least = false) →
    f.maximum = some most → most.lt n = true →
    f.check v = (fun bound => some (.aboveMaximum bound)) <$> most.boundText → ChecksAs f v n
  | refused : f.Within n → ¬f.Offers n → f.check v = .ok (some .notAnOption) → ChecksAs f v n
  | offered : f.Within n → f.Offers n → f.check v = f.checkPattern v → ChecksAs f v n

/-- A finite number is between the bounds if it is beyond neither. -/
theorem within_iff (hn : n.IsFinite) :
    f.Within n ↔ (∀ least, f.minimum = some least → n.lt least = false) ∧
      ∀ most, f.maximum = some most → most.lt n = false := by
  constructor
  · rintro ⟨hmin, hmax⟩
    -- A bound without a place is neither less nor greater, so nothing is beyond it.
    refine ⟨fun least hleast => ?_, fun most hmost => ?_⟩
    · by_cases hplace : least.position? = none
      · exact (Number.lt_of_position?_eq_none hplace).1
      · exact (Number.lt_eq_false_iff hn.position?_ne_none hplace).mpr (hmin _ hleast hplace)
    · by_cases hplace : most.position? = none
      · exact (Number.lt_of_position?_eq_none hplace).2
      · exact (Number.lt_eq_false_iff hplace hn.position?_ne_none).mpr (hmax _ hmost hplace)
  · rintro ⟨hmin, hmax⟩
    refine ⟨fun least hleast hplace => ?_, fun most hmost hplace => ?_⟩
    · exact (Number.lt_eq_false_iff hn.position?_ne_none hplace).mp (hmin _ hleast)
    · exact (Number.lt_eq_false_iff hplace hn.position?_ne_none).mp (hmax _ hmost)

theorem checkBounds_of_below {least : Number} (hleast : f.minimum = some least)
    (hlt : (Number.float x).lt least = true) :
    f.checkBounds x = (fun bound => some (.belowMinimum bound)) <$> least.boundText := by
  unfold checkBounds
  simp only [hleast, hlt, if_true]
  cases least.boundText <;> rfl

theorem checkBounds_of_above {most : Number}
    (hmin : ∀ least, f.minimum = some least → (Number.float x).lt least = false)
    (hmost : f.maximum = some most) (hlt : most.lt (.float x) = true) :
    f.checkBounds x = (fun bound => some (.aboveMaximum bound)) <$> most.boundText := by
  have hupper : checkBounds.upper f x =
      (fun bound => some (.aboveMaximum bound)) <$> most.boundText := by
    unfold checkBounds.upper
    simp only [hmost, hlt, if_true]
    cases most.boundText <;> rfl
  unfold checkBounds
  split
  · next least hleast => rw [hmin least hleast, if_neg Bool.false_ne_true, hupper]
  · exact hupper

theorem checkOptions_eq (hf : f.valueType = .number) (hx : numberOf? v = some x) :
    (f.Offers (Number.ofBinary64 x) → f.checkOptions v = none) ∧
      (¬f.Offers (Number.ofBinary64 x) → f.checkOptions v = some .notAnOption) := by
  rw [checkOptions, Offers, optionValue_of_numberOf? hf hx]
  cases f.options with
  | none => simp
  | some options => simp

/-- **A value is checked as the number that is made of it.** -/
theorem checksAs_ofBinary64 (hf : f.valueType = .number) (hv : v.isBlank = false)
    (hx : numberOf? v = some x) : f.ChecksAs v (Number.ofBinary64 x) := by
  have hcheck := check_of_numberOf?_eq_some hf hv hx
  -- The check compares the double, and the number that is made of it has the same place.
  have hplace : (Number.ofBinary64 x).position? = (Number.float x).position? :=
    Number.position?_ofBinary64 x
  by_cases hmin : ∃ least, f.minimum = some least ∧ (Number.ofBinary64 x).lt least = true
  · obtain ⟨least, hleast, hlt⟩ := hmin
    refine .below least hleast hlt ?_
    rw [Number.lt_congr hplace] at hlt
    rw [hcheck, checkBounds_of_below hleast hlt]
    cases least.boundText <;> rfl
  have hmin : ∀ least, f.minimum = some least → (Number.ofBinary64 x).lt least = false := by
    simpa using hmin
  by_cases hmax : ∃ most, f.maximum = some most ∧ most.lt (.ofBinary64 x) = true
  · obtain ⟨most, hmost, hlt⟩ := hmax
    refine .above most hmin hmost hlt ?_
    simp only [Number.lt_congr hplace] at hmin
    rw [Number.lt_congr_right hplace] at hlt
    rw [hcheck, checkBounds_of_above hmin hmost hlt]
    cases most.boundText <;> rfl
  have hmax : ∀ most, f.maximum = some most → most.lt (.ofBinary64 x) = false := by
    simpa using hmax
  have hwithin : f.Within (Number.ofBinary64 x) :=
    (within_iff (Number.isFinite_ofBinary64 (isFinite_of_numberOf? hx))).mpr ⟨hmin, hmax⟩
  have hbounds : f.checkBounds x = .ok none := by
    simp only [Number.lt_congr hplace] at hmin
    simp only [Number.lt_congr_right hplace] at hmax
    exact checkBounds_iff.mpr ⟨hmin, hmax⟩
  by_cases hoffers : f.Offers (Number.ofBinary64 x)
  · refine .offered hwithin hoffers ?_
    rw [hcheck, hbounds, (checkOptions_eq hf hx).1 hoffers]
    rfl
  · refine .refused hwithin hoffers ?_
    rw [hcheck, hbounds, (checkOptions_eq hf hx).2 hoffers]
    rfl

theorem checkPattern_ne (f : Field) (v : Json) : f.checkPattern v ≠ .ok (some .notANumber) := by
  intro h
  unfold checkPattern at h
  split at h
  · obtain ⟨s, -, h⟩ := exists_of_bind_eq_ok h
    split at h <;> cases h
  · cases h

/-- A value that is checked as a number is not said to be none. -/
theorem ChecksAs.ne_notANumber (h : f.ChecksAs v n) : f.check v ≠ .ok (some .notANumber) := by
  rcases h with ⟨least, -, -, hcheck⟩ | ⟨most, -, -, -, hcheck⟩ | ⟨-, -, hcheck⟩ | ⟨-, -, hcheck⟩
  · rw [hcheck]
    cases least.boundText <;> simp
  · rw [hcheck]
    cases most.boundText <;> simp
  · simp [hcheck]
  · exact hcheck ▸ checkPattern_ne f v

/-- If nothing is said against the value, the number is between the bounds and among the options. -/
theorem ChecksAs.accepted (h : f.ChecksAs v n) (haccepted : f.check v = .ok none) :
    f.Within n ∧ f.Offers n := by
  rcases h with ⟨least, -, -, hcheck⟩ | ⟨most, -, -, -, hcheck⟩ | ⟨-, -, hcheck⟩ |
    ⟨hwithin, hoffers, -⟩
  · rw [hcheck] at haccepted
    cases hbound : least.boundText <;> simp [hbound] at haccepted
  · rw [hcheck] at haccepted
    cases hbound : most.boundText <;> simp [hbound] at haccepted
  · rw [hcheck] at haccepted
    cases haccepted
  · exact ⟨hwithin, hoffers⟩

/-! ### Keeping a number -/

/-- **A number is kept of a value**, in its final form, and it is the one that the check compares
with the bounds, whatever they are. -/
structure Keeps (f : Field) (v : Json) (n : Number) : Prop where
  kept : f.coerce v = .ok n.toJson
  finite : n.IsFinite
  compared : ∀ least most, ChecksAs { f with minimum := least, maximum := most } v n
  accepted : f.check v = .ok none → f.Within n ∧ f.Offers n
  whole : (∃ i, n = .int i) ↔ n.IsWhole
  again : f.coerce n.toJson = .ok n.toJson

theorem coerce_of_numberOf?_eq_none (hf : f.valueType = .number) (hx : numberOf? v = none) :
    f.coerce v = .ok .null := by
  unfold coerce
  split
  · rfl
  · simp only [hf, hx]
    rfl

theorem coerce_of_numberOf?_eq_some (hf : f.valueType = .number) (hv : v.isBlank = false)
    (hx : numberOf? v = some x) : f.coerce v = .ok (Number.ofBinary64 x).toJson := by
  unfold coerce
  simp only [hv, Bool.false_eq_true, if_false, hf, hx]
  rfl

/-- What has been made of a finite double stands for a double of which the same is made. -/
theorem exists_numberOf?_ofBinary64 (hx : x.isFinite = true) :
    ∃ y, numberOf? (Number.ofBinary64 x).toJson = some y ∧
      Number.ofBinary64 y = Number.ofBinary64 x := by
  cases hn : Number.ofBinary64 x with
  | int i =>
    -- The double of the whole number need not be `x`: the sign of a zero is lost.
    obtain ⟨y, hy, hsame⟩ := Number.exists_ofInt?_of_ofBinary64 hn
    exact ⟨y, (numberOf?_int i).trans hy, hsame⟩
  | float y =>
    obtain rfl := Number.eq_of_ofBinary64_eq_float hn
    exact ⟨y, numberOf?_float hx, hn⟩

/-- **What is kept** is kept unchanged. -/
theorem coerce_ofBinary64 (hf : f.valueType = .number) (hx : x.isFinite = true) :
    f.coerce (Number.ofBinary64 x).toJson = .ok (Number.ofBinary64 x).toJson := by
  obtain ⟨y, hy, hsame⟩ := exists_numberOf?_ofBinary64 hx
  have hblank : (Number.ofBinary64 x).toJson.isBlank = false := by
    cases Number.ofBinary64 x <;> rfl
  rw [coerce_of_numberOf?_eq_some hf hblank hy, hsame]

theorem keeps_ofBinary64 (hf : f.valueType = .number) (hv : v.isBlank = false)
    (hx : numberOf? v = some x) : f.Keeps v (Number.ofBinary64 x) where
  kept := coerce_of_numberOf?_eq_some hf hv hx
  finite := Number.isFinite_ofBinary64 (isFinite_of_numberOf? hx)
  compared _ _ := checksAs_ofBinary64 hf hv hx
  accepted := (checksAs_ofBinary64 hf hv hx).accepted
  whole := Number.isWhole_ofBinary64_iff.symm
  again := coerce_ofBinary64 hf (isFinite_of_numberOf? hx)

/-- **What is kept of a number is what has been checked.** Of a value that is not empty, a field for
a number keeps nothing exactly if it finds the value to be no number. Otherwise it keeps a finite
number, which is the one that the check compares with the bounds, is between them and among the
options if nothing is said against the value, is a whole number exactly if its value is whole, and
is kept unchanged itself. -/
theorem kept_as_checked (hf : f.valueType = .number) (hv : v.isBlank = false) :
    (f.coerce v = .ok .null ↔ f.check v = .ok (some .notANumber)) ∧
      (f.coerce v ≠ .ok .null → ∃ n, f.Keeps v n) := by
  cases hx : numberOf? v with
  | none =>
    have hkept := coerce_of_numberOf?_eq_none hf hx
    exact ⟨iff_of_true hkept (check_of_numberOf?_eq_none hf hv hx), fun h => absurd hkept h⟩
  | some x =>
    have hkeeps : f.Keeps v (Number.ofBinary64 x) := keeps_ofBinary64 hf hv hx
    have hkept : f.coerce v ≠ .ok .null := by
      rw [hkeeps.kept]
      cases Number.ofBinary64 x <;> simp [Number.toJson]
    have hchecked : f.check v ≠ .ok (some .notANumber) :=
      (checksAs_ofBinary64 hf hv hx).ne_notANumber
    exact ⟨iff_of_false hkept hchecked, fun _ => ⟨_, hkeeps⟩⟩

/-- A field for one of two amounts. -/
def amountField : Field :=
  { key := "value", label := "Wert", valueType := .number, minimum := some (.int 5),
    maximum := some (.int 100), options := some [.int 20, .int 50] }

/-- A text with blanks around it, a sign, an underscore, a digit of another script, a decimal comma
and an exponent is accepted and kept as a whole number. -/
theorem kept_as_checked_typed :
    let v := Json.str "\u00a0+2_\u0660,0e0 "
    amountField.valueType = .number ∧ v.isBlank = false ∧ amountField.check v = .ok none ∧
      amountField.coerce v = .ok (.int 20) ∧
      ∃ n, amountField.Keeps v n ∧ amountField.Within n ∧ amountField.Offers n := by
  intro v
  have hf : amountField.valueType = .number := rfl
  have hblank : v.isBlank = false := by decide +kernel
  have hchecked : amountField.check v = .ok none := by decide +kernel
  have hnumber : (numberOf? v).map Number.ofBinary64 = some (.int 20) := by decide +kernel
  obtain ⟨x, hx, hwhole⟩ := Option.map_eq_some_iff.mp hnumber
  have hkept : amountField.coerce v = .ok (.int 20) := by
    rw [coerce_of_numberOf?_eq_some hf hblank hx, hwhole]
    rfl
  obtain ⟨n, hn⟩ := (kept_as_checked hf hblank).2 (by simp [hkept])
  exact ⟨hf, hblank, hchecked, hkept, n, hn, hn.accepted hchecked⟩

end Field

end Commissioning
