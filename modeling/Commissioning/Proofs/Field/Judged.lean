import Commissioning.Proofs.Field.Check
import Commissioning.Proofs.Field.Pattern
import Commissioning.Proofs.Installation.Writable

/-!
# Fields on the values of a record

A field of a view is checked on a document, but what stands there has been written from a record: a
text, a whole number, a double, or nothing. On such a value a check cannot fail, and what it accepts
can be said of the record itself (`Commissioning.Field.Judges`). There is one lemma for each kind of
field that the views have.

A whole number is compared with bounds and options only after it has been made a double. **That
makes no difference for bounds of less than 53 bits** (`Commissioning.Field.inBounds_ofInt?_iff`),
since a larger number is rounded to one that is as far out of bounds.
-/

namespace Commissioning

namespace Field

/-- The check of a field on a value does not fail, and says nothing exactly if a condition holds. -/
structure Judges (f : Field) (v : Json) (holds : Prop) : Prop where
  total : ∃ c, f.check v = .ok c
  accepts : f.check v = .ok none ↔ holds

variable {f : Field} {v : Json} {x : Binary64} {i a b : Int} {holds holds' : Prop}

theorem Judges.congr (h : f.Judges v holds) (hiff : holds ↔ holds') : f.Judges v holds' :=
  ⟨h.total, h.accepts.trans hiff⟩

/-- Nothing at all is missing, or welcome. -/
theorem judges_null (f : Field) : f.Judges .null (f.required = false) := by
  have hcheck : f.check .null = .ok (if f.required then some .missing else none) := by
    rw [check, if_pos (show Json.null.isBlank = true from rfl)]
    cases f.required <;> rfl
  refine ⟨⟨_, hcheck⟩, ?_⟩
  rw [hcheck]
  cases f.required <;> simp

/-! ### Texts -/

theorem judges_text (hf : f.IsText) (s : String) :
    f.Judges (.str s) (Text.isEmptyText s = false ∧ f.checkOptions (.str s) = none ∧
      ∀ p, f.pattern = some p → p.accepts (Text.trim s.toList) = true) := by
  have hcheck : f.check (.str s) = .ok (f.objection? (.str s)) := check_text hf rfl
  have htrim : (Json.str s).trimmed.toList = Text.trim s.toList := String.toList_ofList
  refine ⟨⟨_, hcheck⟩, ?_⟩
  rw [hcheck, Except.ok.injEq, objection?_eq_none_iff, htrim]
  exact Iff.rfl

/-- A field of which nothing else is demanded than a text. -/
theorem judges_plain_text (hf : f.IsText) (hoptions : f.options = none)
    (hpattern : f.pattern = none) (s : String) :
    f.Judges (.str s) (Text.isEmptyText s = false) := by
  refine (judges_text hf s).congr ?_
  simp [checkOptions, hoptions, hpattern]

theorem judges_optional_text (hf : f.IsText) (hoptions : f.options = none)
    (hpattern : f.pattern = none) (s : Option String) :
    f.Judges (Json.ofOptionStr s) (∃ t, s = some t ∧ Text.isEmptyText t = false) := by
  cases s with
  | none => exact (judges_null f).congr (by simp [hf.required])
  | some t => exact (judges_plain_text hf hoptions hpattern t).congr (by simp)

/-- A field with a pattern that no blank text follows. -/
theorem judges_pattern {p : Pattern} {P : List Char → Prop} (hf : f.IsText)
    (hoptions : f.options = none) (hpattern : f.pattern = some p)
    (haccepts : ∀ {cs}, p.accepts cs = true ↔ P cs) (hnil : ¬P []) (s : String) :
    f.Judges (.str s) (P (Text.trim s.toList)) := by
  refine (judges_text hf s).congr ?_
  simp only [checkOptions, hoptions, hpattern, Option.some.injEq, forall_eq', true_and, haccepts]
  refine and_iff_right_of_imp fun hP => ?_
  -- A blank text is trimmed to nothing, which does not follow the pattern.
  by_contra hblank
  rw [Bool.not_eq_false, ← Text.trim_eq_nil_iff] at hblank
  exact hnil (hblank ▸ hP)

/-- A field with options, which are texts that are not blank. -/
theorem judges_options {options : List String} (hf : f.IsText)
    (hoptions : f.options = some (options.map .str)) (hpattern : f.pattern = none)
    (hfilled : ∀ s ∈ options, Text.isEmptyText s = false) (s : String) :
    f.Judges (.str s) (s ∈ options) := by
  refine (judges_text hf s).congr ?_
  have hmem : (options.map Json.str).any (·.alike (.str s)) = true ↔ s ∈ options := by
    simp only [List.any_map, List.any_eq_true, Function.comp_apply, Json.alike, beq_iff_eq,
      exists_eq_right]
  simp only [checkOptions, optionValue, hf.type, hoptions, hpattern]
  constructor
  · rintro ⟨-, hoption, -⟩
    by_contra hs
    rw [if_neg (mt hmem.mp hs)] at hoption
    cases hoption
  · intro hs
    exact ⟨hfilled s hs, if_pos (hmem.mpr hs), by rintro _ ⟨⟩⟩

/-! ### Numbers -/

/-- The bounds of a field, if there are any, are whole numbers of less than 53 bits. -/
def HasSmallBounds (f : Field) : Prop :=
  ∀ n, f.minimum = some n ∨ f.maximum = some n → ∃ a : Int, n = .int a ∧ a.natAbs < 2 ^ 53

/-- Such a bound can be quoted. -/
theorem exists_boundText (h : a.natAbs < 2 ^ 53) : ∃ s, (Number.int a).boundText = .ok s := by
  obtain ⟨x, hx⟩ := Binary64.exists_ofInt? (Nat.le_of_lt h)
  have hdouble : (Number.int a).toBinary64 = .ok x := by
    rw [Number.toBinary64, Json.toBinary64, hx, Option.elim_some]
  have hshort : (natChars a.natAbs).length ≤ digitLimit :=
    Json.isWritable_int.mp (Intake.isWritable_of_natAbs_lt (Nat.lt_trans h (by decide)))
  have htext : Number.text (.int a) = .ok (String.ofList (intChars a)) := by
    simp only [Number.text, intChars?, if_pos hshort]
  refine ⟨String.ofList (intChars a), ?_⟩
  rw [Number.boundText, hdouble, ← htext]
  cases hwhole : Number.ofBinary64 x with
  | int i => simp only [bind, Except.bind, hwhole]
  | float y => simp only [bind, Except.bind, hwhole]

theorem exists_checkBounds (hf : f.HasSmallBounds) (x : Binary64) :
    ∃ c, f.checkBounds x = .ok c := by
  have hquoted : ∀ n, f.minimum = some n ∨ f.maximum = some n → ∃ s, n.boundText = .ok s := by
    intro n hn
    obtain ⟨a, rfl, ha⟩ := hf n hn
    exact exists_boundText ha
  have hupper : ∃ c, checkBounds.upper f x = .ok c := by
    unfold checkBounds.upper
    cases hmax : f.maximum with
    | none => exact ⟨none, rfl⟩
    | some most =>
      obtain ⟨s, hs⟩ := hquoted most (Or.inr hmax)
      simp only [hs]
      split
      · exact ⟨_, rfl⟩
      · exact ⟨none, rfl⟩
  unfold checkBounds
  cases hmin : f.minimum with
  | none => exact hupper
  | some least =>
    obtain ⟨s, hs⟩ := hquoted least (Or.inl hmin)
    simp only [hs]
    split
    · exact ⟨_, rfl⟩
    · exact hupper

theorem exists_check_number (hf : f.IsNumber) (hbounds : f.HasSmallBounds) (h : v.isBlank = false) :
    ∃ c, f.check v = .ok c := by
  cases hx : numberOf? v with
  | none => exact ⟨_, check_of_numberOf?_eq_none hf.type h hx⟩
  | some x =>
    obtain ⟨c, hc⟩ := exists_checkBounds hbounds x
    rw [hf.check_eq h hx, hc]
    exact ⟨_, rfl⟩

/-- **A whole number** is within such bounds exactly if its double is. -/
theorem inBounds_ofInt?_iff (hf : f.HasSmallBounds) (hx : Binary64.ofInt? i = some x) :
    f.InBounds x ↔ (∀ a, f.minimum = some (.int a) → a ≤ i) ∧
      ∀ b, f.maximum = some (.int b) → i ≤ b := by
  obtain ⟨z, hz, hcompare⟩ := Binary64.bounds_ofInt? hx
  constructor
  · intro h
    constructor
    · intro a hmin
      obtain ⟨_, ⟨⟩, ha⟩ := hf _ (Or.inl hmin)
      have hleast := h.minimum _ hmin
      rw [Number.lt_int hz, decide_eq_false_iff_not, Int.not_lt] at hleast
      exact (hcompare a ha).1.mp hleast
    · intro b hmax
      obtain ⟨_, ⟨⟩, hb⟩ := hf _ (Or.inr hmax)
      have hmost := h.maximum _ hmax
      rw [Number.int_lt hz, decide_eq_false_iff_not, Int.not_lt] at hmost
      exact (hcompare b hb).2.mp hmost
  · rintro ⟨hleast, hmost⟩
    constructor
    · intro n hmin
      obtain ⟨a, rfl, ha⟩ := hf _ (Or.inl hmin)
      rw [Number.lt_int hz, decide_eq_false_iff_not, Int.not_lt]
      exact (hcompare a ha).1.mpr (hleast a hmin)
    · intro n hmax
      obtain ⟨b, rfl, hb⟩ := hf _ (Or.inr hmax)
      rw [Number.int_lt hz, decide_eq_false_iff_not, Int.not_lt]
      exact (hcompare b hb).2.mpr (hmost b hmax)

theorem judges_int (hf : f.IsNumber) (hbounds : f.HasSmallBounds) (hoptions : f.options = none)
    (i : Int) : f.Judges (.int i) (Binary64.ofInt? i ≠ none ∧
      (∀ a, f.minimum = some (.int a) → a ≤ i) ∧ ∀ b, f.maximum = some (.int b) → i ≤ b) := by
  refine ⟨exists_check_number hf hbounds rfl, ?_⟩
  have hchecked : f.checkOptions (.int i) = none := by
    rw [checkOptions, hoptions]
  rw [check_number_iff hf rfl, numberOf?_int, hchecked]
  cases hx : Binary64.ofInt? i with
  | none => simp
  | some x => simp [inBounds_ofInt?_iff hbounds hx]

/-- A field of which nothing else is demanded than a number between two bounds. -/
structure IsBetween (f : Field) (a b : Int) : Prop where
  number : f.IsNumber
  options : f.options = none
  minimum : f.minimum = some (.int a)
  maximum : f.maximum = some (.int b)
  least : a.natAbs < 2 ^ 53
  most : b.natAbs < 2 ^ 53

theorem judges_between (hf : f.IsBetween a b) (i : Int) : f.Judges (.int i) (a ≤ i ∧ i ≤ b) := by
  have hbounds : f.HasSmallBounds := by
    rintro n (hmin | hmax)
    · exact ⟨a, Option.some.inj (hmin.symm.trans hf.minimum), hf.least⟩
    · exact ⟨b, Option.some.inj (hmax.symm.trans hf.maximum), hf.most⟩
  refine (judges_int hf.number hbounds hf.options i).congr ?_
  simp only [hf.minimum, hf.maximum, Option.some.injEq, Number.int.injEq, forall_eq']
  refine and_iff_right_of_imp fun hi => ?_
  have hleast := hf.least
  have hmost := hf.most
  obtain ⟨x, hx⟩ := Binary64.exists_ofInt? (i := i) (by omega)
  exact hx ▸ Option.some_ne_none x

theorem judges_required_between (hf : f.IsBetween a b) (hrequired : f.required = true)
    (i : Option Int) :
    f.Judges (Json.ofOptionInt i) (∃ n, i = some n ∧ a ≤ n ∧ n ≤ b) := by
  cases i with
  | none => exact (judges_null f).congr (by simp [hrequired])
  | some n => exact (judges_between hf n).congr (by simp)

theorem judges_optional_between (hf : f.IsBetween a b) (hrequired : f.required = false)
    (i : Option Int) :
    f.Judges (Json.ofOptionInt i) (∀ n, i = some n → a ≤ n ∧ n ≤ b) := by
  cases i with
  | none => exact (judges_null f).congr (by simp [hrequired])
  | some n => exact (judges_between hf n).congr (by simp)

/-- A field of which nothing else is demanded than a number from a bound on. -/
structure IsFrom (f : Field) (a : Int) : Prop where
  number : f.IsNumber
  required : f.required = true
  options : f.options = none
  minimum : f.minimum = some (.int a)
  maximum : f.maximum = none
  least : a.natAbs < 2 ^ 53

theorem IsFrom.hasSmallBounds (hf : f.IsFrom a) : f.HasSmallBounds := by
  rintro n (hmin | hmax)
  · exact ⟨a, Option.some.inj (hmin.symm.trans hf.minimum), hf.least⟩
  · rw [hf.maximum] at hmax
    cases hmax

/-- A whole number that is too large for a double is no number for a field. -/
theorem judges_int_from (hf : f.IsFrom a) (i : Option Int) :
    f.Judges (Json.ofOptionInt i) (∃ n, i = some n ∧ a ≤ n ∧ Binary64.ofInt? n ≠ none) := by
  cases i with
  | none => exact (judges_null f).congr (by simp [hf.required])
  | some n =>
    refine (judges_int hf.number hf.hasSmallBounds hf.options n).congr ?_
    simp [hf.minimum, hf.maximum, and_comm]

theorem judges_float_from (hf : f.IsFrom a) (x : Option Binary64) :
    f.Judges (Json.ofOptionFloat x)
      (∃ y, x = some y ∧ y.isFinite = true ∧ (Number.int a).le (.float y) = true) := by
  cases x with
  | none => exact (judges_null f).congr (by simp [hf.required])
  | some y =>
    refine ⟨exists_check_number hf.number hf.hasSmallBounds rfl, ?_⟩
    have hoptions : f.checkOptions (.float y) = none := by
      rw [checkOptions, hf.options]
    have hbounds : f.InBounds y ↔ (Number.float y).lt (.int a) = false := by
      simp [inBounds_iff, hf.minimum, hf.maximum]
    rw [Json.ofOptionFloat, check_number_iff hf.number rfl, hoptions, numberOf?]
    cases hfinite : y.isFinite with
    | false => simp [hfinite]
    | true =>
      obtain ⟨z, hz, -⟩ := Binary64.exists_units hfinite
      have hplace : (Number.float y).lt (.int a) = false ↔ (Number.int a).le (.float y) = true := by
        rw [Number.lt_int hz, Number.int_le hz, decide_eq_false_iff_not, decide_eq_true_eq,
          Int.not_lt]
      simp [hfinite, hbounds, hplace]

/-- A field for one of some numbers, which are whole and of less than 53 bits. -/
structure IsChoice (f : Field) (choices : List Int) : Prop where
  number : f.IsNumber
  required : f.required = true
  options : f.options = some (choices.map .int)
  minimum : f.minimum = none
  maximum : f.maximum = none
  small : ∀ n ∈ choices, n.natAbs < 2 ^ 53

theorem alike_int_toJson (n : Int) (m : Number) :
    (Json.int n).alike m.toJson = (Number.int n).sameValue m := by
  cases m <;> simp [Number.toJson, Json.alike, Json.alike.sameNumber, Json.number?]

/-- An option that is whole is compared by value with the number that is checked. -/
theorem alike_optionValue {z : Int} (hf : f.IsNumber) (hx : numberOf? v = some x)
    (hz : x.units? = some z) (n : Int) :
    (Json.int n).alike (f.optionValue v) = decide (n * Binary64.one = z) := by
  have hplace : (Number.ofBinary64 x).position? = (Number.float x).position? :=
    Number.position?_ofBinary64 x
  rw [optionValue_of_numberOf? hf.type hx, alike_int_toJson, ← Number.int_sameValue hz,
    Number.sameValue, hplace, Number.sameValue]

theorem judges_choice {choices : List Int} (hf : f.IsChoice choices) (i : Option Int) :
    f.Judges (Json.ofOptionInt i) (∃ n ∈ choices, i = some n) := by
  have hbounds : f.HasSmallBounds := by
    rintro n (hmin | hmax)
    · rw [hf.minimum] at hmin
      cases hmin
    · rw [hf.maximum] at hmax
      cases hmax
  cases i with
  | none => exact (judges_null f).congr (by simp [hf.required])
  | some i =>
    refine ⟨exists_check_number hf.number hbounds rfl, ?_⟩
    rw [Json.ofOptionInt, check_number_iff hf.number rfl, numberOf?_int]
    cases hx : Binary64.ofInt? i with
    | none =>
      -- A number that is too large is none of the options.
      refine iff_of_false (by rintro ⟨x, ⟨⟩, -⟩) ?_
      rintro ⟨n, hn, ⟨⟩⟩
      obtain ⟨x, hx'⟩ := Binary64.exists_ofInt? (Nat.le_of_lt (hf.small i hn))
      rw [hx] at hx'
      cases hx'
    | some x =>
      obtain ⟨z, hz, hcompare⟩ := Binary64.bounds_ofInt? hx
      have hinBounds : f.InBounds x := by
        simp [inBounds_iff, hf.minimum, hf.maximum]
      have hsame : ∀ n ∈ choices, (n * Binary64.one = z ↔ n = i) := by
        intro n hn
        obtain ⟨hle, hge⟩ := hcompare n (hf.small n hn)
        rw [Int.le_antisymm_iff, hle, hge, ← Int.le_antisymm_iff]
      have hany : (choices.map Json.int).any (·.alike (f.optionValue (.int i))) = true ↔
          ∃ n ∈ choices, some i = some n := by
        have hnumber : numberOf? (.int i) = some x := (numberOf?_int i).trans hx
        simp only [List.any_map, List.any_eq_true, Function.comp_apply,
          alike_optionValue hf.number hnumber hz, decide_eq_true_eq, Option.some.injEq]
        exact exists_congr fun n => and_congr_right fun hn => (hsame n hn).trans eq_comm
      have hchecked : f.checkOptions (.int i) = none ↔ ∃ n ∈ choices, some i = some n := by
        rw [← hany, checkOptions, hf.options]
        simp
      simp only [Option.some.injEq, exists_eq_left', hinBounds, true_and, hchecked]

end Field

end Commissioning
