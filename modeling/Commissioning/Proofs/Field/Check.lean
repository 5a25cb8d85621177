import Commissioning.Field.Basic
import Commissioning.Proofs.Except
import Commissioning.Proofs.Number.Whole
import Mathlib.Tactic.MkIffOfInductiveProp

/-!
# What is said about a value

The check of a field has several stages, and most fields use one or two of them.

* Nothing is said against a value of a **number** field exactly if it stands for a finite number
  that is within the bounds and among the options (`Commissioning.Field.check_number_iff`). Between
  whole bounds the whole part of such a number stays between them
  (`Commissioning.Field.InBounds.toInt`).
* A required **text** must not be blank, and must be one of the options and follow the pattern if
  there are any. If the value has a text at all, the check says this and cannot fail
  (`Commissioning.Field.check_text`).
-/

namespace Commissioning

namespace Field

variable {f : Field} {v : Json} {x : Binary64} {a b : Int}

/-- A number is within the bounds of a field. -/
@[mk_iff inBounds_iff]
structure InBounds (f : Field) (x : Binary64) : Prop where
  minimum : ∀ least, f.minimum = some least → (Number.float x).lt least = false
  maximum : ∀ most, f.maximum = some most → most.lt (.float x) = false

/-- A complaint that quotes a bound is made, or the check goes on. -/
theorem quoting_iff {beyond : Bool} {bound : Except NumberError String}
    {complaint : String → Complaint} {rest : Except NumberError (Option Complaint)} :
    (if beyond then (do return some (complaint (← bound))) else rest) = .ok none ↔
      beyond = false ∧ rest = .ok none := by
  cases beyond with
  | false => exact (and_iff_right rfl).symm
  | true =>
    refine iff_of_false (fun h => ?_) (fun h => nomatch h.1)
    obtain ⟨text, -, h⟩ := exists_of_bind_eq_ok h
    cases h

theorem checkBounds_iff : f.checkBounds x = .ok none ↔ f.InBounds x := by
  have hupper : checkBounds.upper f x = .ok none ↔
      ∀ most, f.maximum = some most → most.lt (.float x) = false := by
    unfold checkBounds.upper
    cases f.maximum with
    | none => exact iff_of_true rfl fun most h => absurd h.symm (Option.some_ne_none most)
    | some most =>
      simp only [quoting_iff, Option.some.injEq, forall_eq', and_iff_left_iff_imp]
      exact fun _ => rfl
  rw [inBounds_iff, ← hupper]
  unfold checkBounds
  cases f.minimum with
  | none => exact (and_iff_right fun least h => absurd h.symm (Option.some_ne_none least)).symm
  | some least => simp only [quoting_iff, Option.some.injEq, forall_eq']

/-! ### Checking a number -/

theorem numberOf?_int (i : Int) : numberOf? (.int i) = Binary64.ofInt? i := by
  rw [numberOf?]
  cases hx : Binary64.ofInt? i with
  | none => rfl
  | some x => rw [Option.filter_some, if_pos (Option.filter_eq_some_iff.mp hx).2]

theorem numberOf?_float (hx : x.isFinite = true) : numberOf? (.float x) = some x := by
  rw [numberOf?, Option.filter_some, if_pos hx]

theorem optionValue_of_numberOf? (hf : f.valueType = .number) (hx : numberOf? v = some x) :
    f.optionValue v = (Number.ofBinary64 x).toJson := by
  unfold optionValue
  simp only [hf, hx]

theorem check_of_numberOf?_eq_none (hf : f.valueType = .number) (h : v.isBlank = false)
    (hx : numberOf? v = none) : f.check v = .ok (some .notANumber) := by
  rw [check, if_neg (by simp [h])]
  unfold checkType
  simp only [hf, hx]
  rfl

/-- A number is checked for its bounds, then for being one of the options, and its text last. -/
theorem check_of_numberOf?_eq_some (hf : f.valueType = .number) (h : v.isBlank = false)
    (hx : numberOf? v = some x) :
    f.check v = f.checkBounds x >>= fun c =>
      match c.or (f.checkOptions v) with
      | some c => .ok (some c)
      | none => f.checkPattern v := by
  rw [check, if_neg (by simp [h])]
  unfold checkType
  simp only [hf, hx]
  congr 1
  funext c
  cases c with
  | some c => rfl
  | none => cases f.checkOptions v <;> rfl

/-- A field for a number. -/
structure IsNumber (f : Field) : Prop where
  type : f.valueType = .number
  pattern : f.pattern = none

/-- Without a pattern the text of a number does not matter. -/
theorem IsNumber.check_eq (hf : f.IsNumber) (h : v.isBlank = false) (hx : numberOf? v = some x) :
    f.check v = f.checkBounds x >>= fun c => .ok (c.or (f.checkOptions v)) := by
  have hpattern : f.checkPattern v = .ok none := by
    rw [checkPattern, hf.pattern]
    rfl
  rw [check_of_numberOf?_eq_some hf.type h hx, hpattern]
  congr 1
  funext c
  cases c.or (f.checkOptions v) <;> rfl

/-- **Nothing is said against a value** that is not empty exactly if it stands for a number within
the bounds and among the options. -/
theorem check_number_iff (hf : f.IsNumber) (h : v.isBlank = false) :
    f.check v = .ok none ↔
      ∃ x, numberOf? v = some x ∧ f.InBounds x ∧ f.checkOptions v = none := by
  cases hx : numberOf? v with
  | none =>
    rw [check_of_numberOf?_eq_none hf.type h hx]
    exact iff_of_false (by rintro ⟨⟩) (by rintro ⟨x, ⟨⟩, -⟩)
  | some x =>
    rw [hf.check_eq h hx]
    simp only [Option.some.injEq, exists_eq_left', ← checkBounds_iff]
    constructor
    · intro hcheck
      obtain ⟨c, hc, hcheck⟩ := exists_of_bind_eq_ok hcheck
      obtain ⟨rfl, hoptions⟩ := Option.or_eq_none_iff.mp (Except.ok.inj hcheck)
      exact ⟨hc, hoptions⟩
    · rintro ⟨hc, hoptions⟩
      rw [hc, hoptions]
      rfl

/-- A value that a required number field has accepted stands for a number. -/
theorem exists_number_of_check (hf : f.IsNumber) (hrequired : f.required = true)
    (h : f.check v = .ok none) : ∃ x, numberOf? v = some x ∧ f.InBounds x := by
  cases hblank : v.isBlank with
  | true =>
    rw [check, if_pos hblank, if_pos hrequired] at h
    cases h
  | false =>
    obtain ⟨x, hx, hbounds, -⟩ := (check_number_iff hf hblank).mp h
    exact ⟨x, hx, hbounds⟩

/-- **Between whole bounds** the whole part of a number is between them. -/
theorem InBounds.toInt (h : f.InBounds x) (hfinite : x.isFinite = true)
    (hmin : f.minimum = some (.int a)) (hmax : f.maximum = some (.int b)) :
    ∃ n, x.toInt = .ok n ∧ a ≤ n ∧ n ≤ b := by
  obtain ⟨z, hz, -⟩ := Binary64.exists_units hfinite
  have hleast := h.minimum _ hmin
  have hmost := h.maximum _ hmax
  rw [Number.lt_int hz, decide_eq_false_iff_not, Int.not_lt] at hleast
  rw [Number.int_lt hz, decide_eq_false_iff_not, Int.not_lt] at hmost
  exact ⟨_, Binary64.toInt_of_units? hz, Binary64.le_toInt hleast, Binary64.toInt_le hmost⟩

end Field

/-! ### Checking a text -/

/-- The text of a value without the blanks at either end; nothing of a value that has no text. -/
def Json.trimmed (v : Json) : String := String.ofList (Text.trim (v.display?.getD "").toList)

namespace Field

/-- A field for a text that must not be left empty. -/
structure IsText (f : Field) : Prop where
  type : f.valueType = .string
  required : f.required = true

/-- What is said against a text: that it is empty, no option, or not as the pattern says. -/
def objection? (f : Field) (v : Json) : Option Complaint :=
  if v.isBlank then some .missing
  else match f.checkOptions v, f.pattern with
    | some c, _ => some c
    | none, some p => if p.accepts v.trimmed.toList then none else some (.mismatch f.mismatchText)
    | none, none => none

variable {f : Field} {v : Json} {text : String}

theorem trimmedText_of_display? (h : v.display? = some text) : trimmedText v = .ok v.trimmed := by
  rw [trimmedText, Json.display, h, Json.trimmed, h]
  rfl

/-- **A text field** says what there is to say, and does not fail on a value that has a text. -/
theorem check_text (hf : f.IsText) (h : v.display? = some text) :
    f.check v = .ok (f.objection? v) := by
  rw [check, objection?]
  cases v.isBlank with
  | true => rw [if_pos rfl, if_pos rfl, if_pos hf.required]; rfl
  | false =>
    have htype : f.checkType v = .ok none := by
      unfold checkType
      simp only [hf.type]
      rfl
    rw [if_neg Bool.false_ne_true, if_neg Bool.false_ne_true, htype]
    cases hoptions : f.checkOptions v with
    | some c => rfl
    | none =>
      simp only [checkPattern, trimmedText_of_display? h]
      cases f.pattern with
      | none => rfl
      | some p => rfl

theorem objection?_eq_none_iff :
    f.objection? v = none ↔ v.isBlank = false ∧ f.checkOptions v = none ∧
      ∀ p, f.pattern = some p → p.accepts v.trimmed.toList = true := by
  rw [objection?]
  cases v.isBlank with
  | true => simp
  | false =>
    cases f.checkOptions v with
    | some c => simp
    | none => cases f.pattern <;> simp

end Field

end Commissioning
