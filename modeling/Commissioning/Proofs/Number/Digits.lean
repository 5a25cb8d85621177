import Commissioning.Number.Conversion

/-!
# Whole numbers written and read back

A whole number in decimal has at least one digit, nothing but digits, and no zero in front
unless it is zero. That is what the readers of documents and of typed numerals rely on, so
each of them gives back the number that was written: here the reader of typed numerals
(`Commissioning.intOfText?_ofList_intChars`), and in `Commissioning.Proofs.Json.Numeral` the
readers of documents.
-/

namespace Commissioning

/-! ### The digits of a natural number -/

theorem isDigit_of_mem_natChars {n : Nat} {c : Char} (h : c ∈ natChars n) : c.isDigit = true :=
  Nat.isDigit_of_mem_toDigits (by decide) (by decide) h

theorem natChars_ne_nil (n : Nat) : natChars n ≠ [] := Nat.toDigits_ne_nil

@[simp] theorem natOfDigits_natChars (n : Nat) : natOfDigits (natChars n) = n :=
  Nat.ofDigitChars_ten_toDigits

theorem natOfDigits_append (ds es : List Char) :
    natOfDigits (ds ++ es) = natOfDigits ds * 10 ^ es.length + natOfDigits es := by
  rw [natOfDigits, Nat.ofDigitChars_append, Nat.ofDigitChars_eq_ofDigitChars_zero (l := es),
    Nat.mul_comm]
  rfl

@[simp] theorem natOfDigits_replicate_zero (n : Nat) : natOfDigits (List.replicate n '0') = 0 := by
  simp [natOfDigits]

theorem natOfDigits_zeros_append (n : Nat) (ds : List Char) :
    natOfDigits (List.replicate n '0' ++ ds) = natOfDigits ds := by
  simp [natOfDigits_append]

theorem natOfDigits_append_zeros (ds : List Char) (n : Nat) :
    natOfDigits (ds ++ List.replicate n '0') = natOfDigits ds * 10 ^ n := by
  simp [natOfDigits_append]

/-- **No zero in front**: a positive number begins with another digit. -/
theorem head?_natChars_ne_zero {n : Nat} (h : 0 < n) : (natChars n).head? ≠ some '0' := by
  induction n using Nat.strongRecOn with
  | ind n ih =>
    rw [natChars, Nat.toDigits_eq_if (by decide)]
    split
    · simpa using Nat.pos_iff_ne_zero.mp h
    · have hq : 0 < n / 10 := Nat.div_pos (by omega) (by decide)
      have hhead := ih (n / 10) (by omega) hq
      rw [natChars] at hhead
      rw [List.head?_append]
      rcases hd : (Nat.toDigits 10 (n / 10)).head? with _ | d
      · exact absurd (List.head?_eq_none_iff.mp hd) Nat.toDigits_ne_nil
      · rw [hd] at hhead
        exact hhead

theorem natChars_zero : natChars 0 = ['0'] := Nat.toDigits_zero 10

/-- Multiplying by a power of ten puts zeros behind the digits. -/
theorem natChars_mul_ten_pow {n : Nat} (h : 0 < n) (k : Nat) :
    natChars (n * 10 ^ k) = natChars n ++ List.replicate k '0' := by
  induction k with
  | zero => simp
  | succ k ih =>
    have hpos : 0 < n * 10 ^ k := Nat.mul_pos h (Nat.pow_pos (by decide))
    have hten : n * 10 ^ (k + 1) = 10 * (n * 10 ^ k) + 0 := by
      rw [Nat.pow_succ, ← Nat.mul_assoc, Nat.mul_comm, Nat.add_zero]
    rw [hten, natChars, ← Nat.toDigits_append_toDigits (by decide) hpos (by decide), ← natChars,
      ih, List.append_assoc, Nat.toDigits_zero, List.replicate_succ']

theorem length_natChars_mul_ten_pow {n : Nat} (h : 0 < n) (k : Nat) :
    (natChars (n * 10 ^ k)).length = (natChars n).length + k := by
  simp [natChars_mul_ten_pow h]

/-! ### Cutting digits off -/

/-- What follows a number does not go on with a digit. -/
def NoDigitAhead (cs : List Char) : Prop := ∀ c ∈ cs.head?, c.isDigit = false

theorem splitDigits_append {ds rest : List Char} (hds : ∀ c ∈ ds, c.isDigit = true)
    (hrest : NoDigitAhead rest) : splitDigits (ds ++ rest) = (ds, rest) := by
  have htake : rest.takeWhile Char.isDigit = [] := by
    cases rest with
    | nil => rfl
    | cons c cs => simp [hrest c rfl]
  have hdrop : rest.dropWhile Char.isDigit = rest := by
    cases rest with
    | nil => rfl
    | cons c cs => simp [hrest c rfl]
  rw [splitDigits, List.takeWhile_append_of_pos hds, List.dropWhile_append_of_pos hds, htake,
    hdrop, List.append_nil]

/-! ### Typed numerals -/

theorem exists_digitChar {c : Char} (h : c.isDigit = true) : ∃ d < 10, c = Nat.digitChar d := by
  have hrange : 48 ≤ c.toNat ∧ c.toNat ≤ 57 := by
    simpa [Char.isDigit, UInt32.le_iff_toNat_le] using h
  refine ⟨c.toNat - 48, by omega, ?_⟩
  refine Char.toNat_inj.mp ?_
  rw [Nat.toNat_digitChar_of_lt_ten (by omega)]
  omega

theorem westernDigit_of_isDigit {c : Char} (h : c.isDigit = true) : Text.westernDigit c = c := by
  obtain ⟨d, hd, rfl⟩ := exists_digitChar h
  revert d
  decide

theorem isBlank_of_isDigit {c : Char} (h : c.isDigit = true) : Text.isBlank c = false := by
  obtain ⟨d, hd, rfl⟩ := exists_digitChar h
  revert d
  decide

/-- A character of a written whole number. -/
def IsNumeralChar (c : Char) : Prop := c = '-' ∨ c.isDigit = true

theorem isNumeralChar_of_mem_intChars {i : Int} {c : Char} (h : c ∈ intChars i) :
    IsNumeralChar c := by
  unfold intChars at h
  split at h
  · rcases List.mem_cons.mp h with rfl | h
    · exact Or.inl rfl
    · exact Or.inr (isDigit_of_mem_natChars h)
  · exact Or.inr (isDigit_of_mem_natChars h)

namespace IsNumeralChar

variable {c : Char}

theorem westernDigit (h : IsNumeralChar c) : Text.westernDigit c = c := by
  rcases h with rfl | h
  · decide
  · exact westernDigit_of_isDigit h

theorem isBlank (h : IsNumeralChar c) : Text.isBlank c = false := by
  rcases h with rfl | h
  · decide
  · exact isBlank_of_isDigit h

theorem isWhiteSpace (h : IsNumeralChar c) : Text.isWhiteSpace c = false := by
  rw [Bool.eq_false_iff]
  intro hw
  have hb := Text.isBlank_of_isWhiteSpace hw
  rw [h.isBlank] at hb
  exact absurd hb (by decide)

theorem ne_underscore (h : IsNumeralChar c) : c ≠ '_' := by
  rintro rfl
  rcases h with h | h <;> exact absurd h (by decide)

end IsNumeralChar

theorem trimBy_eq_self {p : Char → Bool} {cs : List Char} (h : ∀ c ∈ cs, p c = false) :
    Text.trimBy p cs = cs := by
  have hdrop : ∀ ds : List Char, (∀ c ∈ ds, p c = false) → ds.dropWhile p = ds := by
    intro ds hds
    cases ds with
    | nil => rfl
    | cons d ds => simp [hds d (by simp)]
  rw [Text.trimBy, hdrop cs h, Text.trimEndBy, hdrop cs.reverse (by simpa using h),
    List.reverse_reverse]

theorem dropSeparatorsAfter_eq_self {afterDigit : Bool} {cs : List Char}
    (h : ∀ c ∈ cs, c ≠ '_') : dropSeparatorsAfter afterDigit cs = some cs := by
  induction cs generalizing afterDigit with
  | nil => rfl
  | cons c cs ih =>
    have hc : c ≠ '_' := h c (by simp)
    have hcs : ∀ d ∈ cs, d ≠ '_' := fun d hd => h d (by simp [hd])
    rw [dropSeparatorsAfter]
    · simp [hc, ih hcs]
    · intro _ _ he
      exact absurd he hc

theorem splitSign_of_isDigit {c : Char} {cs : List Char} (h : c.isDigit = true) :
    splitSign (c :: cs) = (false, c :: cs) := by
  have hminus : c ≠ '-' := by
    rintro rfl
    exact absurd h (by decide)
  have hplus : c ≠ '+' := by
    rintro rfl
    exact absurd h (by decide)
  rw [splitSign] <;> simp [hminus, hplus]

theorem splitSign_intChars (i : Int) :
    splitSign (intChars i) = (decide (i < 0), natChars i.natAbs) := by
  unfold intChars
  by_cases hi : i < 0
  · simp [hi, splitSign]
  · rcases hd : natChars i.natAbs with _ | ⟨d, ds⟩
    · exact absurd hd (natChars_ne_nil _)
    · have hdig : d.isDigit = true := isDigit_of_mem_natChars (n := i.natAbs) (by simp [hd])
      rw [if_neg hi, splitSign_of_isDigit hdig, decide_eq_false hi]

/-- The sign and the digits of a written whole number. -/
theorem splitWhole?_intChars (i : Int) :
    splitWhole? (intChars i) = some (decide (i < 0), natChars i.natAbs) := by
  have hsep : dropSeparators (intChars i) = some (intChars i) :=
    dropSeparatorsAfter_eq_self fun c hc => (isNumeralChar_of_mem_intChars hc).ne_underscore
  have hdigits : (!(natChars i.natAbs).isEmpty && (natChars i.natAbs).all Char.isDigit) = true := by
    simpa using ⟨natChars_ne_nil i.natAbs, fun c hc => isDigit_of_mem_natChars hc⟩
  simp only [splitWhole?, hsep, splitSign_intChars, Option.bind_eq_bind, Option.bind_some, hdigits,
    if_true]

theorem natAbs_signed (negative : Bool) (n : Nat) : (signed negative n).natAbs = n := by
  cases negative <;> simp [signed]

theorem signed_natAbs (i : Int) : signed (decide (i < 0)) i.natAbs = i := by
  unfold signed
  by_cases hi : i < 0
  · rw [decide_eq_true hi, if_pos rfl]
    omega
  · rw [decide_eq_false hi, if_neg Bool.false_ne_true]
    omega

/-- **A typed numeral gives the number back**, if it is not too long to be written. -/
theorem intOfText?_ofList_intChars {i : Int} (h : (natChars i.natAbs).length ≤ digitLimit) :
    intOfText? (String.ofList (intChars i)) = some i := by
  have hwest : Text.westernDigits (intChars i) = intChars i :=
    (List.map_congr_left fun c hc => (isNumeralChar_of_mem_intChars hc).westernDigit).trans
      (List.map_id' _)
  have htrim : Text.trimBy Text.isWhiteSpace (intChars i) = intChars i :=
    trimBy_eq_self fun c hc => (isNumeralChar_of_mem_intChars hc).isWhiteSpace
  simp [intOfText?, hwest, htrim, splitWhole?_intChars, h, signed_natAbs]

end Commissioning
