import Commissioning.Json.Reader
import Commissioning.Json.Writer
import Commissioning.Proofs.Number.Rounding

/-!
# Numbers in documents, written and read back

Every number that is written in a document follows one grammar, and
`Commissioning.Json.Numeral` is that grammar as data: a sign, a whole part without zeros in
front, and perhaps a fraction and an exponent. What the reader makes of a numeral is
`Commissioning.Json.Numeral.value` (`Commissioning.Json.Numeral.readNumber_chars`), provided
that the text does not go on with a character that could belong to a number
(`Commissioning.Json.EndsNumeral`).

It remains to find the numeral that is written: for a whole number
(`Commissioning.Json.Numeral.ofInt`), and for a finite double in each of the layouts of its
digits (`Commissioning.Json.exists_numeral`). There the significant digits are kept, and only
zeros move between them and the power of ten.
-/

namespace Commissioning

namespace Json

/-! ### The grammar -/

/-- A number as the grammar of documents has it. -/
structure Numeral where
  /-- Whether there is a minus sign. -/
  negative : Bool
  /-- The digits in front of the point. -/
  whole : List Char
  /-- The digits behind the point, if there is one. -/
  fraction? : Option (List Char)
  /-- The sign and the digits of the exponent, if there is one. -/
  exponent? : Option (Bool × List Char)
  whole_digits : ∀ c ∈ whole, c.isDigit = true
  whole_ne_nil : whole ≠ []
  whole_head : whole = ['0'] ∨ whole.head? ≠ some '0'
  whole_length : whole.length ≤ digitLimit
  fraction_digits : ∀ ds ∈ fraction?, ds ≠ [] ∧ ∀ c ∈ ds, c.isDigit = true
  exponent_digits : ∀ e ∈ exponent?, e.2 ≠ [] ∧ ∀ c ∈ e.2, c.isDigit = true

/-- What follows a number does not go on with a character of numbers. -/
def EndsNumeral (cs : List Char) : Prop :=
  ∀ c ∈ cs.head?, c.isDigit = false ∧ c ≠ '.' ∧ c ≠ 'e' ∧ c ≠ 'E'

/-- The characters of a sign. -/
def signChars (negative : Bool) : List Char := if negative then ['-'] else []

/-- The characters of a fraction. -/
def fractionChars : Option (List Char) → List Char
  | none => []
  | some ds => '.' :: ds

/-- The characters of an exponent, which always has a sign. -/
def exponentChars : Option (Bool × List Char) → List Char
  | none => []
  | some (negative, ds) => 'e' :: (if negative then '-' else '+') :: ds

/-- The value of an exponent. -/
def exponentValue : Bool × List Char → Int
  | (negative, ds) => signed negative (natOfDigits ds)

namespace Numeral

/-- The characters of a number behind its sign. -/
def unsignedChars (n : Numeral) : List Char :=
  n.whole ++ (fractionChars n.fraction? ++ exponentChars n.exponent?)

/-- **The characters of a number.** -/
def chars (n : Numeral) : List Char := signChars n.negative ++ n.unsignedChars

/-- **The value of a number**: a double as soon as there is a fraction or an exponent. -/
def value (n : Numeral) : Json :=
  match n.fraction?, n.exponent? with
  | none, none => .int (signed n.negative (natOfDigits n.whole))
  | fraction?, exponent? =>
    .float (.ofDecimal n.negative (natOfDigits (n.whole ++ fraction?.getD []))
      ((exponent?.map exponentValue).getD 0 - (fraction?.getD []).length))

end Numeral

/-! ### Reading the parts -/

theorem EndsNumeral.noDigitAhead {rest : List Char} (h : EndsNumeral rest) : NoDigitAhead rest :=
  fun c hc => (h c hc).1

theorem noDigitAhead_exponentChars (e : Option (Bool × List Char)) {rest : List Char}
    (h : NoDigitAhead rest) : NoDigitAhead (exponentChars e ++ rest) := by
  rcases e with _ | ⟨negative, ds⟩
  · exact h
  · rintro c ⟨⟩
    rfl

theorem noDigitAhead_fractionChars (f : Option (List Char)) {rest : List Char}
    (h : NoDigitAhead rest) : NoDigitAhead (fractionChars f ++ rest) := by
  rcases f with _ | ds
  · exact h
  · rintro c ⟨⟩
    rfl

theorem splitWholePart_append (n : Numeral) {rest : List Char} (h : NoDigitAhead rest) :
    splitWholePart (n.whole ++ rest) = some (n.whole, rest) := by
  rcases n.whole_head with h0 | h0
  · rw [h0]
    rfl
  · have hsplit := splitDigits_append n.whole_digits h
    rcases hw : n.whole with _ | ⟨c, cs⟩
    · exact absurd hw n.whole_ne_nil
    · rw [hw] at h0 hsplit
      have hc : c.isDigit = true := n.whole_digits c (by simp [hw])
      have hne : c ≠ '0' := fun he => h0 (by simp [he])
      simp only [List.cons_append] at hsplit ⊢
      rw [splitWholePart, if_neg (by simpa using hne), if_pos hc, hsplit]

theorem splitFractionPart_append (n : Numeral) {rest : List Char} (hrest : NoDigitAhead rest)
    (hpoint : rest.head? ≠ some '.') :
    splitFractionPart (fractionChars n.fraction? ++ rest) = (n.fraction?, rest) := by
  rcases hf : n.fraction? with _ | ds
  · rcases rest with _ | ⟨c, cs⟩
    · rfl
    · have hc : c ≠ '.' := fun he => hpoint (by simp [he])
      rw [fractionChars, List.nil_append, splitFractionPart]
      rintro _ ⟨⟩
      exact hc rfl
  · obtain ⟨hne, hds⟩ := n.fraction_digits ds (by simp [hf])
    have hempty : ds.isEmpty = false := by simpa using hne
    simp [fractionChars, splitFractionPart, splitDigits_append hds hrest, hempty]

theorem splitExponentPart_append (n : Numeral) {rest : List Char} (h : EndsNumeral rest) :
    splitExponentPart (exponentChars n.exponent? ++ rest) =
      (n.exponent?.map exponentValue, rest) := by
  rcases he : n.exponent? with _ | ⟨negative, ds⟩
  · rcases rest with _ | ⟨c, cs⟩
    · rfl
    · obtain ⟨-, -, hsmall, hcapital⟩ := h c rfl
      rw [exponentChars, List.nil_append, splitExponentPart, if_neg (by simp [hsmall, hcapital])]
      rfl
  · obtain ⟨hne, hds⟩ := n.exponent_digits (negative, ds) (by simp [he])
    have hempty : ds.isEmpty = false := by simpa using hne
    have hdigits := splitDigits_append hds h.noDigitAhead
    have hsign : splitSign ((if negative then '-' else '+') :: (ds ++ rest)) =
        (negative, ds ++ rest) := by
      cases negative <;> rfl
    simp [exponentChars, splitExponentPart, hsign, hdigits, hempty, exponentValue]

/-! ### Reading a number -/

namespace Numeral

theorem readUnsigned_unsignedChars (n : Numeral) (start : Nat) {rest : List Char}
    (h : EndsNumeral rest) :
    readUnsigned start n.negative (n.unsignedChars ++ rest) = .ok (n.value, rest) := by
  have hexp := noDigitAhead_exponentChars n.exponent? h.noDigitAhead
  -- Without a fraction the next character must not be taken for a point.
  have hpoint : (exponentChars n.exponent? ++ rest).head? ≠ some '.' := by
    rcases n.exponent? with _ | ⟨negative, ds⟩
    · exact fun hp => (h '.' hp).2.1 rfl
    · simp [exponentChars]
  have hwhole := splitWholePart_append n (noDigitAhead_fractionChars n.fraction? hexp)
  rw [unsignedChars, List.append_assoc, List.append_assoc, readUnsigned, hwhole]
  simp only [splitFractionPart_append n hexp hpoint, splitExponentPart_append n h]
  rcases hf : n.fraction? with _ | ds <;> rcases he : n.exponent? with _ | e
  · simp [value, hf, he, n.whole_length]
  all_goals simp [value, hf, he]

/-- A number begins with its sign or with a digit. -/
theorem exists_cons_unsignedChars (n : Numeral) :
    ∃ c cs, c.isDigit = true ∧ n.unsignedChars = c :: cs := by
  rcases hw : n.whole with _ | ⟨c, cs⟩
  · exact absurd hw n.whole_ne_nil
  · exact ⟨c, _, n.whole_digits c (by simp [hw]), by rw [unsignedChars, hw, List.cons_append]⟩

/-- **The reader of numbers takes a numeral for its value.** -/
theorem readNumber_chars (n : Numeral) {rest : List Char} (h : EndsNumeral rest) :
    readNumber (n.chars ++ rest) = .ok (n.value, rest) := by
  have hread := fun start => n.readUnsigned_unsignedChars start h
  rcases hn : n.negative with _ | _
  · obtain ⟨c, cs, hc, hcs⟩ := n.exists_cons_unsignedChars
    have hminus : c ≠ '-' := by
      rintro rfl
      exact absurd hc (by decide)
    rw [chars, hn, signChars, if_neg (by decide), List.nil_append, readNumber]
    · rw [← hn]
      exact hread _
    · intro _ he
      rw [hcs, List.cons_append] at he
      exact hminus (List.cons.inj he).1
  · rw [chars, hn, signChars, if_pos rfl, List.append_assoc, List.singleton_append, readNumber,
      ← hn]
    exact hread _

/-- A numeral is none of the words for values. -/
theorem readWord?_chars (n : Numeral) (rest : List Char) : readWord? (n.chars ++ rest) = none := by
  obtain ⟨c, cs, hc, hcs⟩ := n.exists_cons_unsignedChars
  have hletter : ∀ d : Char, d.isDigit = false → d ≠ c := by
    rintro d hd rfl
    rw [hc] at hd
    exact absurd hd (by decide)
  rw [readWord?, Option.map_eq_none_iff, List.find?_eq_none]
  rw [chars, hcs, List.append_assoc, List.cons_append]
  cases n.negative <;>
    simp [words, signChars, hletter 'n' rfl, hletter 't' rfl, hletter 'f' rfl, hletter 'N' rfl,
      hletter 'I' rfl, hletter '-' rfl]

/-! ### What is written for a whole number -/

/-- The numeral of a whole number, if it is not too long to be written. -/
def ofInt (i : Int) (h : (natChars i.natAbs).length ≤ digitLimit) : Numeral where
  negative := decide (i < 0)
  whole := natChars i.natAbs
  fraction? := none
  exponent? := none
  whole_digits _ hc := isDigit_of_mem_natChars hc
  whole_ne_nil := natChars_ne_nil _
  whole_head := by
    rcases Nat.eq_zero_or_pos i.natAbs with h0 | hpos
    · exact Or.inl (by rw [h0, natChars_zero])
    · exact Or.inr (head?_natChars_ne_zero hpos)
  whole_length := h
  fraction_digits := by simp
  exponent_digits := by simp

theorem chars_ofInt {i : Int} (h : (natChars i.natAbs).length ≤ digitLimit) :
    (ofInt i h).chars = intChars i := by
  by_cases hi : i < 0 <;>
    simp [ofInt, chars, signChars, unsignedChars, fractionChars, exponentChars, intChars, hi]

theorem value_ofInt {i : Int} (h : (natChars i.natAbs).length ≤ digitLimit) :
    (ofInt i h).value = .int i := by
  simp [ofInt, value, signed_natAbs]

end Numeral

/-! ### What is written for a double -/

/-- A positive number without the zeros at its end. -/
theorem exists_eq_mul_ten_pow {n : Nat} (h : 0 < n) :
    ∃ m k, 0 < m ∧ m % 10 ≠ 0 ∧ n = m * 10 ^ k := by
  induction n using Nat.strongRecOn with
  | ind n ih =>
    by_cases h0 : n % 10 = 0
    · obtain ⟨m, k, hm, hlast, hn⟩ := ih (n / 10) (by omega) (by omega)
      refine ⟨m, k + 1, hm, hlast, ?_⟩
      rw [Nat.pow_succ, ← Nat.mul_assoc, ← hn]
      omega
    · exact ⟨n, 0, h, h0, by simp⟩

/-- The last digit of a number is that of its remainder. -/
theorem reverse_natChars (n : Nat) :
    ∃ ds, (natChars n).reverse = Nat.digitChar (n % 10) :: ds := by
  rw [natChars, Nat.toDigits_eq_if (by decide)]
  split
  · next h => exact ⟨[], by simp [Nat.mod_eq_of_lt h]⟩
  · exact ⟨_, by rw [List.reverse_append]; rfl⟩

/-- **Only zeros at the end are left out** of the digits of a decimal. -/
theorem significand_eq {d : Decimal} (h : 0 < d.digits) :
    ∃ m k : Nat, 0 < m ∧ d.digits = m * 10 ^ k ∧
      d.significand = (natChars m, (natChars m).length + (k + d.exponent)) := by
  obtain ⟨m, k, hm, hlast, hd⟩ := exists_eq_mul_ten_pow h
  refine ⟨m, k, hm, hd, ?_⟩
  -- The last digit of `m` is not zero, so it stops the search for zeros at the end.
  obtain ⟨ds, hds⟩ := reverse_natChars m
  have hne : Nat.digitChar (m % 10) ≠ '0' := by
    have hall : ∀ r < 10, r ≠ 0 → Nat.digitChar r ≠ '0' := by decide
    exact hall _ (Nat.mod_lt _ (by decide)) hlast
  have hkept : ((natChars d.digits).reverse.dropWhile (· == '0')).reverse = natChars m := by
    rw [hd, natChars_mul_ten_pow hm, List.reverse_append, List.reverse_replicate,
      List.dropWhile_append_of_pos (by simp), hds, List.dropWhile_cons_of_neg (by simpa using hne),
      ← hds, List.reverse_reverse]
  have hempty : (natChars m).isEmpty = false := by simpa using natChars_ne_nil m
  have hlength : (natChars d.digits).length = (natChars m).length + k := by
    rw [hd, length_natChars_mul_ten_pow hm]
  simp only [Decimal.significand, hkept, hempty, hlength, Prod.mk.injEq]
  exact ⟨by simp, by omega⟩

/-- The digits of a positive number as the digits of a numeral. -/
theorem digits_natChars {m : Nat} : ∀ c ∈ natChars m, c.isDigit = true :=
  fun _ hc => isDigit_of_mem_natChars hc

theorem digits_replicate {k : Nat} : ∀ c ∈ List.replicate k '0', c.isDigit = true := by
  intro c hc
  rw [List.eq_of_mem_replicate hc]
  rfl

theorem digits_append {ds es : List Char} (hds : ∀ c ∈ ds, c.isDigit = true)
    (hes : ∀ c ∈ es, c.isDigit = true) : ∀ c ∈ ds ++ es, c.isDigit = true := by
  intro c hc
  rcases List.mem_append.mp hc with hc | hc
  · exact hds c hc
  · exact hes c hc

/-- A numeral with a fraction and without an exponent. -/
def Numeral.ofFraction (negative : Bool) (whole fraction : List Char)
    (hwhole : ∀ c ∈ whole, c.isDigit = true) (hne : whole ≠ [])
    (hhead : whole = ['0'] ∨ whole.head? ≠ some '0') (hlength : whole.length ≤ digitLimit)
    (hfraction : ∀ c ∈ fraction, c.isDigit = true) (hfne : fraction ≠ []) : Numeral where
  negative := negative
  whole := whole
  fraction? := some fraction
  exponent? := none
  whole_digits := hwhole
  whole_ne_nil := hne
  whole_head := hhead
  whole_length := hlength
  fraction_digits := by
    rintro _ ⟨⟩
    exact ⟨hfne, hfraction⟩
  exponent_digits := by simp

/-- A decimal that is written with a point in front of all its digits. -/
theorem exists_numeral_pointInFront (negative : Bool) (m : Nat) {point : Int} (h : point ≤ 0) :
    ∃ n : Numeral, n.chars = signChars negative ++ Decimal.positional (natChars m) point ∧
      n.value = .float (.ofDecimal negative m (point - (natChars m).length)) := by
  have hne := natChars_ne_nil m
  have hlimit : digitLimit = 4300 := rfl
  rw [Decimal.positional, if_pos h]
  refine ⟨.ofFraction negative ['0'] (List.replicate (-point).toNat '0' ++ natChars m)
    (by simp) (by simp) (Or.inl rfl) (by simp [hlimit])
    (digits_append digits_replicate digits_natChars) (by simp [hne]), ?_, ?_⟩
  · simp [Numeral.ofFraction, Numeral.chars, Numeral.unsignedChars, fractionChars, exponentChars]
  have hdigits :
      natOfDigits (['0'] ++ (List.replicate (-point).toNat '0' ++ natChars m)) = m := by
    rw [← List.append_assoc]
    exact (natOfDigits_zeros_append ((-point).toNat + 1) _).trans (natOfDigits_natChars m)
  have hexp : (0 : Int) - (List.replicate (-point).toNat '0' ++ natChars m).length =
      point - (natChars m).length := by
    rw [List.length_append, List.length_replicate]
    omega
  simp only [Numeral.ofFraction, Numeral.value, Option.getD_some, Option.map_none,
    Option.getD_none, hdigits, hexp]

/-- A decimal that is written with a point behind all its digits, and zeros in between. -/
theorem exists_numeral_pointBehind (negative : Bool) {m : Nat} (hm : 0 < m) {point : Int}
    (hpos : 0 < point) (h : point ≤ 16) (hle : (natChars m).length ≤ point.toNat) :
    ∃ n : Numeral, n.chars = signChars negative ++ Decimal.positional (natChars m) point ∧
      n.value = .float (.ofDecimal negative m (point - (natChars m).length)) := by
  have hne := natChars_ne_nil m
  have hhead := head?_natChars_ne_zero hm
  have hlimit : digitLimit = 4300 := rfl
  rw [Decimal.positional, if_neg (Int.not_le.mpr hpos), if_pos hle]
  have hlength : (natChars m ++ List.replicate (point.toNat - (natChars m).length) '0').length
      ≤ digitLimit := by
    rw [List.length_append, List.length_replicate]
    omega
  refine ⟨.ofFraction negative
    (natChars m ++ List.replicate (point.toNat - (natChars m).length) '0') ['0']
    (digits_append digits_natChars digits_replicate) (by simp [hne]) (Or.inr ?_) hlength
    (by simp) (by simp), ?_, ?_⟩
  · rcases hcs : natChars m with _ | ⟨c, cs⟩
    · exact absurd hcs hne
    · simpa [hcs] using hhead
  · simp [Numeral.ofFraction, Numeral.chars, Numeral.unsignedChars, fractionChars, exponentChars]
  · -- The zeros are read as digits; the decimal has them in its power of ten.
    have hdigits : natOfDigits (natChars m ++
        List.replicate (point.toNat - (natChars m).length) '0' ++ ['0']) =
        m * 10 ^ (point.toNat - (natChars m).length + 1) := by
      rw [List.append_assoc, ← List.replicate_succ', natOfDigits_append_zeros,
        natOfDigits_natChars]
    have hexp : (0 : Int) - ['0'].length =
        point - (natChars m).length - (point.toNat - (natChars m).length + 1 : Nat) := by
      simp only [List.length_singleton]
      omega
    simp only [Numeral.ofFraction, Numeral.value, Option.getD_some, Option.map_none,
      Option.getD_none, hdigits, hexp, Binary64.ofDecimal_scale]

/-- A decimal that is written with a point between two of its digits. -/
theorem exists_numeral_pointBetween (negative : Bool) {m : Nat} (hm : 0 < m) {point : Int}
    (hpos : 0 < point) (h : point ≤ 16) (hlt : point.toNat < (natChars m).length) :
    ∃ n : Numeral, n.chars = signChars negative ++ Decimal.positional (natChars m) point ∧
      n.value = .float (.ofDecimal negative m (point - (natChars m).length)) := by
  have hne := natChars_ne_nil m
  have hhead := head?_natChars_ne_zero hm
  have hlimit : digitLimit = 4300 := rfl
  rw [Decimal.positional, if_neg (Int.not_le.mpr hpos), if_neg (Nat.not_le.mpr hlt)]
  have hcut : natChars m = (natChars m).take point.toNat ++ (natChars m).drop point.toNat :=
    (List.take_append_drop _ _).symm
  have hlength : ((natChars m).take point.toNat).length ≤ digitLimit := by
    rw [List.length_take]
    omega
  have htake : (natChars m).take point.toNat ≠ [] := by
    rw [Ne, List.take_eq_nil_iff]
    rintro (h0 | h0)
    · omega
    · exact hne h0
  refine ⟨.ofFraction negative ((natChars m).take point.toNat) ((natChars m).drop point.toNat)
    (fun c hc => digits_natChars c (List.mem_of_mem_take hc)) htake (Or.inr ?_) hlength
    (fun c hc => digits_natChars c (List.mem_of_mem_drop hc)) ?_, ?_, ?_⟩
  · rwa [List.head?_take, if_neg (by omega)]
  · rw [Ne, List.drop_eq_nil_iff]
    omega
  · simp [Numeral.ofFraction, Numeral.chars, Numeral.unsignedChars, fractionChars, exponentChars]
  · have hexp : (0 : Int) - ((natChars m).drop point.toNat).length =
        point - (natChars m).length := by
      rw [List.length_drop]
      omega
    simp only [Numeral.ofFraction, Numeral.value, Option.getD_some, Option.map_none,
      Option.getD_none, ← hcut, natOfDigits_natChars, hexp]

/-- **With a point**: the digits of a positive number, whose leading digit stands at most 16
places in front of the point. -/
theorem exists_numeral_positional (negative : Bool) {m : Nat} (hm : 0 < m) {point : Int}
    (h : point ≤ 16) :
    ∃ n : Numeral, n.chars = signChars negative ++ Decimal.positional (natChars m) point ∧
      n.value = .float (.ofDecimal negative m (point - (natChars m).length)) := by
  rcases Int.lt_or_le 0 point with hpos | hle
  · rcases Nat.lt_or_ge point.toNat (natChars m).length with hlt | hge
    · exact exists_numeral_pointBetween negative hm hpos h hlt
    · exact exists_numeral_pointBehind negative hm hpos h hge
  · exact exists_numeral_pointInFront negative m hle

/-- **With an exponent**: the digits of a positive number, the first of them in front of the
point. -/
theorem exists_numeral_scientific (layout : FloatLayout) (negative : Bool) {m : Nat} (hm : 0 < m)
    (exponent : Int) :
    ∃ n : Numeral,
      n.chars = signChars negative ++ Decimal.scientific layout (natChars m) exponent ∧
      n.value = .float (.ofDecimal negative m (exponent + 1 - (natChars m).length)) := by
  have hhead := head?_natChars_ne_zero hm
  have hlimit : digitLimit = 4300 := rfl
  have hpower : ∀ c ∈ List.replicate (layout.exponentDigits - (natChars exponent.natAbs).length) '0'
      ++ natChars exponent.natAbs, c.isDigit = true :=
    digits_append digits_replicate digits_natChars
  have hvalue : exponentValue (decide (exponent < 0),
      List.replicate (layout.exponentDigits - (natChars exponent.natAbs).length) '0'
        ++ natChars exponent.natAbs) = exponent := by
    rw [exponentValue, natOfDigits_zeros_append, natOfDigits_natChars, signed_natAbs]
  rcases hc : natChars m with _ | ⟨c, ds⟩
  · exact absurd hc (natChars_ne_nil m)
  have hds : ∀ d ∈ c :: ds, d.isDigit = true := by
    rw [← hc]
    exact digits_natChars
  have hcne : c ≠ '0' := by
    rintro rfl
    exact hhead (by simp [hc])
  have hdigits : natOfDigits (c :: ds) = m := by rw [← hc, natOfDigits_natChars]
  -- A single digit has no fraction behind it.
  refine ⟨{ negative, whole := [c],
            fraction? := if ds = [] then none else some ds,
            exponent? := some (decide (exponent < 0),
              List.replicate (layout.exponentDigits - (natChars exponent.natAbs).length) '0'
                ++ natChars exponent.natAbs),
            whole_digits := ?_, whole_ne_nil := by simp, whole_head := Or.inr (by simpa using hcne),
            whole_length := by simp [hlimit], fraction_digits := ?_,
            exponent_digits := ?_ }, ?_, ?_⟩
  · simpa using hds c (by simp)
  · intro es hes
    by_cases h0 : ds = []
    · simp [h0] at hes
    · obtain rfl : ds = es := by simpa [h0] using hes
      exact ⟨h0, fun d hd => hds d (by simp [hd])⟩
  · rintro _ ⟨⟩
    exact ⟨by simp [natChars_ne_nil], hpower⟩
  · by_cases h0 : ds = [] <;>
      simp [Numeral.chars, Numeral.unsignedChars, fractionChars, exponentChars, Decimal.scientific,
        h0]
  · by_cases h0 : ds = []
    · subst h0
      simp [Numeral.value, hvalue, hdigits]
    · have hexp : exponent - (ds.length : Int) = exponent + 1 - (c :: ds).length := by
        rw [List.length_cons]
        omega
      simp only [Numeral.value, h0, if_false, Option.map_some, Option.getD_some, hvalue, hexp,
        List.singleton_append, hdigits]

/-- **The text of a finite double is a numeral for it.** -/
theorem exists_numeral (negative : Bool) {u : Nat} (h : Binary64.Representable u) :
    ∃ n : Numeral, n.chars = (Binary64.finite negative u h).chars documentLayout ∧
      n.value = .float (.finite negative u h) := by
  rcases Nat.eq_zero_or_pos u with rfl | hu
  · refine ⟨.ofFraction negative ['0'] ['0'] (by simp) (by simp) (Or.inl rfl) (by decide)
      (by simp) (by simp), ?_, ?_⟩
    · cases negative <;> rfl
    · rfl
  · have hd := Binary64.shortest_digits_pos hu h
    obtain ⟨m, k, hm, hdigits, hsig⟩ := significand_eq hd
    have hread : Binary64.ofDecimal negative m (k + (Binary64.shortest u).exponent) =
        .finite negative u h := by
      rw [← Binary64.ofDecimal_shortest hu h negative, hdigits,
        ← Binary64.ofDecimal_scale negative m _ k]
      congr 1
      omega
    have hchars : (Binary64.finite negative u h).chars documentLayout =
        signChars negative ++ (Binary64.shortest u).chars documentLayout := rfl
    rw [hchars, Decimal.chars, if_neg (Nat.ne_of_gt hd), hsig]
    dsimp only
    split
    · next hbounds =>
      have hpoint : ((natChars m).length : Int) + (k + (Binary64.shortest u).exponent) ≤ 16 := by
        have hfirst : documentLayout.firstScientific = 16 := rfl
        omega
      obtain ⟨n, hn, hvalue⟩ := exists_numeral_positional negative hm hpoint
      refine ⟨n, hn, ?_⟩
      rw [hvalue, ← hread]
      congr 2
      omega
    · obtain ⟨n, hn, hvalue⟩ := exists_numeral_scientific documentLayout negative hm
        ((natChars m).length + (k + (Binary64.shortest u).exponent) - 1)
      refine ⟨n, hn, ?_⟩
      rw [hvalue, ← hread]
      congr 2
      omega

end Json

end Commissioning
