import Commissioning.Number.Shortest
import Commissioning.Proofs.Number.Digits

/-!
# Decimals and the doubles nearest to them

What a reader of a double makes of its text depends on the decimal that the text writes, and
on nothing else about the text: `Commissioning.Binary64.ofDecimal_scale` says that zeros may
be moved between the digits and the power of ten, and the sign is carried along
(`Commissioning.Binary64.ofDecimal_of_unsigned`).

The decimal that is written for a double reads back as that double
(`Commissioning.Binary64.ofDecimal_shortest`). The search for it tests this at every step;
the exact expansion behind the search is the one place where it has to be computed
(`Commissioning.Binary64.ofDecimal_expansion`).
-/

namespace Commissioning

namespace Binary64

/-! ### Rounding a quotient that is not in lowest terms -/

/-- **A common factor changes no rounding.** -/
theorem roundQuotient_mul_right (n d : Nat) {c : Nat} (hc : 0 < c) :
    roundQuotient (n * c) (d * c) = roundQuotient n d := by
  have hq : n * c / (d * c) = n / d := Nat.mul_div_mul_right n d hc
  have hg : d * c * grid (n / d) = d * grid (n / d) * c := by
    rw [Nat.mul_assoc, Nat.mul_comm c, Nat.mul_assoc]
  have hs : n * c / (d * grid (n / d) * c) = n / (d * grid (n / d)) :=
    Nat.mul_div_mul_right n _ hc
  have hr : n * c % (d * grid (n / d) * c) = n % (d * grid (n / d)) * c :=
    Nat.mul_mod_mul_right c n _
  have hlt : 2 * (n % (d * grid (n / d)) * c) < d * grid (n / d) * c ↔
      2 * (n % (d * grid (n / d))) < d * grid (n / d) := by
    rw [← Nat.mul_assoc]
    exact Nat.mul_lt_mul_right hc
  have heq : 2 * (n % (d * grid (n / d)) * c) = d * grid (n / d) * c ↔
      2 * (n % (d * grid (n / d))) = d * grid (n / d) := by
    rw [← Nat.mul_assoc]
    exact Nat.mul_left_inj (Nat.ne_of_gt hc)
  unfold roundQuotient
  simp only [hq, hg, hs, hr, hlt, heq]

theorem ofQuotient_mul_right (negative : Bool) (n d : Nat) {c : Nat} (hc : 0 < c) :
    ofQuotient negative (n * c) (d * c) = ofQuotient negative n d := by
  unfold ofQuotient
  simp only [roundQuotient_mul_right n d hc]

/-! ### Moving zeros between the digits and the power of ten -/

/-- The order of magnitude of a decimal: the place of its leading digit. -/
def order (digits : Nat) (exponent : Int) : Int := (natChars digits).length + exponent

theorem order_scale {digits : Nat} (h : 0 < digits) (exponent : Int) (k : Nat) :
    order (digits * 10 ^ k) (exponent - k) = order digits exponent := by
  unfold order
  rw [length_natChars_mul_ten_pow h]
  omega

theorem ofDecimal_of_order_gt {negative : Bool} {digits : Nat} {exponent : Int} (hd : 0 < digits)
    (h : 400 < order digits exponent) :
    ofDecimal negative digits exponent = .infinite negative := by
  rw [ofDecimal, if_neg (Nat.ne_of_gt hd)]
  exact if_pos h

theorem ofDecimal_of_order_lt {negative : Bool} {digits : Nat} {exponent : Int} (hd : 0 < digits)
    (h : order digits exponent < -400) : ofDecimal negative digits exponent = zero negative := by
  have hgt : ¬400 < order digits exponent := by omega
  rw [ofDecimal, if_neg (Nat.ne_of_gt hd)]
  exact (if_neg hgt).trans (if_pos h)

/-- Between the two bounds on the order of magnitude a decimal is rounded as a quotient of
units. -/
theorem ofDecimal_of_order {negative : Bool} {digits : Nat} {exponent : Int} (hd : 0 < digits)
    (hle : order digits exponent ≤ 400) (hge : -400 ≤ order digits exponent) :
    ofDecimal negative digits exponent =
      ofQuotient negative (digits * 10 ^ exponent.toNat * one) (10 ^ (-exponent).toNat) := by
  have hle' : ¬400 < order digits exponent := by omega
  have hge' : ¬order digits exponent < -400 := by omega
  rw [ofDecimal, if_neg (Nat.ne_of_gt hd)]
  refine ((if_neg hle').trans (if_neg hge')).trans ?_
  split
  · have hz : (-exponent).toNat = 0 := by omega
    rw [hz, Nat.pow_zero]
  · have hz : exponent.toNat = 0 := by omega
    rw [hz, Nat.pow_zero, Nat.mul_one]

/-- **Zeros may be moved** from the power of ten to the digits. -/
theorem ofDecimal_scale (negative : Bool) (digits : Nat) (exponent : Int) (k : Nat) :
    ofDecimal negative (digits * 10 ^ k) (exponent - k) = ofDecimal negative digits exponent := by
  rcases Nat.eq_zero_or_pos digits with rfl | hd
  · simp [ofDecimal]
  have hpos : 0 < digits * 10 ^ k := Nat.mul_pos hd (Nat.pow_pos (by decide))
  have hord := order_scale hd exponent k
  rcases Int.lt_or_le 400 (order digits exponent) with hgt | hle
  · rw [ofDecimal_of_order_gt hd hgt, ofDecimal_of_order_gt hpos (by omega)]
  rcases Int.lt_or_le (order digits exponent) (-400) with hlt | hge
  · rw [ofDecimal_of_order_lt hd hlt, ofDecimal_of_order_lt hpos (by omega)]
  rw [ofDecimal_of_order hd hle hge, ofDecimal_of_order hpos (by omega) (by omega)]
  -- the two quotients differ by the zeros that have to be moved across the point
  obtain ⟨c, hnum, hden⟩ : ∃ c, k + (exponent - k).toNat = exponent.toNat + c ∧
      (-(exponent - k)).toNat = (-exponent).toNat + c :=
    ⟨k + (exponent - k).toNat - exponent.toNat, by omega, by omega⟩
  have hn : digits * 10 ^ k * 10 ^ (exponent - k).toNat * one =
      digits * 10 ^ exponent.toNat * one * 10 ^ c := by
    rw [Nat.mul_assoc digits, ← Nat.pow_add, hnum, Nat.pow_add, ← Nat.mul_assoc,
      Nat.mul_right_comm]
  rw [hn, hden, Nat.pow_add, ofQuotient_mul_right _ _ _ (Nat.pow_pos (by decide))]

/-! ### Signs -/

/-- The same number with the sign given. -/
def withSign (negative : Bool) : Binary64 → Binary64
  | .nan => .nan
  | .infinite _ => .infinite negative
  | .finite _ u h => .finite negative u h

theorem ofQuotient_eq_withSign (negative : Bool) (n d : Nat) :
    ofQuotient negative n d = withSign negative (ofQuotient false n d) := by
  unfold ofQuotient
  split <;> rfl

/-- **The sign of a decimal is carried along.** -/
theorem ofDecimal_eq_withSign (negative : Bool) (digits : Nat) (exponent : Int) :
    ofDecimal negative digits exponent = withSign negative (ofDecimal false digits exponent) := by
  rcases Nat.eq_zero_or_pos digits with rfl | hd
  · rfl
  rcases Int.lt_or_le 400 (order digits exponent) with hgt | hle
  · rw [ofDecimal_of_order_gt hd hgt, ofDecimal_of_order_gt hd hgt, withSign]
  rcases Int.lt_or_le (order digits exponent) (-400) with hlt | hge
  · rw [ofDecimal_of_order_lt hd hlt, ofDecimal_of_order_lt hd hlt]
    rfl
  · rw [ofDecimal_of_order hd hle hge, ofDecimal_of_order hd hle hge]
    exact ofQuotient_eq_withSign _ _ _

/-- A decimal that reads back as a count of units, with any sign. -/
theorem ofDecimal_of_units?_eq {u : Nat} (hu : 0 < u) (h : Representable u) {d : Decimal}
    (hd : (d.toBinary64 false).units? = some (u : Int)) (negative : Bool) :
    ofDecimal negative d.digits d.exponent = .finite negative u h := by
  rw [ofDecimal_eq_withSign]
  rw [Decimal.toBinary64, ofDecimal_eq_withSign] at hd
  cases hx : ofDecimal false d.digits d.exponent with
  | nan => simp [hx, withSign, units?] at hd
  | infinite s => simp [hx, withSign, units?] at hd
  | finite s v hv =>
    have huv : (v : Int) = u := by simpa [hx, withSign, units?] using hd
    obtain rfl : v = u := by omega
    rfl

/-! ### The decimal of a double -/

/-- The exact expansion of a count of units has an order of magnitude at which it is
rounded. -/
theorem order_expansion {u : Nat} (hu : 0 < u) (hlt : u < limit) :
    -400 ≤ order (u * 5 ^ unitPlaces) (-(unitPlaces : Int)) ∧
      order (u * 5 ^ unitPlaces) (-(unitPlaces : Int)) ≤ 400 := by
  -- The numbers have up to 1400 digits, so they are compared with powers of ten and not written.
  have hlow : ¬(natChars (u * 5 ^ unitPlaces)).length ≤ 700 := by
    rw [natChars, Nat.length_toDigits_le_iff (by decide) (by decide), Nat.not_lt]
    have hbase : 10 ^ 700 ≤ 1 * 5 ^ unitPlaces := by decide +kernel
    exact Nat.le_trans hbase (Nat.mul_le_mul_right _ hu)
  have hhigh : (natChars (u * 5 ^ unitPlaces)).length ≤ 1400 := by
    rw [natChars, Nat.length_toDigits_le_iff (by decide) (by decide)]
    have hbase : limit * 5 ^ unitPlaces < 10 ^ 1400 := by decide +kernel
    exact Nat.lt_of_le_of_lt (Nat.mul_le_mul_right _ (Nat.le_of_lt hlt)) hbase
  have hplaces : (unitPlaces : Int) = 1074 := rfl
  unfold order
  omega

/-- **The exact expansion reads back.** -/
theorem ofDecimal_expansion {u : Nat} (hu : 0 < u) (h : Representable u) (negative : Bool) :
    ofDecimal negative (expansion u).digits (expansion u).exponent = .finite negative u h := by
  have hd : 0 < u * 5 ^ unitPlaces := Nat.mul_pos hu (Nat.pow_pos (by decide))
  obtain ⟨hge, hle⟩ := order_expansion hu h.2
  have hten : 5 ^ unitPlaces * one = 10 ^ unitPlaces := by
    rw [one, ← Nat.mul_pow]
  have hexp : (-(unitPlaces : Int)).toNat = 0 := rfl
  have hexp' : (-(-(unitPlaces : Int))).toNat = unitPlaces := rfl
  rw [expansion, ofDecimal_of_order hd hle hge, hexp, hexp', Nat.pow_zero, Nat.mul_one,
    Nat.mul_assoc, hten]
  exact ofQuotient_units (Nat.pow_pos (by decide)) h

/-- **The decimal that is written for a double reads back as the double.** -/
theorem ofDecimal_shortest {u : Nat} (hu : 0 < u) (h : Representable u) (negative : Bool) :
    ofDecimal negative (shortest u).digits (shortest u).exponent = .finite negative u h := by
  rw [shortest, if_neg (Nat.ne_of_gt hu)]
  -- Either no short decimal was found and the exact expansion stands, or the search has tested
  -- that the decimal it found reads back.
  rcases hs : (List.range' 1 17).findSome? (shortestOfLength? u) with _ | d
  · exact ofDecimal_expansion hu h negative
  · obtain ⟨length, -, hlength⟩ := List.exists_of_findSome?_eq_some hs
    have hfound := List.find?_some hlength
    exact ofDecimal_of_units?_eq hu h (by simpa using hfound) negative

theorem shortest_digits_pos {u : Nat} (hu : 0 < u) (h : Representable u) :
    0 < (shortest u).digits := by
  refine Nat.pos_of_ne_zero fun hz => ?_
  have hread := ofDecimal_shortest hu h false
  rw [hz, ofDecimal, if_pos rfl, zero, Binary64.finite.injEq] at hread
  omega

end Binary64

end Commissioning
