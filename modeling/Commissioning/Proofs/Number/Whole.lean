import Commissioning.Proofs.Number.Digits

/-!
# Whole numbers among the doubles

A finite number is a count of units with a sign, and a whole number is so many times one. So a
finite number is compared with a whole one by comparing counts
(`Commissioning.Number.lt_int`, `Commissioning.Number.int_lt`), and cutting it off keeps it
between whole bounds (`Commissioning.Binary64.le_toInt`, `Commissioning.Binary64.toInt_le`).

A whole number of at most 53 bits is a double itself; a larger one is rounded, and stays beyond all
that are of 53 bits (`Commissioning.Binary64.units_ofInt?`). **To compare a whole number with a
bound of 53 bits it makes no difference whether it has been rounded**
(`Commissioning.Binary64.bounds_ofInt?`).

A double that is a multiple of one is made a whole number, and no other is
(`Commissioning.Number.isWhole_ofBinary64_iff`). The number keeps its place, and as a double it is
exact, so the same is made of it again (`Commissioning.Number.exists_ofInt?_of_ofBinary64`).
-/

namespace Commissioning

namespace Binary64

variable {x : Binary64} {z a i : Int}

/-- A finite number has a count of units, and it is placed by it. -/
theorem exists_units (h : x.isFinite = true) :
    ∃ z, x.units? = some z ∧ x.position? = some (.finite z) := by
  cases x with
  | nan => cases h
  | infinite negative => cases h
  | finite negative u hu => exact ⟨_, rfl, rfl⟩

theorem position?_of_units? (h : x.units? = some z) : x.position? = some (.finite z) := by
  cases x with
  | nan => cases h
  | infinite negative => cases h
  | finite negative u hu => exact congrArg (fun z => some (Position.finite z)) (Option.some.inj h)

/-- The whole part of a finite number is a quotient of units. -/
theorem toInt_of_units? (h : x.units? = some z) : x.toInt = .ok (z.tdiv one) := by
  cases x with
  | nan => cases h
  | infinite negative => cases h
  | finite negative u hu =>
    obtain rfl := Option.some.inj h
    cases negative with
    | false => exact congrArg Except.ok (Int.ofNat_tdiv u one)
    | true =>
      rw [if_pos rfl, Int.neg_tdiv, ← Int.ofNat_tdiv]
      rfl

theorem one_pos_int : (0 : Int) < one := Int.natCast_pos.mpr one_pos

theorem le_toInt (h : a * one ≤ z) : a ≤ z.tdiv one := by
  have hquotient := Int.tdiv_le_tdiv one_pos_int h
  rwa [Int.mul_tdiv_cancel a (Int.ne_of_gt one_pos_int)] at hquotient

theorem toInt_le (h : z ≤ a * one) : z.tdiv one ≤ a := by
  have hquotient := Int.tdiv_le_tdiv one_pos_int h
  rwa [Int.mul_tdiv_cancel a (Int.ne_of_gt one_pos_int)] at hquotient

/-- The whole part of a number that is not negative is the whole number at or below it. -/
theorem toInt_eq_ok_iff (h : x.units? = some z) (hz : 0 ≤ z) :
    x.toInt = .ok a ↔ a * one ≤ z ∧ z < (a + 1) * one := by
  rw [toInt_of_units? h, Except.ok.injEq, Int.tdiv_eq_ediv_of_nonneg hz]
  constructor
  · rintro rfl
    exact ⟨Int.ediv_mul_le z (Int.ne_of_gt one_pos_int), Int.lt_ediv_add_one_mul_self z one_pos_int⟩
  · rintro ⟨hle, hlt⟩
    have hlower := Int.le_ediv_of_mul_le one_pos_int hle
    have hupper := Int.ediv_lt_of_lt_mul one_pos_int hlt
    omega

/-! ### Whole numbers that are rounded -/

theorem two_pow_mul_one (k : Nat) : 2 ^ k * one = 2 ^ (k + unitPlaces) := by
  rw [one, Nat.pow_add]

/-- A multiple of one of at most 53 bits is no matter of rounding. -/
theorem representable_mul_one {n : Nat} (h : n ≤ 2 ^ 53) : Representable (n * one) := by
  have hle : n * one ≤ 2 ^ (53 + unitPlaces) :=
    two_pow_mul_one 53 ▸ Nat.mul_le_mul_right one h
  have hlt : 2 ^ (53 + unitPlaces) < limit := Nat.pow_lt_pow_right (by decide) (by decide)
  exact ⟨grid_dvd_of_le (k := unitPlaces) (Nat.dvd_mul_left _ _) hle, Nat.lt_of_le_of_lt hle hlt⟩

/-- Rounding does not go below a power of two. -/
theorem le_roundQuotient {n k : Nat} (h : 2 ^ k ≤ n) : 2 ^ k ≤ roundQuotient n 1 := by
  have hpos : 0 < n := Nat.lt_of_lt_of_le (Nat.two_pow_pos k) h
  have hk : k ≤ n.log2 := (Nat.le_log2 (Nat.ne_of_gt hpos)).mpr h
  have hg : 0 < grid n := Nat.two_pow_pos _
  have hgrid : grid n ∣ 2 ^ n.log2 := Nat.pow_dvd_pow 2 (Nat.sub_le _ _)
  -- The leading bit of the count lies on the grid, so cutting the count off keeps it.
  have hfloor : 2 ^ n.log2 ≤ n / grid n * grid n := by
    obtain ⟨q, hq⟩ := hgrid
    have hle : q ≤ n / grid n := by
      rw [Nat.le_div_iff_mul_le hg, Nat.mul_comm, ← hq]
      exact Nat.log2_self_le (Nat.ne_of_gt hpos)
    rw [hq, Nat.mul_comm]
    exact Nat.mul_le_mul_right _ hle
  have hstep : n / grid n * grid n ≤ (n / grid n + 1) * grid n :=
    Nat.mul_le_mul_right _ (Nat.le_succ _)
  have hpow : 2 ^ k ≤ n / grid n * grid n :=
    Nat.le_trans (Nat.pow_le_pow_right (by decide) hk) hfloor
  unfold roundQuotient
  simp only [Nat.div_one, Nat.one_mul]
  split
  · exact hpow
  · exact Nat.le_trans hpow hstep

theorem units_ofQuotient {negative : Bool} {n d : Nat}
    (h : (ofQuotient negative n d).isFinite = true) :
    (ofQuotient negative n d).units? =
      some (if negative then -(roundQuotient n d : Int) else roundQuotient n d) := by
  unfold ofQuotient at h ⊢
  split at h
  next hlt => rw [dif_pos hlt]; rfl
  next => cases h

/-- **A whole number as a double**: itself, if it has at most 53 bits, and otherwise a number with
its sign that is no smaller than these. -/
theorem units_ofInt? (h : ofInt? i = some x) :
    ∃ u : Nat, x.units? = some (if i < 0 then -(u : Int) else u) ∧
      (i.natAbs ≤ 2 ^ 53 → u = i.natAbs * one) ∧
      (2 ^ 53 ≤ i.natAbs → 2 ^ 53 * one ≤ u) := by
  obtain ⟨hround, hfinite⟩ := Option.filter_eq_some_iff.mp h
  obtain rfl := Option.some.inj hround
  refine ⟨roundQuotient (i.natAbs * one) 1, ?_, ?_, ?_⟩
  · rw [ofRatio, units_ofQuotient hfinite]
    simp only [decide_eq_true_eq]
  · intro hsmall
    have hexact := roundQuotient_of_representable Nat.one_pos (representable_mul_one hsmall)
    rwa [Nat.mul_one] at hexact
  · intro hlarge
    have hpow : 2 ^ (53 + unitPlaces) ≤ i.natAbs * one :=
      two_pow_mul_one 53 ▸ Nat.mul_le_mul_right one hlarge
    rw [two_pow_mul_one]
    exact le_roundQuotient hpow

/-- A whole number that is a double is not rounded. -/
theorem ofInt?_of_representable (h : Representable (i.natAbs * one)) :
    ofInt? i = some (.finite (i < 0) (i.natAbs * one) h) := by
  have hexact : ofRatio i 1 = .finite (i < 0) (i.natAbs * one) h := by
    have hround : ofQuotient (i < 0) (i.natAbs * one * 1) 1 = _ := ofQuotient_units Nat.one_pos h
    rwa [Nat.mul_one] at hround
  exact Option.filter_eq_some_iff.mpr ⟨congrArg some hexact, rfl⟩

/-- A whole number of at most 53 bits is not too large. -/
theorem exists_ofInt? (h : i.natAbs ≤ 2 ^ 53) : ∃ x, ofInt? i = some x :=
  ⟨_, ofInt?_of_representable (representable_mul_one h)⟩

/-- A count of units that is exact up to some number of ones, and beyond it at least that large,
stands to smaller multiples of one as the number of ones does. -/
theorem compare_rounded {i a : Int} {u k most : Nat} (hk : 0 < k)
    (hsmall : i.natAbs ≤ most → u = i.natAbs * k) (hlarge : most ≤ i.natAbs → most * k ≤ u)
    (ha : a.natAbs < most) :
    (a * k ≤ (if i < 0 then -(u : Int) else u) ↔ a ≤ i) ∧
      ((if i < 0 then -(u : Int) else u) ≤ a * k ↔ i ≤ a) := by
  have hpos : (0 : Int) < k := Int.natCast_pos.mpr hk
  by_cases hi : i.natAbs ≤ most
  · have hz : (if i < 0 then -(u : Int) else u) = i * k := by
      rw [hsmall hi, Int.natCast_mul]
      split
      · rw [Int.ofNat_natAbs_of_nonpos (by omega), Int.neg_mul, Int.neg_neg]
      · rw [Int.natAbs_of_nonneg (by omega)]
    rw [hz]
    exact ⟨Int.mul_le_mul_iff_of_pos_right hpos, Int.mul_le_mul_iff_of_pos_right hpos⟩
  · -- Out here only the sign counts, on both sides.
    have hu : (most * k : Int) ≤ u := by exact_mod_cast hlarge (by omega)
    have hbelow : -(most : Int) * k < a * k := Int.mul_lt_mul_of_pos_right (by omega) hpos
    have habove : a * (k : Int) < most * k := Int.mul_lt_mul_of_pos_right (by omega) hpos
    rw [Int.neg_mul] at hbelow
    split
    · exact ⟨iff_of_false (by omega) (by omega), iff_of_true (by omega) (by omega)⟩
    · exact ⟨iff_of_true (by omega) (by omega), iff_of_false (by omega) (by omega)⟩

/-- **Against a bound of less than 53 bits** a whole number stands as its double does. -/
theorem bounds_ofInt? (h : ofInt? i = some x) :
    ∃ z, x.units? = some z ∧ ∀ a : Int, a.natAbs < 2 ^ 53 →
      (a * one ≤ z ↔ a ≤ i) ∧ (z ≤ a * one ↔ i ≤ a) := by
  obtain ⟨u, hunits, hsmall, hlarge⟩ := units_ofInt? h
  exact ⟨_, hunits, fun a ha => compare_rounded one_pos hsmall hlarge ha⟩

end Binary64

namespace Number

variable {x : Binary64} {z i : Int}

/-! ### Comparing -/

theorem lt_int (h : x.units? = some z) (a : Int) :
    (Number.float x).lt (.int a) = decide (z < a * Binary64.one) := by
  simp only [lt, position?, Binary64.position?_of_units? h, Position.lt]

theorem int_lt (h : x.units? = some z) (a : Int) :
    (Number.int a).lt (.float x) = decide (a * Binary64.one < z) := by
  simp only [lt, position?, Binary64.position?_of_units? h, Position.lt]

theorem int_sameValue (h : x.units? = some z) (a : Int) :
    (Number.int a).sameValue (.float x) = decide (a * Binary64.one = z) := by
  rw [Bool.eq_iff_iff, decide_eq_true_eq]
  simp only [sameValue, position?, Binary64.position?_of_units? h, beq_iff_eq,
    Position.finite.injEq]

theorem int_le (h : x.units? = some z) (a : Int) :
    (Number.int a).le (.float x) = decide (a * Binary64.one ≤ z) := by
  rw [le, int_lt h, int_sameValue h, Bool.eq_iff_iff, Bool.or_eq_true, decide_eq_true_eq,
    decide_eq_true_eq, decide_eq_true_eq, Int.le_iff_lt_or_eq]

/-! ### Doubles made whole -/

/-- Making a double whole where it is whole leaves it in its place. -/
theorem position?_ofBinary64 (x : Binary64) : (ofBinary64 x).position? = x.position? := by
  cases x with
  | nan => rfl
  | infinite negative => rfl
  | finite negative u hu =>
    rw [ofBinary64]
    split
    · next hwhole =>
      have hu : ((u / Binary64.one : Nat) : Int) * Binary64.one = u := by
        exact_mod_cast Nat.div_mul_cancel (Nat.dvd_of_mod_eq_zero hwhole)
      cases negative with
      | false => simp only [position?, Binary64.position?, Bool.false_eq_true, if_false, hu]
      | true => simp only [position?, Binary64.position?, if_true, Int.neg_mul, hu]
    · rfl

theorem ofBinary64_multiple {negative : Bool} {k : Nat}
    (h : Binary64.Representable (k * Binary64.one)) :
    ofBinary64 (.finite negative (k * Binary64.one) h) = .int (signed negative k) := by
  rw [ofBinary64, if_pos (Nat.mul_mod_left k _), Nat.mul_div_cancel k Binary64.one_pos]
  rfl

/-- A whole number is made of the doubles that are so many ones. -/
theorem ofBinary64_eq_int_iff :
    ofBinary64 x = .int i ↔ ∃ negative k h,
      x = .finite negative (k * Binary64.one) h ∧ signed negative k = i := by
  constructor
  · intro hx
    cases x with
    | nan => cases hx
    | infinite negative => cases hx
    | finite negative u h =>
      rw [ofBinary64] at hx
      split at hx
      · next hwhole =>
        have hu : u / Binary64.one * Binary64.one = u :=
          Nat.div_mul_cancel (Nat.dvd_of_mod_eq_zero hwhole)
        exact ⟨negative, u / Binary64.one, hu.symm ▸ h, by simp only [hu], Number.int.inj hx⟩
      · cases hx
  · rintro ⟨negative, k, h, rfl, rfl⟩
    exact ofBinary64_multiple h

theorem eq_of_ofBinary64_eq_float {y : Binary64} (h : ofBinary64 x = .float y) : y = x := by
  unfold ofBinary64 at h
  split at h
  · split at h
    · cases h
    · exact (Number.float.inj h).symm
  · exact (Number.float.inj h).symm

/-- **A whole number that has been made of a double** is made of it again. Minus zero has become
plain zero on the way. -/
theorem exists_ofInt?_of_ofBinary64 (h : ofBinary64 x = .int i) :
    ∃ y, Binary64.ofInt? i = some y ∧ ofBinary64 y = .int i := by
  obtain ⟨negative, k, hk, -, rfl⟩ := ofBinary64_eq_int_iff.mp h
  have hexact : Binary64.Representable ((signed negative k).natAbs * Binary64.one) := by
    rwa [natAbs_signed]
  refine ⟨_, Binary64.ofInt?_of_representable hexact, ?_⟩
  rw [ofBinary64_multiple, signed_natAbs]

theorem int_sameValue_iff {n : Number} {a : Int} :
    (Number.int a).sameValue n = true ↔ n.position? = some (.finite (a * Binary64.one)) := by
  have hint : (Number.int a).position? = some (.finite (a * Binary64.one)) := rfl
  cases hn : n.position? with
  | none => simp only [sameValue, hint, hn, Bool.false_eq_true, reduceCtorEq]
  | some p =>
    simp only [sameValue, hint, hn, beq_iff_eq, Option.some.injEq]
    exact eq_comm

/-- A number has the value of a whole one. -/
def IsWhole (n : Number) : Prop := ∃ a : Int, (Number.int a).sameValue n = true

/-- **Every double that is whole** is made a whole number. -/
theorem isWhole_ofBinary64_iff : (ofBinary64 x).IsWhole ↔ ∃ i, ofBinary64 x = .int i := by
  constructor
  · rintro ⟨a, ha⟩
    have hplace : x.position? = some (.finite (a * Binary64.one)) := by
      rw [← position?_ofBinary64, int_sameValue_iff.mp ha]
    cases x with
    | nan => cases hplace
    | infinite negative => cases negative <;> cases hplace
    | finite negative u h =>
      have hunits : signed negative u = a * Binary64.one :=
        Position.finite.inj (Option.some.inj hplace)
      have hu : u = a.natAbs * Binary64.one := by
        calc u = (signed negative u).natAbs := (natAbs_signed negative u).symm
          _ = (a * Binary64.one).natAbs := by rw [hunits]
          _ = a.natAbs * Binary64.one := by rw [Int.natAbs_mul, Int.natAbs_natCast]
      exact ⟨_, ofBinary64_eq_int_iff.mpr ⟨negative, a.natAbs, hu ▸ h, by simp only [hu], rfl⟩⟩
  · rintro ⟨i, hi⟩
    exact ⟨i, int_sameValue_iff.mpr (hi ▸ rfl)⟩

end Number

end Commissioning
