/-!
# Double-precision numbers

A finite number of the 64-bit binary format is a whole multiple of 2⁻¹⁰⁷⁴, the
smallest of them. `Commissioning.Binary64` therefore keeps a finite number as a sign
and a count of such **units**, and all its arithmetic is exact arithmetic on natural
numbers followed by one rounding.

Which counts occur is `Commissioning.Binary64.Representable`: at most 53 significant
bits, and below 2²⁰⁹⁸ units. `Commissioning.Binary64.roundQuotient` rounds a quotient
of units to the nearest such count, a tie to the even one; that it always lands on the
grid is `Commissioning.Binary64.grid_dvd_roundQuotient`, and
`Commissioning.Binary64.roundQuotient_of_representable` says that a representable count
is its own rounding. A count of 2²⁰⁹⁸ or more has no number: it is infinite.

Zero keeps its sign, infinities have one, and there is a single value that is not a
number, so that equality of values of this type is equality of what is written for
them.
-/

namespace Commissioning

-- A power of a whole number is the repeated product of the core library, also where
-- a library that knows monoids is in scope: the two are different terms.
attribute [instance (10000), default_instance 10000] instPowNat

namespace Binary64

/-- The unit is two to the minus this power. -/
def unitPlaces : Nat := 1074

/-- The binary places of the first count of units that is too large. -/
def limitPlaces : Nat := 2098

/-- One is this many units: 2¹⁰⁷⁴. -/
def one : Nat := 2 ^ unitPlaces

/-- The first count of units that is too large for a finite number: 2²⁰⁹⁸. -/
def limit : Nat := 2 ^ limitPlaces

theorem one_pos : 0 < one := Nat.two_pow_pos unitPlaces

theorem limit_pos : 0 < limit := Nat.two_pow_pos limitPlaces

/-- The distance between neighbouring numbers about a count of units: the weight of
the last of its 53 leading bits. -/
def grid (u : Nat) : Nat := 2 ^ (u.log2 - 52)

/-- The counts of units that a finite number can have: they lie on their own grid and
below the limit. -/
def Representable (u : Nat) : Prop := grid u ∣ u ∧ u < limit

instance (u : Nat) : Decidable (Representable u) :=
  inferInstanceAs (Decidable (grid u ∣ u ∧ u < limit))

theorem representable_zero : Representable 0 :=
  ⟨Nat.dvd_zero _, limit_pos⟩

/-! ### Rounding -/

/-- The quotient `n / d`, rounded to the nearest multiple of its grid; a tie goes to
the multiple whose factor is even. -/
def roundQuotient (n d : Nat) : Nat :=
  let g := grid (n / d)
  let s := n / (d * g)
  let r := n % (d * g)
  if 2 * r < d * g ∨ 2 * r = d * g ∧ s % 2 = 0 then s * g else (s + 1) * g

/-- What lies on a grid, and at most 2⁵³ steps along it, lies on its own grid. -/
theorem grid_dvd_of_le {u k : Nat} (hdvd : 2 ^ k ∣ u) (hle : u ≤ 2 ^ (53 + k)) :
    grid u ∣ u := by
  unfold grid
  rcases Nat.lt_or_eq_of_le hle with hlt | rfl
  · refine Nat.dvd_trans (Nat.pow_dvd_pow 2 ?_) hdvd
    rcases Nat.eq_zero_or_pos u with rfl | hpos
    · simp
    · have := (Nat.log2_lt (Nat.ne_of_gt hpos)).2 hlt
      omega
  · rw [Nat.log2_two_pow]
    exact Nat.pow_dvd_pow 2 (by omega)

/-- **Rounding lands on the grid.** -/
theorem grid_dvd_roundQuotient (n d : Nat) :
    grid (roundQuotient n d) ∣ roundQuotient n d := by
  have hsteps : n / (d * grid (n / d)) < 2 ^ 53 := by
    rw [← Nat.div_div_eq_div_mul]
    refine (Nat.div_lt_iff_lt_mul (Nat.two_pow_pos _)).2 ?_
    rw [← Nat.pow_add]
    rcases Nat.eq_zero_or_pos (n / d) with h | h
    · rw [h]; exact Nat.two_pow_pos _
    · exact (Nat.log2_lt (Nat.ne_of_gt h)).1 (by omega)
  have hmul : ∀ s, s ≤ 2 ^ 53 → grid (s * grid (n / d)) ∣ s * grid (n / d) := by
    intro s hs
    refine grid_dvd_of_le (k := (n / d).log2 - 52) (Nat.dvd_mul_left _ _) ?_
    rw [Nat.pow_add]
    exact Nat.mul_le_mul_right _ hs
  unfold roundQuotient
  dsimp only
  split
  · exact hmul _ (Nat.le_of_lt hsteps)
  · exact hmul _ hsteps

/-- **A count on its grid is its own rounding.** -/
theorem roundQuotient_of_grid_dvd {u d : Nat} (hd : 0 < d) (h : grid u ∣ u) :
    roundQuotient (u * d) d = u := by
  have hg : 0 < grid u := Nat.two_pow_pos _
  obtain ⟨s, hs⟩ := h
  have hq : u * d / d = u := Nat.mul_div_cancel _ hd
  have hn : u * d = s * (d * grid u) := by
    calc u * d = (grid u * s) * d := by rw [← hs]
      _ = s * (d * grid u) := by
        rw [Nat.mul_comm (grid u) s, Nat.mul_assoc, Nat.mul_comm (grid u) d]
  unfold roundQuotient
  dsimp only
  rw [hq, hn, Nat.mul_mod_left, Nat.mul_div_cancel _ (Nat.mul_pos hd hg), if_pos]
  · rw [Nat.mul_comm, ← hs]
  · exact Or.inl (by simpa using Nat.mul_pos hd hg)

theorem roundQuotient_of_representable {u d : Nat} (hd : 0 < d) (h : Representable u) :
    roundQuotient (u * d) d = u :=
  roundQuotient_of_grid_dvd hd h.1

end Binary64

/-! ### The numbers -/

/-- A double-precision number. -/
inductive Binary64 where
  /-- Not a number. -/
  | nan
  /-- One of the two infinities. -/
  | infinite (negative : Bool)
  /-- A finite number: its sign and its absolute value in units of 2⁻¹⁰⁷⁴. -/
  | finite (negative : Bool) (units : Nat) (representable : Binary64.Representable units)
deriving DecidableEq

namespace Binary64

/-- Zero of either sign. -/
def zero (negative : Bool) : Binary64 := .finite negative 0 representable_zero

instance : Inhabited Binary64 := ⟨zero false⟩

/-- The number nearest to `n / d` units, or an infinity. -/
def ofQuotient (negative : Bool) (n d : Nat) : Binary64 :=
  if h : roundQuotient n d < limit then
    .finite negative (roundQuotient n d) ⟨grid_dvd_roundQuotient n d, h⟩
  else .infinite negative

/-- The number nearest to the quotient of two whole numbers. -/
def ofRatio (n : Int) (d : Nat) : Binary64 :=
  ofQuotient (n < 0) (n.natAbs * one) d

/-- Whether a number is neither infinite nor not a number. -/
def isFinite : Binary64 → Bool
  | .finite .. => true
  | _ => false

/-- The number nearest to a whole number; none if it is too large for a finite one. -/
def ofInt? (i : Int) : Option Binary64 := (some (ofRatio i 1)).filter isFinite

/-- The number nearest to `digits · 10 ^ exponent`. The two tests on the order of
magnitude keep powers of ten small and decide nothing: beyond them every number is
infinite or zero. -/
def ofDecimal (negative : Bool) (digits : Nat) (exponent : Int) : Binary64 :=
  if digits = 0 then zero negative
  else
    let order : Int := (Nat.toDigits 10 digits).length + exponent
    if 400 < order then .infinite negative
    else if order < -400 then zero negative
    else if 0 ≤ exponent then
      ofQuotient negative (digits * 10 ^ exponent.toNat * one) 1
    else
      ofQuotient negative (digits * one) (10 ^ (-exponent).toNat)

/-- Rounding an exact multiple of units gives it back. -/
theorem ofQuotient_units {negative : Bool} {u d : Nat} (hd : 0 < d) (h : Representable u) :
    ofQuotient negative (u * d) d = .finite negative u h := by
  have hr := roundQuotient_of_representable hd h
  unfold ofQuotient
  simp only [hr, h.2, dite_true]

/-! ### Reading a number off -/

/-- The signed count of units of a finite number. -/
def units? : Binary64 → Option Int
  | .finite negative u _ => some (if negative then -(u : Int) else u)
  | _ => none

/-- Whether a number is whole. -/
def isWhole : Binary64 → Bool
  | .finite _ u _ => u % one == 0
  | _ => false

/-- The number with its sign turned. -/
def neg : Binary64 → Binary64
  | .nan => .nan
  | .infinite s => .infinite (!s)
  | .finite s u h => .finite (!s) u h

/-- The sum of two numbers, rounded. A sum of zero is negative only when both parts
are. -/
def add : Binary64 → Binary64 → Binary64
  | .nan, _ => .nan
  | _, .nan => .nan
  | .infinite s, .infinite t => if s == t then .infinite s else .nan
  | .infinite s, .finite .. => .infinite s
  | .finite .., .infinite t => .infinite t
  | .finite s u _, .finite t v _ =>
    let total : Int := (if s then -(u : Int) else u) + (if t then -(v : Int) else v)
    if total = 0 then zero (s && t)
    else ofQuotient (total < 0) total.natAbs 1

/-- The difference of two numbers, rounded. -/
def sub (x y : Binary64) : Binary64 := x.add y.neg

end Binary64

end Commissioning
