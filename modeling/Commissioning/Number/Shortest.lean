import Commissioning.Number.Binary64

/-!
# The shortest decimal of a number

A finite number is written with the fewest decimal digits that read back as the same
number, and of several such decimals with the nearest. The search
(`Commissioning.Binary64.shortest`) tries one digit, two digits and so on: on each
decimal grid only the two neighbours of the number can be the answer, and it tries
the nearer of them first, a tie going to the even digit.

The exact decimal expansion (`Commissioning.Binary64.expansion`) stands behind the
search. Seventeen digits always suffice, so it is never reached; it is what makes
“the decimal reads back” a fact about every number.
-/

namespace Commissioning

/-- The decimal `digits · 10 ^ exponent`. -/
structure Decimal where
  /-- The digits, read as a natural number. -/
  digits : Nat
  /-- The power of ten they are multiplied with. -/
  exponent : Int
deriving DecidableEq, Repr

namespace Decimal

/-- The number nearest to a decimal. -/
def toBinary64 (negative : Bool) (d : Decimal) : Binary64 :=
  .ofDecimal negative d.digits d.exponent

end Decimal

namespace Binary64

/-- How many decimal digits a natural number is written with. -/
def digitCount (n : Nat) : Nat := (Nat.toDigits 10 n).length

/-- The exponent of the leading decimal digit of a positive count of units. The count
is scaled by 10³⁴³ first, so that the quotient keeps its leading digit. -/
def leadingExponent (u : Nat) : Int :=
  (digitCount (u * 10 ^ 343 / one) : Int) - 1 - 343

/-- The neighbours of a count of units on the grid of the decimals with the exponent,
the nearer first; of two equally near ones the even one. -/
def neighbours (u : Nat) (exponent : Int) : List Decimal :=
  let n := u * 10 ^ (-exponent).toNat
  let d := one * 10 ^ exponent.toNat
  let below := n / d
  let rest := n % d
  if 2 * rest < d ∨ 2 * rest = d ∧ below % 2 = 0 then
    [⟨below, exponent⟩, ⟨below + 1, exponent⟩]
  else
    [⟨below + 1, exponent⟩, ⟨below, exponent⟩]

/-- A decimal of the given number of digits that reads back as the count of units. -/
def shortestOfLength? (u : Nat) (length : Nat) : Option Decimal :=
  (neighbours u (leadingExponent u - (length - 1 : Nat))).find? fun d =>
    (d.toBinary64 false).units? == some (u : Int)

/-- A count of units as an exact decimal: a unit is 5¹⁰⁷⁴ · 10⁻¹⁰⁷⁴. -/
def expansion (u : Nat) : Decimal :=
  ⟨u * 5 ^ unitPlaces, -(unitPlaces : Int)⟩

/-- **The shortest decimal** that reads back as a count of units. -/
def shortest (u : Nat) : Decimal :=
  if u = 0 then ⟨0, 0⟩
  else ((List.range' 1 17).findSome? (shortestOfLength? u)).getD (expansion u)

end Binary64

end Commissioning
