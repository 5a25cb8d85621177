import Commissioning.Number.Basic
import Commissioning.Number.Shortest

/-!
# Written numbers

Whole numbers are written in decimal, up to a limit of 4300 digits
(`Commissioning.digitLimit`); a longer one is not written at all, which is an error
wherever a text of it is asked for. Doubles are written with the digits of
`Commissioning.Binary64.shortest`: with a point when the leading digit stands between
10⁻⁴ and 10¹⁵, and otherwise with an exponent of at least two digits. A point always
has a digit on both sides.
-/

namespace Commissioning

/-- The greatest number of decimal digits in which a whole number is written or read. -/
def digitLimit : Nat := 4300

/-- The decimal digits of a natural number. -/
def natChars (n : Nat) : List Char := Nat.toDigits 10 n

/-- A whole number in decimal. -/
def intChars (i : Int) : List Char :=
  if i < 0 then '-' :: natChars i.natAbs else natChars i.natAbs

/-- A whole number in decimal, unless it has too many digits. -/
def intChars? (i : Int) : Option (List Char) :=
  if (natChars i.natAbs).length ≤ digitLimit then some (intChars i) else none

/-! ### Doubles -/

/-- How the digits of a double are laid out. -/
structure FloatLayout where
  /-- The least exponent of the leading digit that is written with a point. -/
  leastPositional : Int
  /-- The first exponent of the leading digit that is not. -/
  firstScientific : Int
  /-- The least number of digits of an exponent. -/
  exponentDigits : Nat
  /-- The word for infinity. -/
  infinity : String
  /-- The word for the value that is not a number. -/
  notANumber : String

/-- The layout of messages and documents. -/
def plainLayout : FloatLayout := ⟨-4, 16, 2, "inf", "nan"⟩

/-- The layout of stored and transmitted documents. -/
def documentLayout : FloatLayout := ⟨-4, 16, 2, "Infinity", "NaN"⟩

namespace Decimal

/-- The digits of a decimal without the zeros at their end, and the power of ten that
the point in front of them stands for. -/
def significand (d : Decimal) : List Char × Int :=
  let ds := natChars d.digits
  let kept := (ds.reverse.dropWhile (· == '0')).reverse
  (if kept.isEmpty then ['0'] else kept, (ds.length : Int) + d.exponent)

/-- Digits with a point after the given number of them. -/
def positional (ds : List Char) (point : Int) : List Char :=
  if point ≤ 0 then
    '0' :: '.' :: List.replicate (-point).toNat '0' ++ ds
  else if ds.length ≤ point.toNat then
    ds ++ List.replicate (point.toNat - ds.length) '0' ++ ['.', '0']
  else
    ds.take point.toNat ++ '.' :: ds.drop point.toNat

/-- Digits with a point after the first of them, and an exponent. -/
def scientific (layout : FloatLayout) (ds : List Char) (exponent : Int) : List Char :=
  let power := natChars exponent.natAbs
  ds.take 1 ++ (if ds.length ≤ 1 then [] else '.' :: ds.drop 1) ++
    'e' :: (if exponent < 0 then '-' else '+') ::
    (List.replicate (layout.exponentDigits - power.length) '0' ++ power)

/-- A decimal as text. -/
def chars (layout : FloatLayout) (d : Decimal) : List Char :=
  if d.digits = 0 then ['0', '.', '0']
  else
    let (ds, point) := d.significand
    if layout.leastPositional ≤ point - 1 ∧ point - 1 < layout.firstScientific then
      positional ds point
    else scientific layout ds (point - 1)

end Decimal

namespace Binary64

/-- A double as text. -/
def chars (layout : FloatLayout) : Binary64 → List Char
  | .nan => layout.notANumber.toList
  | .infinite negative => (if negative then ['-'] else []) ++ layout.infinity.toList
  | .finite negative u _ => (if negative then ['-'] else []) ++ (shortest u).chars layout

/-- A double as text in messages. -/
def text (x : Binary64) : String := String.ofList (x.chars plainLayout)

end Binary64

end Commissioning
