import Commissioning.Live.Template.Whole

/-!
# Laying out numbers by scale

A whole number may also be written with a fraction or an exponent, in one of four ways
(`Commissioning.Template.Scale`): with so many digits behind the point, as a digit before
the point with an exponent, in whichever of these two suits its size, or in hundredths.
The digits are those of the number rounded to a count of digits, to the even digit where it
lies in the middle (`Commissioning.Template.rounded`).

The precision is a count of digits behind the point, or of all digits where the size of the
number decides; without one it is six. The digits before the point are grouped and filled
up like those of a whole number (`Commissioning.Template.layOutNumber`).
-/

namespace Commissioning

namespace Template

/-- A way to write a number with a fraction or an exponent. -/
inductive Scale where
  /-- With so many digits behind the point. -/
  | fixed
  /-- With an exponent. -/
  | exponent
  /-- With an exponent only if the number is large. -/
  | general
  /-- In hundredths, with so many digits behind the point. -/
  | hundredths
deriving DecidableEq, Repr

/-- The way that a form stands for, and whether its exponent is marked by a capital
letter. -/
def Scale.ofForm? (form : Char) : Option (Scale × Bool) :=
  Assoc.get?
    [('f', (fixed, false)), ('F', (fixed, true)), ('e', (exponent, false)),
     ('E', (exponent, true)), ('g', (general, false)), ('G', (general, true)),
     ('%', (hundredths, false))] form

/-- The precision that is meant where none is written. -/
def usualPrecision : Nat := 6

/-- The first precision that is too large. -/
def precisionLimit : Nat := 2 ^ 31

/-! ### Digits -/

/-- The first digits of a number, so many of them, and the power of ten that the first one
stands for. A number with fewer digits is filled up with zeros; one with more is rounded to
the nearest, and to an even last digit from the middle. -/
def rounded (count n : Nat) : List Char × Nat :=
  let ds := Nat.toDigits 10 n
  if ds.length ≤ count then (ds ++ List.replicate (count - ds.length) '0', ds.length - 1)
  else
    let unit := 10 ^ (ds.length - count)
    let (q, r) := (n / unit, n % unit)
    let q := if unit < 2 * r ∨ (unit = 2 * r ∧ q % 2 = 1) then q + 1 else q
    let ds' := Nat.toDigits 10 q
    (ds'.take count, ds.length - 1 + (ds'.length - count))

/-- A number that is written in two parts: the digits before the point, and what stands
behind them. -/
abbrev Parts := List Char × List Char

/-- A fraction behind its point; an empty one has a point only if it must. -/
def fraction (point : Bool) (ds : List Char) : List Char :=
  if ds.isEmpty && !point then [] else '.' :: ds

/-- An exponent: its mark, its sign, and two digits or more. -/
def exponentChars (capital : Bool) (n : Nat) : List Char :=
  let ds := Nat.toDigits 10 n
  [if capital then 'E' else 'e', '+'] ++ List.replicate (2 - ds.length) '0' ++ ds

/-- A number with so many zeros behind the point. -/
def fixedParts (point : Bool) (precision n : Nat) : Parts :=
  (Nat.toDigits 10 n, fraction point (List.replicate precision '0'))

/-- Digits with the point behind the first one, and an exponent. -/
def exponentParts (point capital : Bool) (ds : List Char) (exponent : Nat) : Parts :=
  (ds.take 1, fraction point (ds.drop 1) ++ exponentChars capital exponent)

/-- A number of so many digits, with an exponent if there are not enough of them to write it
without. Zeros at the end of the fraction are dropped unless the point must stand. -/
def generalParts (point capital : Bool) (precision n : Nat) : Parts :=
  let (ds, exponent) := rounded (max precision 1) n
  let trimmed (cs : List Char) :=
    if point then cs else (cs.reverse.dropWhile (· == '0')).reverse
  if exponent < max precision 1 then
    (ds.take (exponent + 1), fraction point (trimmed (ds.drop (exponent + 1))))
  else exponentParts point capital (ds.take 1 ++ trimmed (ds.drop 1)) exponent

/-- The two parts of a number. -/
def Scale.parts (scale : Scale) (point capital : Bool) (precision? : Option Nat) (n : Nat) :
    Parts :=
  let precision := precision?.getD usualPrecision
  match scale with
  | fixed => fixedParts point precision n
  | exponent =>
    let (ds, power) := rounded (precision + 1) n
    exponentParts point capital ds power
  | general => generalParts point capital precision n
  | hundredths =>
    let (front, back) := fixedParts point precision (n * 100)
    (front, back ++ ['%'])

/-! ### Laying out -/

namespace Layout

/-- Why a number cannot be laid out by scale, if it cannot. -/
def scaleFault? (l : Layout) : Option LayoutError :=
  if precisionLimit ≤ l.precision.getD 0 then some .precisionTooBig
  else if widthLimit < max l.width (l.precision.getD 0) then some .tooWide
  else none

/-- A whole number as it is laid out by scale. -/
def applyScale (l : Layout) (scale : Scale) (capital : Bool) (n : Nat) :
    Except LayoutError (List Char) :=
  match l.scaleFault? with
  | some e => .error e
  | none =>
    let (front, back) := scale.parts l.alternate capital l.precision n
    let width := l.digitWidth (l.signChars.length + back.length)
    .ok (l.filled l.signChars (digitsTo l.separator 3 width front ++ back))

end Layout

/-- **A whole number as a written layout lays it out**; an empty layout writes its digits. -/
def layOutNumber (layout : List Char) (n : Nat) : Except LayoutError (List Char) := do
  if layout.isEmpty then return Nat.toDigits 10 n
  let l ← Layout.ofChars .whole layout
  match Scale.ofForm? l.form with
  | some (scale, capital) => l.applyScale scale capital n
  | none => l.applyWhole n

end Template

end Commissioning
