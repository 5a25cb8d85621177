import Commissioning.Assoc
import Commissioning.Live.Template.Layout

/-!
# Laying out whole numbers

A whole number is written in one of several bases, perhaps with a mark between groups of
digits, and then filled up like a text (`Commissioning.Template.Layout.applyWhole`). Zeros
that fill it up behind its sign belong to its digits, so they are grouped as well
(`Commissioning.Template.grouped`). The numbers here have no minus sign.

The forms with a fraction or an exponent are those of `Commissioning.Template.Scale`.
-/

namespace Commissioning

namespace Template

/-- The digits of a number in reverse with a mark between groups of a size, and with zeros
behind them up to a width. No mark stands at the end, so the width may be passed by one. -/
def grouped (mark : Char) (size : Nat) : Nat → Nat → List Char → List Char
  | 0, _, ds => ds
  | fuel + 1, width, ds =>
    let count := min size (max (max ds.length width) 1)
    let group := ds.take count ++ List.replicate (count - ds.length) '0'
    let rest := ds.drop count
    if rest.isEmpty && width ≤ count then group
    else group ++ mark :: grouped mark size fuel (width - count - 1) rest

/-- The digits of a number up to a width, with the mark between groups if there is one. -/
def digitsTo (separator : Option Char) (size width : Nat) (ds : List Char) : List Char :=
  match separator with
  | some mark => (grouped mark size (max ds.length width + 1) width ds.reverse).reverse
  | none => List.replicate (width - ds.length) '0' ++ ds

/-- The base of a form, and what stands in front of its alternate form. -/
def baseOf? (form : Char) : Option (Nat × List Char) :=
  Assoc.get?
    [('d', (10, [])), ('n', (10, [])), ('b', (2, ['0', 'b'])), ('o', (8, ['0', 'o'])),
     ('x', (16, ['0', 'x'])), ('X', (16, ['0', 'X']))] form

/-- The digits of a number in a form. -/
def digitsIn (form : Char) (base n : Nat) : List Char :=
  let ds := Nat.toDigits base n
  if form == 'X' then ds.map Char.toUpper else ds

namespace Layout

/-- Why a whole number cannot be laid out, if it cannot. -/
def wholeFault? (l : Layout) : Option LayoutError :=
  if (baseOf? l.form).isNone && l.form != 'c' then some (.form .whole l.form)
  else if l.precision.isSome then some .precision
  else if l.dropsNegativeZero then some .wholeNegativeZero
  else if l.form == 'c' && l.sign.isSome then some .characterSign
  else if l.form == 'c' && l.alternate then some .characterAlternate
  else if widthLimit < l.width then some .tooWide
  else none

/-- A front and a body, filled up to the width; between the two if the layout says so. -/
def filled (l : Layout) (front body : List Char) : List Char :=
  match l.alignment with
  | .afterSign => front ++ padded l.fill .back (l.width - front.length) body
  | _ => padded l.fill l.alignment l.width (front ++ body)

/-- The sign that a layout gives a number. -/
def signChars (l : Layout) : List Char :=
  match l.sign with
  | some '+' => ['+']
  | some ' ' => [' ']
  | _ => []

/-- Up to which width the digits of a number go, if so many other characters go with them:
up to its own if zeros fill it up behind its sign. -/
def digitWidth (l : Layout) (others : Nat) : Nat :=
  if l.fill == '0' && l.alignment == .afterSign then l.width - others else 0

/-- A whole number as it is laid out in one of the forms for whole numbers. -/
def applyWhole (l : Layout) (n : Nat) : Except LayoutError (List Char) :=
  match l.wholeFault? with
  | some e => .error e
  | none => match baseOf? l.form with
    | some (base, mark) =>
      let front := l.signChars ++ (if l.alternate then mark else [])
      let size := if base = 10 then 3 else 4
      let ds := digitsIn l.form base n
      .ok (l.filled front (digitsTo l.separator size (l.digitWidth front.length) ds))
    | none =>
      if n < 0x110000 then .ok (l.filled [] [Char.ofNat n]) else .error .noCharacter

end Layout

end Template

end Commissioning
