import Commissioning.Number.Numeral
import Commissioning.Text.Split

/-!
# Numerals of documents

A number of a document may come as a text. Such numerals are written in the digits `0` to
`9`, and they are read in two ways.

* A *floating numeral* (`Commissioning.Intake.floatOfNumeral?`) follows the plain grammar
  between white space. Failing that, it may have single underscores anywhere inside, but
  then no white space about it.
* A *whole numeral* (`Commissioning.Intake.wholeOfNumeral?`) is brought to its plain form
  first: without white space about it, without a plus sign, without zeros in front, without
  a point and zeros at its end, and without single underscores inside. What is left must be
  a whole number as it would be written. Zeros in front may hide the minus sign, so `0-5` is
  minus five.

A whole number that is plainly written with more digits than `Commissioning.digitLimit` is
told apart from what is no numeral at all (`Commissioning.Intake.isOversized`); a number of
so many digits in any other form counts as no numeral.
-/

namespace Commissioning

namespace Intake

/-! ### Underscores -/

/-- A text without its underscores; none unless they stand inside it, one by one. -/
def withoutUnderscores? (cs : List Char) : Option (List Char) :=
  if cs.head? == some '_' || cs.getLast? == some '_' || Text.occursIn ['_', '_'] cs then none
  else some (cs.filter (· != '_'))

/-! ### Floating numerals -/

/-- **The number that a floating numeral of a document stands for.** -/
def floatOfNumeral? (s : String) : Option Binary64 :=
  match plainFloat? (Text.trimBy Text.isWhiteSpace s.toList) with
  | some x => some x
  | none => (withoutUnderscores? s.toList).bind plainFloat?

/-! ### Whole numerals -/

/-- What is left behind zeros and underscores at the front of a numeral, the last of which
is given: a number, or the last zero with the fraction that follows it. -/
def afterZeros? : Char → List Char → Option (List Char)
  | last, [] => some [last]
  | last, c :: cs =>
    if c == '0' || c == '_' then afterZeros? c cs
    else if c.isDigit || c == '-' then some (c :: cs)
    else if c == '.' then some (last :: c :: cs)
    else none

/-- A numeral without zeros in front. -/
def dropZeros? : List Char → Option (List Char)
  | [] => none
  | c :: cs =>
    if c == '0' then afterZeros? c cs
    else if c.isDigit || c == '-' then some (c :: cs)
    else none

/-- A numeral without a plus sign and without zeros in front. -/
def dropFront? : List Char → Option (List Char)
  | '+' :: cs => if cs.head? = some '-' then none else dropZeros? cs
  | '-' :: cs => (dropZeros? cs).map ('-' :: ·)
  | cs => dropZeros? cs

/-- A text without a point and zeros at its end. -/
def dropZeroFraction (cs : List Char) : List Char :=
  match cs.reverse.dropWhile (· == '0') with
  | '.' :: whole => if cs.getLast? == some '0' then whole.reverse else cs
  | _ => cs

/-- A minus sign in front of a text, and the text behind it. -/
def splitMinus : List Char → Bool × List Char
  | '-' :: cs => (true, cs)
  | cs => (false, cs)

/-- The whole number that is written just so: a minus sign if need be, and as many digits
as it takes. -/
def wholeOfPlain? (cs : List Char) : Option Int :=
  let (negative, ds) := splitMinus cs
  if ds.isEmpty || !ds.all Char.isDigit || (ds.head? == some '0' && 1 < ds.length) ||
      digitLimit < ds.length then none
  else some (signed negative (natOfDigits ds))

/-- **The number that a whole numeral of a document stands for.** -/
def wholeOfNumeral? (s : String) : Option Int := do
  let cs ← dropFront? (Text.trimBy Text.isWhiteSpace s.toList)
  wholeOfPlain? (← withoutUnderscores? (dropZeroFraction cs))

/-- Whether a text begins with a plainly written whole number of too many digits. -/
def isOversized (s : String) : Bool :=
  let (_, cs) := splitMinus s.toList
  cs.head? != some '0' && digitLimit < (cs.takeWhile Char.isDigit).length

end Intake

end Commissioning
