import Commissioning.Number.Written
import Commissioning.Text.Blank
import Commissioning.Text.DecimalDigit

/-!
# Reading numerals

Two grammars of typed numerals, each read after white space is cut off at both ends.

* A *floating numeral* is an optional sign and either a decimal (digits, a point with
  digits on at least one side of it, an optional exponent) or one of the words `inf`,
  `infinity` and `nan` in any case.
* A *whole numeral* is an optional sign and digits.

In both, single underscores may stand between digits
(`Commissioning.dropSeparators`), and the decimal digits of every script count
(`Commissioning.floatOfText?`, `Commissioning.intOfText?`). The parts of a numeral and
the plain grammar of floating ones (`Commissioning.plainFloat?`) stand first, because
other readers are made of them too.
-/

namespace Commissioning

/-! ### Parts of a numeral -/

/-- Removes the underscores of a text; none unless each stands between two digits. -/
def dropSeparatorsAfter : Bool → List Char → Option (List Char)
  | _, [] => some []
  | afterDigit, '_' :: c :: cs =>
    if afterDigit && c.isDigit then (dropSeparatorsAfter true cs).map (c :: ·) else none
  | _, c :: cs => if c == '_' then none else (dropSeparatorsAfter c.isDigit cs).map (c :: ·)

/-- Removes the underscores of a text; none unless each stands between two digits. -/
def dropSeparators (cs : List Char) : Option (List Char) :=
  dropSeparatorsAfter false cs

/-- A sign in front of a text, true for minus, and the text behind it. -/
def splitSign : List Char → Bool × List Char
  | '-' :: cs => (true, cs)
  | '+' :: cs => (false, cs)
  | cs => (false, cs)

/-- The digits at the front of a text, and the text behind them. -/
def splitDigits (cs : List Char) : List Char × List Char :=
  (cs.takeWhile Char.isDigit, cs.dropWhile Char.isDigit)

/-- The natural number that digits write. -/
def natOfDigits (ds : List Char) : Nat := Nat.ofDigitChars 10 ds 0

/-- A whole number of the sign and absolute value. -/
def signed (negative : Bool) (n : Nat) : Int := if negative then -(n : Int) else n

/-- The exponent part of a decimal, which must be all that is left of it. -/
def exponentOf? : List Char → Option Int
  | [] => some 0
  | c :: cs =>
    if c == 'e' || c == 'E' then
      let (negative, cs) := splitSign cs
      let (ds, rest) := splitDigits cs
      if ds.isEmpty || !rest.isEmpty then none else some (signed negative (natOfDigits ds))
    else none

/-- The digits after a point, if the text goes on with one, and the text behind. -/
def splitFraction : List Char → List Char × List Char
  | '.' :: cs => splitDigits cs
  | cs => ([], cs)

/-- An unsigned decimal. -/
def decimalOf? (cs : List Char) : Option Decimal :=
  let (whole, cs) := splitDigits cs
  let (fraction, cs) := splitFraction cs
  if whole.isEmpty && fraction.isEmpty then none
  else (exponentOf? cs).map fun e => ⟨natOfDigits (whole ++ fraction), e - fraction.length⟩

/-- A floating numeral in plain digits, without blanks about it and underscores in it. -/
def plainFloat? (cs : List Char) : Option Binary64 :=
  let (negative, cs) := splitSign cs
  let word := cs.map Char.toLower
  if word == ['i', 'n', 'f'] || word == ['i', 'n', 'f', 'i', 'n', 'i', 't', 'y'] then
    some (.infinite negative)
  else if word == ['n', 'a', 'n'] then some .nan
  else (decimalOf? cs).map fun d => d.toBinary64 negative

/-- A whole numeral in plain digits, without the blanks around it: its sign and its
digits. -/
def splitWhole? (cs : List Char) : Option (Bool × List Char) := do
  let (negative, cs) := splitSign (← dropSeparators cs)
  if !cs.isEmpty && cs.all Char.isDigit then some (negative, cs) else none

/-! ### Typed texts -/

/-- The number that a typed floating numeral stands for. -/
def floatOfText? (s : String) : Option Binary64 :=
  (dropSeparators (Text.trimBy Text.isWhiteSpace (Text.westernDigits s.toList))).bind plainFloat?

/-- The number that a typed whole numeral stands for, if it has no more digits than
the limit. -/
def intOfText? (s : String) : Option Int := do
  let (negative, ds) ← splitWhole? (Text.trimBy Text.isWhiteSpace (Text.westernDigits s.toList))
  if ds.length ≤ digitLimit then some (signed negative (natOfDigits ds)) else none

end Commissioning
