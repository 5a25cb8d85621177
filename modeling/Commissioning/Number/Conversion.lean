import Commissioning.Json.Display
import Commissioning.Number.Numeral

/-!
# Turning values into numbers and texts

Device messages, form values and configured counts arrive as documents of any kind.
This module turns them into doubles and whole numbers, and says why one cannot be
turned, or cannot be written (`Commissioning.NumberError`).
-/

namespace Commissioning

/-- Why a value has no number, or no text. -/
inductive NumberError where
  /-- The text is no floating numeral. -/
  | unreadable (text : String)
  /-- A value of this kind is neither a text nor a number. -/
  | wrongKind (kind : String)
  /-- The whole number is too large for a double. -/
  | tooLarge
  /-- The value that is not a number has no whole part. -/
  | wholeOfNan
  /-- An infinity has no whole part. -/
  | wholeOfInfinity
  /-- The whole number has too many digits to be written. -/
  | tooManyDigits
  /-- The text has halves of pairs in it, for which there are no bytes. -/
  | torn (t : TornText)
deriving DecidableEq, Repr

/-- The wording of an error. -/
def NumberError.message : NumberError → String
  | .unreadable text => s!"could not convert string to float: {Text.quoted text}"
  | .wrongKind kind => s!"float() argument must be a string or a real number, not '{kind}'"
  | .tooLarge => "int too large to convert to float"
  | .wholeOfNan => "cannot convert float NaN to integer"
  | .wholeOfInfinity => "cannot convert float infinity to integer"
  | .tooManyDigits =>
    s!"Exceeds the limit ({digitLimit} digits) for integer string conversion; " ++
      "use sys.set_int_max_str_digits() to increase the limit"
  | .torn t =>
    s!"Error serializing to JSON: UnicodeEncodeError: 'utf-8' codec can't encode {t.halvesText}" ++
      ": surrogates not allowed"

namespace Json

/-- The word for the kind of a value. -/
def kindName : Json → String
  | .null => "NoneType"
  | .bool _ => "bool"
  | .int _ => "int"
  | .float _ => "float"
  | .str _ | .torn _ => "str"
  | .arr _ => "list"
  | .obj _ => "dict"

/-- **The double of a value**: a truth value counts as one or zero, a whole number is
rounded, and a text is read as a typed numeral. -/
def toBinary64 : Json → Except NumberError Binary64
  | .bool b => .ok (.ofRatio (if b then 1 else 0) 1)
  | .int i => (Binary64.ofInt? i).elim (.error .tooLarge) .ok
  | .float x => .ok x
  | .str s => (floatOfText? s).elim (.error (.unreadable s)) .ok
  | .torn t => .error (.unreadable t.shown)
  | j => .error (.wrongKind j.kindName)

/-- **The text of a value.** -/
def display (j : Json) : Except NumberError String :=
  match j.display? with
  | some s => .ok s
  | none => .error .tooManyDigits

end Json

namespace Binary64

/-- The whole part of a double, cut towards zero. -/
def toInt : Binary64 → Except NumberError Int
  | .nan => .error .wholeOfNan
  | .infinite _ => .error .wholeOfInfinity
  | .finite negative u _ => .ok (signed negative (u / one))

end Binary64

namespace Number

/-- A number as text: a whole number in decimal, a double by its shortest decimal. -/
def text : Number → Except NumberError String
  | .int i => match intChars? i with
    | some cs => .ok (String.ofList cs)
    | none => .error .tooManyDigits
  | .float x => .ok x.text

end Number

end Commissioning
