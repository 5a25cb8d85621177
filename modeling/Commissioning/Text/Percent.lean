import Commissioning.Text.Hexadecimal
import Commissioning.Text.Utf8

/-!
# Percent signs

In addresses, a percent sign with two hexadecimal digits stands for a byte. The bytes are
read as UTF-8 once they are all there (`Commissioning.Text.percentDecoded`); a percent sign
without two digits stands for itself.
-/

namespace Commissioning.Text

/-- The bytes of a text with percent signs. -/
def percentBytes : List Char → List UInt8
  | '%' :: a :: b :: cs =>
    match hexValue? a, hexValue? b with
    | some x, some y => UInt8.ofNat (16 * x + y) :: percentBytes cs
    | _, _ => UInt8.ofNat '%'.toNat :: percentBytes (a :: b :: cs)
  | c :: cs => (String.singleton c).toUTF8.toList ++ percentBytes cs
  | [] => []
termination_by cs => cs.length

/-- **The text that a text with percent signs stands for.** -/
def percentDecoded (cs : List Char) : List Char := ofBytes (percentBytes cs)

end Commissioning.Text
