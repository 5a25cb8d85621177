/-!
# Hexadecimal digits

Characters that cannot be shown, escaped characters and escaped bytes are all given by
hexadecimal digits. They are written in small letters (`Commissioning.Text.hexadecimal`)
and read in either case (`Commissioning.Text.hexNumber?`).
-/

namespace Commissioning.Text

/-- A number in hexadecimal digits, with zeros in front up to the width. -/
def hexadecimal (width n : Nat) : List Char :=
  let ds := Nat.toDigits 16 n
  List.replicate (width - ds.length) '0' ++ ds

/-- The value of a hexadecimal digit. -/
def hexValue? (c : Char) : Option Nat :=
  let n := c.toNat
  if 0x30 ≤ n && n ≤ 0x39 then some (n - 0x30)
  else if 0x61 ≤ n && n ≤ 0x66 then some (n - 0x57)
  else if 0x41 ≤ n && n ≤ 0x46 then some (n - 0x37)
  else none

/-- Whether a character is a hexadecimal digit. -/
def isHexDigit (c : Char) : Bool := (hexValue? c).isSome

/-- The number that hexadecimal digits write. -/
def hexNumber? (ds : List Char) : Option Nat :=
  ds.foldl (fun n d => match n, hexValue? d with
    | some n, some v => some (n * 16 + v)
    | _, _ => none) (some 0)

/-- The bytes that pairs of hexadecimal digits write, up to the first that is no pair. -/
def hexBytes : List Char → List UInt8
  | a :: b :: cs =>
    match hexValue? a, hexValue? b with
    | some x, some y => UInt8.ofNat (16 * x + y) :: hexBytes cs
    | _, _ => []
  | _ => []

end Commissioning.Text
