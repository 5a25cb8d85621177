import Commissioning.Text.Utf8

/-!
# Encodings of documents

A document may be sent in units of one, two or four bytes. Because it begins with
characters of the first 128, the zeros among its first bytes tell which
(`Commissioning.Text.Encoding.detect`).

`Commissioning.Text.ofPairs` and `Commissioning.Text.ofQuads` read the larger units. There
is no text if the bytes break off within a unit, or if a unit is no character. A document
in larger units may hold half of a pair of surrogates that stands alone. A decoder can keep
it, and that of the wizard does; here it becomes one replacement character.
-/

namespace Commissioning.Text

/-- The order of the bytes of a unit. -/
inductive ByteOrder where
  /-- The most significant byte comes first. -/
  | big
  /-- The least significant byte comes first. -/
  | little
deriving DecidableEq, Repr

/-- How a document is sent. -/
inductive Encoding where
  /-- In units of one byte. -/
  | utf8
  /-- In units of two bytes. -/
  | utf16 (order : ByteOrder)
  /-- In units of four bytes. -/
  | utf32 (order : ByteOrder)
deriving DecidableEq, Repr

namespace Encoding

/-- **The encoding of a document**, by the zeros among its first bytes. -/
def detect : List UInt8 → Encoding
  | [a, b] =>
    if a = 0 then .utf16 .big else if b = 0 then .utf16 .little else .utf8
  | a :: b :: c :: d :: _ =>
    if a = 0 then if b = 0 then .utf32 .big else .utf16 .big
    else if b = 0 then if c = 0 ∧ d = 0 then .utf32 .little else .utf16 .little
    else .utf8
  | _ => .utf8

end Encoding

namespace ByteOrder

/-- The number that two bytes make. -/
def pair (order : ByteOrder) (a b : UInt8) : Nat :=
  match order with
  | big => a.toNat * 0x100 + b.toNat
  | little => b.toNat * 0x100 + a.toNat

/-- The number that four bytes make. -/
def quad (order : ByteOrder) (a b c d : UInt8) : Nat :=
  match order with
  | big => order.pair a b * 0x10000 + order.pair c d
  | little => order.pair c d * 0x10000 + order.pair a b

end ByteOrder

/-- Whether a unit is the first half of a pair. -/
def isHighSurrogate (n : Nat) : Bool := 0xd800 ≤ n && n ≤ 0xdbff

/-- Whether a unit is the second half of a pair. -/
def isLowSurrogate (n : Nat) : Bool := 0xdc00 ≤ n && n ≤ 0xdfff

/-- The character of a pair of surrogates. -/
def charOfPair (high low : Nat) : Char :=
  Char.ofNat (0x10000 + (high - 0xd800) * 0x400 + (low - 0xdc00))

/-- The character of a code point. Half of a pair that stands alone is replaced here,
while the decoder of the wizard keeps it; a half that is named in an escape is kept here too
(`Commissioning.Sign.ofCode`). -/
def charOfCode (n : Nat) : Char :=
  if isHighSurrogate n || isLowSurrogate n then replacementChar else Char.ofNat n

/-- The text of units of two bytes. -/
def ofUnits : List Nat → List Char
  | [] => []
  | [n] => [charOfCode n]
  | high :: low :: rest =>
    if isHighSurrogate high && isLowSurrogate low then charOfPair high low :: ofUnits rest
    else charOfCode high :: ofUnits (low :: rest)

/-- The units that bytes make, two by two. -/
def pairs? (order : ByteOrder) : List UInt8 → Option (List Nat)
  | [] => some []
  | [_] => none
  | a :: b :: rest => (pairs? order rest).map (order.pair a b :: ·)

/-- The units that bytes make, four by four. -/
def quads? (order : ByteOrder) : List UInt8 → Option (List Nat)
  | [] => some []
  | a :: b :: c :: d :: rest => (quads? order rest).map (order.quad a b c d :: ·)
  | _ => none

/-- The text of bytes, taken two by two. -/
def ofPairs (order : ByteOrder) (bytes : List UInt8) : Option (List Char) :=
  (pairs? order bytes).map ofUnits

/-- The text of bytes, taken four by four. -/
def ofQuads (order : ByteOrder) (bytes : List UInt8) : Option (List Char) :=
  (quads? order bytes).bind fun units =>
    if units.all (· ≤ 0x10ffff) then some (units.map charOfCode) else none

end Commissioning.Text
