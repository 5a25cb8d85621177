/-!
# Reading bytes as text

Payloads and answers arrive as bytes. `Commissioning.Text.ofBytes` reads them as
UTF-8 and never fails: every maximal run of bytes that begins a character but does
not complete it, and every byte that can begin none, becomes one replacement
character U+FFFD.

The reader is a small machine. Between two characters it holds nothing; inside a
character it holds a `Commissioning.Text.Pending`: how many bytes are still to come,
the range the next of them must lie in, and the number read so far. The narrowed
ranges after `E0`, `ED`, `F0` and `F4` are what keeps overlong forms, surrogates
and numbers beyond U+10FFFF out.
-/

namespace Commissioning.Text

/-- A character part way through. -/
structure Pending where
  /-- How many bytes are still to come. -/
  missing : Nat
  /-- The least value of the next byte. -/
  low : Nat
  /-- The greatest value of the next byte. -/
  high : Nat
  /-- The number made of the bits read so far. -/
  code : Nat

/-- What a byte does between two characters. -/
inductive LeadByte
  /-- It is a character by itself. -/
  | single (c : Char)
  /-- It begins a longer character. -/
  | opens (p : Pending)
  /-- It can stand at the beginning of no character. -/
  | stray

/-- The part that a byte plays at the beginning of a character. -/
def LeadByte.ofByte (b : Nat) : LeadByte :=
  if b < 0x80 then .single (Char.ofNat b)
  else if 0xc2 ≤ b && b ≤ 0xdf then .opens ⟨1, 0x80, 0xbf, b - 0xc0⟩
  else if b == 0xe0 then .opens ⟨2, 0xa0, 0xbf, 0⟩
  else if b == 0xed then .opens ⟨2, 0x80, 0x9f, 0xd⟩
  else if 0xe1 ≤ b && b ≤ 0xef then .opens ⟨2, 0x80, 0xbf, b - 0xe0⟩
  else if b == 0xf0 then .opens ⟨3, 0x90, 0xbf, 0⟩
  else if 0xf1 ≤ b && b ≤ 0xf3 then .opens ⟨3, 0x80, 0xbf, b - 0xf0⟩
  else if b == 0xf4 then .opens ⟨3, 0x80, 0x8f, 4⟩
  else .stray

/-- The character that stands for bytes that are none. -/
def replacementChar : Char := '\uFFFD'

/-- What a byte at the beginning of a character adds to the text, and what is then
pending. -/
def leadByte (b : Nat) : List Char × Option Pending :=
  match LeadByte.ofByte b with
  | .single c => ([c], none)
  | .opens p => ([], some p)
  | .stray => ([replacementChar], none)

/-- One step of the reader: the characters that a byte completes or breaks off, and
what is then pending. -/
def readByte (state : Option Pending) (b : Nat) : List Char × Option Pending :=
  match state with
  | none => leadByte b
  | some p =>
    if p.low ≤ b && b ≤ p.high then
      let code := p.code * 0x40 + (b - 0x80)
      if p.missing ≤ 1 then ([Char.ofNat code], none)
      else ([], some ⟨p.missing - 1, 0x80, 0xbf, code⟩)
    else
      let (cs, next) := leadByte b
      (replacementChar :: cs, next)

/-- Reads the bytes that follow a pending character. -/
def readBytes : Option Pending → List UInt8 → List Char
  | none, [] => []
  | some _, [] => [replacementChar]
  | state, b :: bs =>
    let (cs, next) := readByte state b.toNat
    cs ++ readBytes next bs

/-- **The text of the bytes**, with a replacement character for each part that is not
UTF-8. -/
def ofBytes (bs : List UInt8) : List Char :=
  readBytes none bs

end Commissioning.Text
