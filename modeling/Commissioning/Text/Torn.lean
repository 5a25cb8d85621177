import Commissioning.Text.Encoding
import Commissioning.Text.Hexadecimal

/-!
# Texts with halves of a pair

A document may name the two halves of a pair of surrogates apart from each other, and so
name one that has no other. A half is no character, and no encoding has bytes for it; yet a
text of it can be read and handed on, and only where bytes are wanted does it turn out that
there are none.

Such a text is a list of signs (`Commissioning.Sign`), at least one of which is a half
(`Commissioning.TornText`). Most texts are whole, and a text that may be either is a
`Commissioning.LooseText`. Where a torn text has to stand for a whole one, it does so with
U+FFFD for each half (`Commissioning.TornText.shown`).
-/

namespace Commissioning

/-- Half of a pair of surrogates that stands alone. -/
structure Half where
  /-- The unit. -/
  unit : Nat
  /-- It is the first or the second half of a pair. -/
  isHalf : (Text.isHighSurrogate unit || Text.isLowSurrogate unit) = true
deriving DecidableEq, Repr

/-- A sign of a text. -/
inductive Sign where
  /-- A character. -/
  | char (c : Char)
  /-- Half of a pair that stands alone. -/
  | half (h : Half)
deriving DecidableEq, Repr

namespace Sign

/-- The sign of a code point. -/
def ofCode (n : Nat) : Sign :=
  if h : (Text.isHighSurrogate n || Text.isLowSurrogate n) = true then .half ⟨n, h⟩
  else .char (Char.ofNat n)

/-- Whether a sign is half of a pair. -/
def isHalf : Sign → Bool
  | .char _ => false
  | .half _ => true

/-- The character that is shown for a sign. -/
def shown : Sign → Char
  | .char c => c
  | .half _ => Text.replacementChar

end Sign

/-- A text with half of a pair in it. -/
structure TornText where
  /-- The signs, in order. -/
  signs : List Sign
  /-- One of them is half of a pair. -/
  isTorn : signs.any Sign.isHalf = true
deriving DecidableEq, Repr

namespace TornText

/-- A torn text as it is shown. -/
def shown (t : TornText) : String := String.ofList (t.signs.map Sign.shown)

/-- The half is shown. -/
theorem replacementChar_mem (t : TornText) : Text.replacementChar ∈ t.signs.map Sign.shown := by
  obtain ⟨s, hs, hhalf⟩ := List.any_eq_true.mp t.isTorn
  cases s with
  | char c => cases hhalf
  | half h => exact List.mem_map_of_mem hs

/-- The halves that stand first in the text, one behind the other. -/
def firstHalves (t : TornText) : List Sign :=
  (t.signs.dropWhile fun s => !s.isHalf).takeWhile Sign.isHalf

/-- How many characters stand in front of them. -/
def offset (t : TornText) : Nat := (t.signs.takeWhile fun s => !s.isHalf).length

/-- The halves that stand first and their place, in words. -/
def halvesText (t : TornText) : String :=
  match t.firstHalves with
  | [.half h] =>
    let digits := String.ofList (Text.hexadecimal 4 h.unit)
    s!"character '\\u{digits}' in position {t.offset}"
  | halves => s!"characters in position {t.offset}-{t.offset + halves.length - 1}"

end TornText

/-- A text that may have halves of pairs in it. -/
inductive LooseText where
  /-- A text of characters. -/
  | whole (s : String)
  /-- A text with half of a pair in it. -/
  | torn (t : TornText)
deriving DecidableEq, Repr, Inhabited

namespace LooseText

instance : Coe String LooseText := ⟨.whole⟩

/-- The text of signs. -/
def ofSigns (signs : List Sign) : LooseText :=
  if h : signs.any Sign.isHalf = true then .torn ⟨signs, h⟩
  else .whole (String.ofList (signs.map Sign.shown))

/-- A text as it is shown. -/
def shown : LooseText → String
  | .whole s => s
  | .torn t => t.shown

/-- What is torn, if the text is. -/
def torn? : LooseText → Option TornText
  | .whole _ => none
  | .torn t => some t

/-- Signs that are characters make a whole text. -/
theorem ofSigns_map_char (cs : List Char) :
    ofSigns (cs.map .char) = .whole (String.ofList cs) := by
  have hnone : ¬ (cs.map Sign.char).any Sign.isHalf = true := by simp [Sign.isHalf]
  rw [ofSigns, dif_neg hnone, List.map_map]
  simp [Function.comp_def, Sign.shown]

end LooseText

end Commissioning
