import Commissioning.Text.Utf8

/-!
# Texts as bytes, read back

The bytes of a text (`Commissioning.Text.toBytes`) are read as that text
(`Commissioning.Text.ofBytes_toBytes`), so the reader replaces nothing that is a text.

A character has one to four bytes. What the first of them opens asks for the other ones, and
the range in which the second must lie holds the second byte of every character: the ranges are
narrow only where a character with fewer bytes, half of a pair or a number beyond all characters
would come out (`Commissioning.Text.ofByte_three`, `Commissioning.Text.ofByte_four`).
-/

namespace Commissioning.Text

/-- **The bytes of a text.** -/
def toBytes (cs : List Char) : List UInt8 := cs.flatMap String.utf8EncodeChar

/-! ### One byte -/

theorem readBytes_cons (state : Option Pending) (b : UInt8) (bs : List UInt8) :
    readBytes state (b :: bs) =
      (readByte state b.toNat).1 ++ readBytes (readByte state b.toNat).2 bs := by
  cases state <;> rfl

/-- The last byte of a character. -/
theorem readByte_last {p : Pending} {b : Nat} (hlow : p.low ≤ b) (hhigh : b ≤ p.high)
    (hlast : p.missing ≤ 1) :
    readByte (some p) b = ([Char.ofNat (p.code * 0x40 + (b - 0x80))], none) := by
  simp [readByte, hlow, hhigh, hlast]

/-- A byte of a character between its first and its last. -/
theorem readByte_inner {p : Pending} {b : Nat} (hlow : p.low ≤ b) (hhigh : b ≤ p.high)
    (hmore : 1 < p.missing) :
    readByte (some p) b =
      ([], some ⟨p.missing - 1, 0x80, 0xbf, p.code * 0x40 + (b - 0x80)⟩) := by
  have hmore' : ¬p.missing ≤ 1 := by omega
  simp [readByte, hlow, hhigh, hmore']

theorem readByte_opens {b : Nat} {p : Pending} (h : LeadByte.ofByte b = .opens p) :
    readByte none b = ([], some p) := by
  rw [readByte, leadByte, h]

/-! ### First bytes -/

variable {v : Nat}

theorem ofByte_one (h : v ≤ 0x7f) : LeadByte.ofByte v = .single (Char.ofNat v) :=
  if_pos (by omega)

theorem ofByte_two (h : 0x7f < v) (h' : v ≤ 0x7ff) :
    LeadByte.ofByte (v / 64 % 0x20 + 0xc0) = .opens ⟨1, 0x80, 0xbf, v / 64⟩ := by
  have hcode : v / 64 % 0x20 + 0xc0 - 0xc0 = v / 64 := by omega
  have hrange : (0xc2 ≤ v / 64 % 0x20 + 0xc0 && v / 64 % 0x20 + 0xc0 ≤ 0xdf) = true := by
    rw [Bool.and_eq_true, decide_eq_true_iff, decide_eq_true_iff]
    omega
  rw [LeadByte.ofByte, if_neg (by omega), if_pos hrange, hcode]

/-- The second of three bytes lies in the range for it. -/
theorem ofByte_three (h : 0x7ff < v) (h' : v ≤ 0xffff) (hpair : v < 0xd800 ∨ 0xdfff < v) :
    ∃ low high, LeadByte.ofByte (v / 4096 % 0x10 + 0xe0) = .opens ⟨2, low, high, v / 4096⟩ ∧
      low ≤ v / 64 % 0x40 + 0x80 ∧ v / 64 % 0x40 + 0x80 ≤ high := by
  obtain ⟨lead, hlead⟩ : ∃ lead, v / 4096 = lead := ⟨_, rfl⟩
  have hlead' : lead < 16 := by omega
  have hmod : lead % 0x10 = lead := Nat.mod_eq_of_lt hlead'
  rw [hlead, hmod]
  by_cases hshort : lead = 0
  · subst hshort
    exact ⟨0xa0, 0xbf, rfl, by omega, by omega⟩
  by_cases hhalf : lead = 13
  · subst hhalf
    exact ⟨0x80, 0x9f, rfl, by omega, by omega⟩
  · refine ⟨0x80, 0xbf, ?_, by omega, by omega⟩
    simp only [LeadByte.ofByte, Bool.and_eq_true, decide_eq_true_eq, beq_iff_eq]
    rw [if_neg (by omega), if_neg (by omega), if_neg (by omega), if_neg (by omega),
      if_pos (by omega), Nat.add_sub_cancel]

/-- The second of four bytes lies in the range for it. -/
theorem ofByte_four (h : 0xffff < v) (h' : v < 0x110000) :
    ∃ low high, LeadByte.ofByte (v / 262144 % 0x08 + 0xf0) = .opens ⟨3, low, high, v / 262144⟩ ∧
      low ≤ v / 4096 % 0x40 + 0x80 ∧ v / 4096 % 0x40 + 0x80 ≤ high := by
  obtain ⟨lead, hlead⟩ : ∃ lead, v / 262144 = lead := ⟨_, rfl⟩
  have hlead' : lead < 5 := by omega
  have hmod : lead % 0x08 = lead := Nat.mod_eq_of_lt (by omega)
  rw [hlead, hmod]
  by_cases hshort : lead = 0
  · subst hshort
    exact ⟨0x90, 0xbf, rfl, by omega, by omega⟩
  by_cases hlast : lead = 4
  · subst hlast
    exact ⟨0x80, 0x8f, rfl, by omega, by omega⟩
  · refine ⟨0x80, 0xbf, ?_, by omega, by omega⟩
    simp only [LeadByte.ofByte, Bool.and_eq_true, decide_eq_true_eq, beq_iff_eq]
    rw [if_neg (by omega), if_neg (by omega), if_neg (by omega), if_neg (by omega),
      if_neg (by omega), if_neg (by omega), if_pos (by omega), Nat.add_sub_cancel]

/-! ### Characters and texts -/

/-- A small number as a byte. -/
theorem toNat_byte (h : v < 256) : (UInt8.ofNat v).toNat = v := by
  rw [UInt8.toNat_ofNat', Nat.mod_eq_of_lt h]

/-- **The bytes of a character** are read as that character, whatever follows. -/
theorem readBytes_character (c : Char) (bs : List UInt8) :
    readBytes none (String.utf8EncodeChar c ++ bs) = c :: readBytes none bs := by
  obtain ⟨v, hv⟩ : ∃ v, c.val.toNat = v := ⟨_, rfl⟩
  have hvalid : v < 0xd800 ∨ 0xdfff < v ∧ v < 0x110000 := hv ▸ c.valid
  have hchar : ∀ n, n = v → Char.ofNat n = c := by
    rintro n rfl
    rw [← hv]
    exact Char.ofNat_toNat c
  simp only [String.utf8EncodeChar, hv]
  split
  · next h1 =>
    rw [List.singleton_append, readBytes_cons, toNat_byte (by omega)]
    rw [readByte, leadByte, ofByte_one h1, hchar v rfl]
    rfl
  split
  · next h1 h2 =>
    have hlead := readByte_opens (ofByte_two (by omega) h2)
    simp only [List.cons_append, List.nil_append, readBytes_cons]
    rw [toNat_byte (by omega), toNat_byte (by omega), hlead,
      readByte_last (by dsimp only; omega) (by dsimp only; omega) (by dsimp only; omega),
      hchar _ (by dsimp only; omega)]
    rfl
  split
  · next h1 h2 h3 =>
    obtain ⟨low, high, hopens, hlow, hhigh⟩ := ofByte_three (by omega) h3 (by omega)
    have hlead := readByte_opens hopens
    simp only [List.cons_append, List.nil_append, readBytes_cons]
    rw [toNat_byte (by omega), toNat_byte (by omega), toNat_byte (by omega), hlead,
      readByte_inner hlow hhigh (by dsimp only; omega),
      readByte_last (by dsimp only; omega) (by dsimp only; omega) (by dsimp only; omega),
      hchar _ (by dsimp only; omega)]
    rfl
  · next h1 h2 h3 =>
    obtain ⟨low, high, hopens, hlow, hhigh⟩ := ofByte_four (v := v) (by omega) (by omega)
    have hlead := readByte_opens hopens
    simp only [List.cons_append, List.nil_append, readBytes_cons]
    rw [toNat_byte (by omega), toNat_byte (by omega), toNat_byte (by omega),
      toNat_byte (by omega), hlead, readByte_inner hlow hhigh (by dsimp only; omega),
      readByte_inner (by dsimp only; omega) (by dsimp only; omega) (by dsimp only; omega),
      readByte_last (by dsimp only; omega) (by dsimp only; omega) (by dsimp only; omega),
      hchar _ (by dsimp only; omega)]
    rfl

/-- **The bytes of a text are read as that text.** -/
theorem ofBytes_toBytes (cs : List Char) : ofBytes (toBytes cs) = cs := by
  unfold ofBytes toBytes
  induction cs with
  | nil => rfl
  | cons c cs ih => rw [List.flatMap_cons, readBytes_character, ih]

end Commissioning.Text
