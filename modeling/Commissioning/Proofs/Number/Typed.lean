import Commissioning.Field.Basic
import Commissioning.Proofs.Number.Digits
import Commissioning.Proofs.Text.Trimming

/-!
# Numerals that only a form puts up with

A field of a form and the reader of typed numerals (`Commissioning.floatOfText?`) read almost the
same texts. The field trims a text of all blanks, where the reader trims it of white space, and it
takes a decimal comma for a point. So there are five characters that a field puts up with in a
numeral and the reader does not (`Commissioning.Field.tolerated`): the comma, and the four
information separators, which are blanks but no white space.

**Without these five the two read the same** (`Commissioning.Field.floatOfText?_of_plain`), and
**with one of them the reader reads nothing** (`Commissioning.Field.floatOfText?_of_tolerated`),
because none of them is part of any numeral. Hence the exact condition under which the number that
a field has checked is the number that is read
(`Commissioning.Field.toBinary64_of_numberOf?`).
-/

namespace Commissioning

namespace Field

/-- The characters that a field puts up with in a numeral, and the reader of typed numerals does
not. -/
def tolerated : List Char := [',', '\x1c', '\x1d', '\x1e', '\x1f']

variable {cs : List Char} {c : Char} {s : String} {x : Binary64} {v : Json}

theorem mem_tolerated_of_separator (h : 0x1c ≤ c.toNat ∧ c.toNat ≤ 0x1f) : c ∈ tolerated := by
  have hcode : c.toNat = 0x1c ∨ c.toNat = 0x1d ∨ c.toNat = 0x1e ∨ c.toNat = 0x1f := by omega
  have hsame : ∀ d : Char, c.toNat = d.toNat → c = d := fun d => Char.toNat_inj.mp
  rcases hcode with h | h | h | h
  · simp [tolerated, hsame '\x1c' h]
  · simp [tolerated, hsame '\x1d' h]
  · simp [tolerated, hsame '\x1e' h]
  · simp [tolerated, hsame '\x1f' h]

/-- Any other blank is white space. -/
theorem isBlank_eq_isWhiteSpace (h : c ∉ tolerated) : Text.isBlank c = Text.isWhiteSpace c := by
  have hseparator : ¬(0x1c ≤ c.toNat ∧ c.toNat ≤ 0x1f) := fun hc =>
    h (mem_tolerated_of_separator hc)
  rw [Text.isBlank]
  simp only [Bool.or_eq_left_iff_imp, Bool.and_eq_true, decide_eq_true_eq]
  exact fun hc => absurd hc hseparator

/-! ### Without them -/

theorem withDecimalPoint_eq_self (h : ∀ c ∈ cs, c ∉ tolerated) : withDecimalPoint cs = cs := by
  refine (List.map_congr_left fun c hc => ?_).trans (List.map_id' cs)
  have hcomma : c ≠ ',' := by
    rintro rfl
    exact h _ hc (by decide)
  rw [if_neg (by simpa using hcomma)]

/-- A digit of any script is no white space. -/
theorem isWhiteSpace_of_digitValue? {v : Nat} (h : Text.digitValue? c = some v) :
    v < 10 ∧ Text.isWhiteSpace c = false := by
  have hruns : ∀ z ∈ Text.decimalZeros, ∀ i < 10,
      Text.isWhiteSpace (Char.ofNat (z + i)) = false := by decide +kernel
  obtain ⟨z, hz, rfl⟩ := Option.map_eq_some_iff.mp h
  have hrange := List.find?_some hz
  simp only [Bool.and_eq_true, decide_eq_true_eq] at hrange
  have hcode : z + (c.toNat - z) = c.toNat := by omega
  have hspace := hruns z (List.mem_of_find?_eq_some hz) (c.toNat - z) (by omega)
  rw [hcode, Char.ofNat_toNat] at hspace
  exact ⟨by omega, hspace⟩

/-- White space is the same in western digits. -/
theorem isWhiteSpace_westernDigit (c : Char) :
    Text.isWhiteSpace (Text.westernDigit c) = Text.isWhiteSpace c := by
  unfold Text.westernDigit
  split
  · next v hv =>
    obtain ⟨hlt, hspace⟩ := isWhiteSpace_of_digitValue? hv
    have hwestern : ∀ v < 10, Text.isWhiteSpace (Nat.digitChar v) = false := by decide
    rw [hspace, hwestern v hlt]
  · rfl

/-- **Without these characters** the field and the reader read the same. -/
theorem floatOfText?_of_plain (h : ∀ c ∈ s.toList, c ∉ tolerated) :
    floatOfText? (String.ofList (withDecimalPoint (Text.trim s.toList))) = floatOfText? s := by
  have htrim : Text.trim s.toList = Text.trimBy Text.isWhiteSpace s.toList :=
    Text.trimBy_congr fun c hc => isBlank_eq_isWhiteSpace (h c hc)
  have hpoint : withDecimalPoint (Text.trim s.toList) = Text.trim s.toList :=
    withDecimalPoint_eq_self fun c hc => h c (Text.mem_of_mem_trimBy hc)
  have hwestern : ∀ cs, Text.trimBy Text.isWhiteSpace (Text.westernDigits cs) =
      Text.westernDigits (Text.trimBy Text.isWhiteSpace cs) :=
    Text.trimBy_map isWhiteSpace_westernDigit
  rw [hpoint, htrim, floatOfText?, floatOfText?, String.toList_ofList, hwestern, hwestern,
    Text.trimBy_trimBy]

/-! ### With one of them -/

/-- A character that is part of no numeral. -/
structure IsForeign (c : Char) : Prop where
  not_digit : c.isDigit = false
  not_sign : c ≠ '+' ∧ c ≠ '-'
  not_mark : c ≠ '.' ∧ c ≠ 'e' ∧ c ≠ 'E' ∧ c ≠ '_'
  not_letter : c.toLower ∉ "infinity".toList ∧ c.toLower ∉ "nan".toList

theorem isForeign_of_mem (h : c ∈ tolerated) : IsForeign c := by
  simp only [tolerated, List.mem_cons, List.not_mem_nil, or_false] at h
  rcases h with rfl | rfl | rfl | rfl | rfl
  all_goals exact ⟨by decide, by decide, by decide, by decide⟩

namespace IsForeign

theorem mem_splitSign (h : IsForeign c) (hc : c ∈ cs) : c ∈ (splitSign cs).2 := by
  unfold splitSign
  split
  · exact List.mem_of_ne_of_mem h.not_sign.2 hc
  · exact List.mem_of_ne_of_mem h.not_sign.1 hc
  · exact hc

theorem mem_splitDigits (h : IsForeign c) (hc : c ∈ cs) : c ∈ (splitDigits cs).2 :=
  Text.mem_dropWhile_of_mem hc h.not_digit

theorem mem_splitFraction (h : IsForeign c) (hc : c ∈ cs) : c ∈ (splitFraction cs).2 := by
  unfold splitFraction
  split
  · exact h.mem_splitDigits (List.mem_of_ne_of_mem h.not_mark.1 hc)
  · exact hc

theorem exponentOf?_eq_none (h : IsForeign c) (hc : c ∈ cs) : exponentOf? cs = none := by
  cases cs with
  | nil => cases hc
  | cons d ds =>
    rw [exponentOf?]
    by_cases hd : (d == 'e' || d == 'E') = true
    · -- What stands behind the mark of an exponent is a sign and digits, and then nothing.
      have hne : c ≠ d := by
        rintro rfl
        simp [h.not_mark.2.1, h.not_mark.2.2.1] at hd
      have hrest := h.mem_splitDigits (h.mem_splitSign (List.mem_of_ne_of_mem hne hc))
      have hnonempty := List.isEmpty_eq_false_iff.mpr (List.ne_nil_of_mem hrest)
      simp only [if_pos hd]
      simp [hnonempty]
    · rw [if_neg hd]

theorem plainFloat?_eq_none (h : IsForeign c) (hc : c ∈ cs) : plainFloat? cs = none := by
  have hsign := h.mem_splitSign hc
  have hlower : c.toLower ∈ (splitSign cs).2.map Char.toLower := List.mem_map_of_mem hsign
  -- A numeral is a decimal or a word, and the character stands in neither.
  have hdecimal : decimalOf? (splitSign cs).2 = none := by
    have hexponent := h.exponentOf?_eq_none (h.mem_splitFraction (h.mem_splitDigits hsign))
    simp only [decimalOf?, hexponent, Option.map_none, ite_self]
  have hinfinity : (splitSign cs).2.map Char.toLower ≠ "infinity".toList := by
    intro hword
    exact h.not_letter.1 (hword ▸ hlower)
  have hinf : (splitSign cs).2.map Char.toLower ≠ "inf".toList := by
    intro hword
    have hmem : c.toLower ∈ "inf".toList := hword ▸ hlower
    exact h.not_letter.1
      (List.mem_of_mem_take (show c.toLower ∈ "infinity".toList.take 3 from hmem))
  have hnan : (splitSign cs).2.map Char.toLower ≠ "nan".toList := by
    intro hword
    exact h.not_letter.2 (hword ▸ hlower)
  rw [plainFloat?]
  simp only [hdecimal, Option.map_none]
  rw [if_neg, if_neg]
  · simpa using hnan
  · simpa using ⟨hinf, hinfinity⟩

/-- Removing underscores leaves it where it is. -/
theorem mem_of_dropSeparatorsAfter (h : IsForeign c) {afterDigit : Bool} {ds : List Char}
    (hc : c ∈ cs) (hds : dropSeparatorsAfter afterDigit cs = some ds) : c ∈ ds := by
  fun_induction dropSeparatorsAfter afterDigit cs generalizing ds with
  | case1 => cases hc
  | case2 afterDigit d rest hdigit ih =>
    obtain ⟨es, hes, rfl⟩ := Option.map_eq_some_iff.mp hds
    rcases List.mem_cons.mp (List.mem_of_ne_of_mem h.not_mark.2.2.2 hc) with rfl | hc
    · exact List.mem_cons_self
    · exact List.mem_cons_of_mem d (ih hc hes)
  | case3 => cases hds
  | case4 => cases hds
  | case5 afterDigit d rest hnot hd ih =>
    obtain ⟨es, hes, rfl⟩ := Option.map_eq_some_iff.mp hds
    rcases List.mem_cons.mp hc with rfl | hc
    · exact List.mem_cons_self
    · exact List.mem_cons_of_mem d (ih hc hes)

end IsForeign

/-- None of them is white space, or a digit of any script. -/
theorem westernDigit_of_mem (h : c ∈ tolerated) :
    Text.westernDigit c = c ∧ Text.isWhiteSpace c = false := by
  simp only [tolerated, List.mem_cons, List.not_mem_nil, or_false] at h
  rcases h with rfl | rfl | rfl | rfl | rfl <;> decide

/-- **With one of these characters** nothing is read. -/
theorem floatOfText?_of_tolerated (hc : c ∈ s.toList) (h : c ∈ tolerated) :
    floatOfText? s = none := by
  obtain ⟨hwestern, hspace⟩ := westernDigit_of_mem h
  have hmem : c ∈ Text.trimBy Text.isWhiteSpace (Text.westernDigits s.toList) :=
    Text.mem_trimBy (List.mem_map.mpr ⟨c, hc, hwestern⟩) hspace
  rw [floatOfText?, Option.bind_eq_none_iff]
  intro ds hds
  have hforeign := isForeign_of_mem h
  exact hforeign.plainFloat?_eq_none (hforeign.mem_of_dropSeparatorsAfter hmem hds)

/-! ### What is checked and what is read -/

/-- None of these characters stands in a text. Other values are not made of characters. -/
def IsPlain : Json → Prop
  | .str s => ∀ c ∈ s.toList, c ∉ tolerated
  | _ => True

/-- The number of a field is finite. -/
theorem isFinite_of_numberOf? (h : numberOf? v = some x) : x.isFinite = true :=
  (Option.filter_eq_some_iff.mp h).2

/-- **The number that a field has checked** is the one that is read, exactly if none of these
characters stands in it; otherwise it is a text that cannot be read. -/
theorem toBinary64_of_numberOf? (h : numberOf? v = some x) :
    (IsPlain v → v.toBinary64 = .ok x) ∧
      (¬IsPlain v → ∃ s, v = .str s ∧ v.toBinary64 = .error (.unreadable s)) := by
  obtain ⟨hcandidate, -⟩ := Option.filter_eq_some_iff.mp h
  cases v with
  | int i =>
    dsimp only at hcandidate
    refine ⟨fun _ => ?_, fun hplain => absurd trivial hplain⟩
    rw [Json.toBinary64, hcandidate, Option.elim_some]
  | float y =>
    obtain rfl := Option.some.inj hcandidate
    exact ⟨fun _ => rfl, fun hplain => absurd trivial hplain⟩
  | str s =>
    dsimp only at hcandidate
    refine ⟨fun hplain => ?_, fun hplain => ⟨s, rfl, ?_⟩⟩
    · rw [floatOfText?_of_plain hplain] at hcandidate
      rw [Json.toBinary64, hcandidate, Option.elim_some]
    · obtain ⟨c, hc, htolerated⟩ : ∃ c ∈ s.toList, c ∈ tolerated := by
        simpa [IsPlain] using hplain
      rw [Json.toBinary64, floatOfText?_of_tolerated hc htolerated, Option.elim_none]
  | null => cases hcandidate
  | bool b => cases hcandidate
  | torn t => cases hcandidate
  | arr items => cases hcandidate
  | obj members => cases hcandidate

end Field

end Commissioning
