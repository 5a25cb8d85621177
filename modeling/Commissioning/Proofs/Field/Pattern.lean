import Commissioning.Field.Step
import Commissioning.SerialNumber.Schema
import Mathlib.Data.List.Forall2

/-!
# What a pattern accepts

**A text follows a pattern exactly if it can be cut into pieces, one for each part**, each with as
many characters as its part allows, all of them of its class
(`Commissioning.Pattern.accepts_iff`). The matcher tries the places at which a piece may end from
the front, and so it finds a cut if there is one; what it has read so far is all it needs to know of
a piece (`Commissioning.Pattern.acceptsFrom_iff`).

From this the three patterns of the forms are read off: a serial number
(`Commissioning.accepts_serialNumber_iff`), a postal code (`Commissioning.accepts_zip_iff`) and a
mail address (`Commissioning.accepts_email_iff`).
-/

namespace Commissioning

namespace Pattern

variable {part : Part} {parts : List Part} {rest : List Char → Bool} {cs : List Char} {n : Nat}

/-- A part may be repeated so many times. -/
def Repetition.Allows : Repetition → Nat → Prop
  | .once, n => n = 1
  | .some, n => 1 ≤ n
  | .exactly m, n => n = m
  | .between least most, n => least ≤ n ∧ n ≤ most

/-- A piece of a text is what a part of a pattern says. -/
structure Part.Matches (part : Part) (piece : List Char) : Prop where
  length : part.repetition.Allows piece.length
  chars : ∀ c ∈ piece, part.glyph.has c = true

/-- Repetitions are allowed if there are enough, and each of them might still be made. -/
theorem Repetition.allows_iff (r : Repetition) (n : Nat) :
    r.Allows n ↔ r.least ≤ n ∧ ∀ k < n, r.mayExceed k = true := by
  have hlast : ∀ m, (∀ k < n, k < m) ↔ n ≤ m := fun m =>
    ⟨fun h => Nat.le_of_not_lt fun hlt => Nat.lt_irrefl m (h m hlt),
      fun h k hk => Nat.lt_of_lt_of_le hk h⟩
  cases r with
  | once => simp only [Allows, least, mayExceed, decide_eq_true_eq, hlast]; omega
  | some => simp [Allows, least, mayExceed]
  | exactly m => simp only [Allows, least, mayExceed, decide_eq_true_eq, hlast]; omega
  | between least most => simp only [Allows, Repetition.least, mayExceed, decide_eq_true_eq, hlast]

/-- **From inside a piece** of which `n` characters have been read, the matcher looks for its
end. -/
theorem acceptsFrom_iff :
    acceptsFrom part rest n cs = true ↔ ∃ piece others, cs = piece ++ others ∧
      (∀ c ∈ piece, part.glyph.has c = true) ∧
      (∀ k < piece.length, part.repetition.mayExceed (n + k) = true) ∧
      part.repetition.least ≤ n + piece.length ∧ rest others = true := by
  induction cs generalizing n with
  | nil =>
    rw [acceptsFrom, Bool.and_eq_true, decide_eq_true_eq]
    constructor
    · rintro ⟨hleast, hrest⟩
      exact ⟨[], [], rfl, by simp, by simp, hleast, hrest⟩
    · rintro ⟨piece, others, hcs, -, -, hleast, hrest⟩
      obtain ⟨rfl, rfl⟩ := List.append_eq_nil_iff.mp hcs.symm
      exact ⟨hleast, hrest⟩
  | cons c cs ih =>
    rw [acceptsFrom, Bool.or_eq_true, Bool.and_eq_true, Bool.and_eq_true, Bool.and_eq_true,
      decide_eq_true_eq, ih]
    constructor
    · rintro (⟨hleast, hrest⟩ | ⟨⟨hmore, hc⟩, piece, others, rfl, hchars, hmay, hleast, hrest⟩)
      · exact ⟨[], c :: cs, rfl, by simp, by simp, hleast, hrest⟩
      · refine ⟨c :: piece, others, rfl, List.forall_mem_cons.mpr ⟨hc, hchars⟩, ?_, ?_, hrest⟩
        · rintro (_ | k) hk
          · exact hmore
          · have hnext := hmay k (by simpa using hk)
            rwa [Nat.add_assoc, Nat.add_comm 1 k] at hnext
        · rw [List.length_cons]
          omega
    · rintro ⟨piece, others, hcs, hchars, hmay, hleast, hrest⟩
      -- Either the piece ends here, or the character belongs to it.
      cases piece with
      | nil => exact Or.inl ⟨hleast, hcs ▸ hrest⟩
      | cons d piece =>
        obtain ⟨rfl, rfl⟩ := List.cons.inj hcs
        rw [List.forall_mem_cons] at hchars
        refine Or.inr ⟨⟨hmay 0 (by simp), hchars.1⟩, piece, others, rfl, hchars.2, ?_, ?_, hrest⟩
        · intro k hk
          have hnext := hmay (k + 1) (by simpa using hk)
          rwa [← Nat.add_assoc, Nat.add_right_comm] at hnext
        · rw [List.length_cons] at hleast
          omega

theorem acceptsParts_cons_iff :
    acceptsParts (part :: parts) cs = true ↔
      ∃ piece others, cs = piece ++ others ∧ part.Matches piece ∧
        acceptsParts parts others = true := by
  rw [acceptsParts, acceptsFrom_iff]
  simp only [Nat.zero_add]
  constructor
  · rintro ⟨piece, others, hcs, hchars, hmay, hleast, hrest⟩
    exact ⟨piece, others, hcs, ⟨(part.repetition.allows_iff _).mpr ⟨hleast, hmay⟩, hchars⟩, hrest⟩
  · rintro ⟨piece, others, hcs, ⟨hlength, hchars⟩, hrest⟩
    obtain ⟨hleast, hmay⟩ := (part.repetition.allows_iff _).mp hlength
    exact ⟨piece, others, hcs, hchars, hmay, hleast, hrest⟩

/-- **What a pattern accepts**: a text that can be cut into pieces, one for each part. -/
theorem accepts_iff {p : Pattern} :
    p.accepts cs = true ↔
      ∃ pieces, List.Forall₂ Part.Matches p.parts pieces ∧ cs = pieces.flatten := by
  obtain ⟨parts⟩ := p
  rw [accepts]
  dsimp only
  induction parts generalizing cs with
  | nil =>
    rw [acceptsParts, List.isEmpty_iff]
    constructor
    · rintro rfl
      exact ⟨[], .nil, rfl⟩
    · rintro ⟨pieces, ⟨⟩, rfl⟩
      rfl
  | cons part parts ih =>
    rw [acceptsParts_cons_iff]
    constructor
    · rintro ⟨piece, others, rfl, hpiece, hothers⟩
      obtain ⟨pieces, hpieces, rfl⟩ := ih.mp hothers
      exact ⟨piece :: pieces, .cons hpiece hpieces, rfl⟩
    · rintro ⟨pieces, hpieces, rfl⟩
      obtain _ | ⟨hpiece, hpieces⟩ := hpieces
      exact ⟨_, _, rfl, hpiece, ih.mpr ⟨_, hpieces, rfl⟩⟩

/-- A pattern of one part. -/
theorem accepts_single_iff : accepts ⟨[part]⟩ cs = true ↔ part.Matches cs := by
  rw [accepts_iff]
  constructor
  · rintro ⟨pieces, hpieces, rfl⟩
    obtain _ | ⟨hpiece, ⟨⟩⟩ := hpieces
    simpa using hpiece
  · intro h
    exact ⟨[cs], .cons h .nil, by simp⟩

end Pattern

/-! ### The patterns of the forms -/

/-- A text of ten to twenty western letters and digits. -/
structure IsSerialNumber (cs : List Char) : Prop where
  length : 10 ≤ cs.length ∧ cs.length ≤ 20
  chars : ∀ c ∈ cs, c.isAlphanum = true

/-- A text of four or five western digits. -/
structure IsZip (cs : List Char) : Prop where
  length : 4 ≤ cs.length ∧ cs.length ≤ 5
  chars : ∀ c ∈ cs, c.isDigit = true

/-- A part of a mail address: some characters, but no at sign and no blank. -/
structure IsAddressPart (cs : List Char) : Prop where
  nonempty : cs ≠ []
  chars : ∀ c ∈ cs, c ≠ '@' ∧ Text.isBlank c = false

/-- A mail address: a part, an at sign, and two parts with a point between them. -/
def IsEmail (cs : List Char) : Prop :=
  ∃ name domain top, cs = name ++ '@' :: domain ++ '.' :: top ∧
    IsAddressPart name ∧ IsAddressPart domain ∧ IsAddressPart top

variable {cs : List Char}

theorem range_has {first last : Char} (c : Char) :
    Pattern.Member.has (.range first last) c = true ↔ first ≤ c ∧ c ≤ last := by
  rw [Pattern.Member.has, Bool.and_eq_true, decide_eq_true_eq, decide_eq_true_eq]
  exact Iff.rfl

theorem isUpper_iff (c : Char) : c.isUpper = true ↔ 'A' ≤ c ∧ c ≤ 'Z' :=
  decide_eq_true_iff

theorem isLower_iff (c : Char) : c.isLower = true ↔ 'a' ≤ c ∧ c ≤ 'z' :=
  Bool.and_eq_true_iff.trans (and_congr decide_eq_true_iff decide_eq_true_iff)

theorem isDigit_iff (c : Char) : c.isDigit = true ↔ '0' ≤ c ∧ c ≤ '9' :=
  Bool.and_eq_true_iff.trans (and_congr decide_eq_true_iff decide_eq_true_iff)

theorem isAlphanum_iff (c : Char) :
    c.isAlphanum = true ↔
      '0' ≤ c ∧ c ≤ '9' ∨ 'A' ≤ c ∧ c ≤ 'Z' ∨ 'a' ≤ c ∧ c ≤ 'z' := by
  change ((c.isUpper || c.isLower) || c.isDigit) = true ↔ _
  rw [Bool.or_eq_true, Bool.or_eq_true, isUpper_iff, isLower_iff, isDigit_iff]
  exact or_comm

theorem has_alphanum (c : Char) :
    Pattern.Glyph.has (.oneOf false [.range '0' '9', .range 'A' 'Z', .range 'a' 'z']) c =
      c.isAlphanum := by
  rw [Bool.eq_iff_iff, isAlphanum_iff]
  simp only [Pattern.Glyph.has, List.any_cons, List.any_nil, Bool.or_false, bne_iff_ne, ne_eq,
    Bool.not_eq_false, Bool.or_eq_true, range_has]

theorem accepts_serialNumber_iff : serialNumberPattern.accepts cs = true ↔ IsSerialNumber cs := by
  rw [serialNumberPattern, Pattern.accepts_single_iff]
  constructor
  · rintro ⟨hlength, hchars⟩
    exact ⟨hlength, fun c hc => has_alphanum c ▸ hchars c hc⟩
  · rintro ⟨hlength, hchars⟩
    exact ⟨hlength, fun c hc => (has_alphanum c).trans (hchars c hc)⟩

theorem has_digit (c : Char) :
    Pattern.Glyph.has (.oneOf false [.range '0' '9']) c = c.isDigit := by
  rw [Bool.eq_iff_iff, isDigit_iff]
  simp only [Pattern.Glyph.has, List.any_cons, List.any_nil, Bool.or_false, bne_iff_ne, ne_eq,
    Bool.not_eq_false, range_has]

theorem accepts_zip_iff : zipPattern.accepts cs = true ↔ IsZip cs := by
  rw [zipPattern, Pattern.accepts_single_iff]
  constructor
  · rintro ⟨hlength, hchars⟩
    exact ⟨hlength, fun c hc => has_digit c ▸ hchars c hc⟩
  · rintro ⟨hlength, hchars⟩
    exact ⟨hlength, fun c hc => (has_digit c).trans (hchars c hc)⟩

theorem matches_addressPart_iff : addressPart.Matches cs ↔ IsAddressPart cs := by
  have hhas : ∀ c, addressPart.glyph.has c = true ↔ c ≠ '@' ∧ Text.isBlank c = false := by
    intro c
    rw [addressPart, Pattern.Glyph.has, List.any_cons, List.any_cons, List.any_nil, Bool.or_false,
      Pattern.Member.has, Pattern.Member.has, bne_iff_ne, Ne, Bool.not_eq_true,
      Bool.or_eq_false_iff, beq_eq_false_iff_ne, ne_comm]
  constructor
  · rintro ⟨hlength, hchars⟩
    exact ⟨List.ne_nil_of_length_pos hlength, fun c hc => (hhas c).mp (hchars c hc)⟩
  · rintro ⟨hnonempty, hchars⟩
    exact ⟨List.length_pos_of_ne_nil hnonempty, fun c hc => (hhas c).mpr (hchars c hc)⟩

theorem matches_literal_iff {a : Char} :
    Pattern.Part.Matches ⟨.literal a, .once⟩ cs ↔ cs = [a] := by
  constructor
  · rintro ⟨hlength, hchars⟩
    obtain ⟨c, rfl⟩ := List.length_eq_one_iff.mp hlength
    obtain rfl : a = c := eq_of_beq (hchars c List.mem_cons_self)
    rfl
  · rintro rfl
    exact ⟨rfl, fun c hc => List.mem_singleton.mp hc ▸ beq_self_eq_true a⟩

theorem accepts_email_iff : emailPattern.accepts cs = true ↔ IsEmail cs := by
  rw [Pattern.accepts_iff]
  constructor
  · rintro ⟨pieces, hpieces, rfl⟩
    obtain _ | ⟨hname, _ | ⟨hat, _ | ⟨hdomain, _ | ⟨hpoint, _ | ⟨htop, ⟨⟩⟩⟩⟩⟩⟩ := hpieces
    obtain rfl := matches_literal_iff.mp hat
    obtain rfl := matches_literal_iff.mp hpoint
    exact ⟨_, _, _, by simp, matches_addressPart_iff.mp hname, matches_addressPart_iff.mp hdomain,
      matches_addressPart_iff.mp htop⟩
  · rintro ⟨name, domain, top, rfl, hname, hdomain, htop⟩
    refine ⟨[name, ['@'], domain, ['.'], top], ?_, by simp⟩
    exact .cons (matches_addressPart_iff.mpr hname) (.cons (matches_literal_iff.mpr rfl)
      (.cons (matches_addressPart_iff.mpr hdomain) (.cons (matches_literal_iff.mpr rfl)
        (.cons (matches_addressPart_iff.mpr htop) .nil))))

end Commissioning
