import Commissioning.Proofs.Except
import Commissioning.Proofs.Json.Reading

/-!
# The steps of the readers

The readers of values, members and items recurse on a count of steps, and a reader that is out of
steps refuses the text. This is never why a document is refused: the count that reading begins with
is enough for any text, so that more steps would make no difference
(`Commissioning.Json.readDocument_eq`, `Commissioning.Json.Stored.read_eq`). A list takes a step,
and so does its first item, before the second character is looked at; hence two steps for each
character.

The argument is the same for both readers. No reader leaves more than it is given, and whatever
stands behind a mark is shorter; so what is read in the next step takes two steps fewer, or one
fewer if nothing has been read yet.
-/

namespace Commissioning.Json

/-! ### Transmitted documents -/

/-- What is left behind a mark is shorter. -/
theorem length_lt_of_skipGap {c : Char} {cs rest : List Char} (h : skipGap cs = c :: rest) :
    rest.length < cs.length := by
  have hlength := (skipGap_suffix cs).length_le
  rw [h, List.length_cons] at hlength
  omega

theorem length_le_of_readText {cs rest : List Char} {t : LooseText}
    (h : readText cs = .ok (t, rest)) : rest.length ≤ cs.length := by
  have hfits := fits_readText 0 cs
  rw [h] at hfits
  exact hfits.2.length_le

theorem length_le_of_readValue {fuel room : Nat} {cs rest : List Char} {j : Json}
    (h : readValue fuel room cs = .ok (j, rest)) : rest.length ≤ cs.length := by
  have hfits := fits_readValue fuel room cs
  rw [h] at hfits
  exact hfits.2.length_le

mutual

/-- **With steps enough**, the number of steps makes no difference. -/
theorem readValue_congr : ∀ {n m room : Nat} {cs : List Char}, 2 * cs.length ≤ n →
    2 * cs.length ≤ m → readValue n room cs = readValue m room cs
  | n, m, _, [], _, _ => by
    cases n <;> cases m <;> rfl
  | 0, _, _, c :: cs, hn, _ => by simp at hn
  | _ + 1, 0, _, c :: cs, _, hm => by simp at hm
  | n + 1, m + 1, room, c :: cs, hn, hm => by
    have hlength := (skipGap_suffix cs).length_le
    rw [List.length_cons] at hn hm
    rw [readValue, readValue]
    split
    · rfl
    split
    · split
      · rfl
      · split
        · rfl
        · exact readMembers_congr (by omega) (by omega)
    split
    · split
      · rfl
      · split
        · rfl
        · exact readItems_congr (by omega) (by omega)
    rfl

theorem readMembers_congr : ∀ {n m room : Nat} {done : Members} {cs : List Char},
    2 * cs.length + 1 ≤ n → 2 * cs.length + 1 ≤ m →
      readMembers n room done cs = readMembers m room done cs
  | n + 1, m + 1, room, done, cs, hn, hm => by
    rw [readMembers.eq_def, readMembers.eq_def]
    dsimp only
    split
    · next cs =>
      rw [List.length_cons] at hn hm
      refine bind_congr_of_ok fun ⟨name, rest⟩ hname => ?_
      have hrest := length_le_of_readText hname
      dsimp only
      split
      · next behind hcolon =>
        have hbehind := length_lt_of_skipGap hcolon
        have hgap := (skipGap_suffix behind).length_le
        have hvalue : readValue n room (skipGap behind) = readValue m room (skipGap behind) :=
          readValue_congr (by omega) (by omega)
        rw [hvalue]
        refine bind_congr_of_ok fun ⟨value, left⟩ hread => ?_
        have hleft := length_le_of_readValue hread
        dsimp only
        split
        · rfl
        · next more hcomma =>
          have hmore := length_lt_of_skipGap hcomma
          have hlast := (skipGap_suffix more).length_le
          exact readMembers_congr (by omega) (by omega)
        · rfl
      · rfl
    · rfl

theorem readItems_congr : ∀ {n m room : Nat} {done : List Json} {cs : List Char},
    2 * cs.length + 1 ≤ n → 2 * cs.length + 1 ≤ m →
      readItems n room done cs = readItems m room done cs
  | n + 1, m + 1, room, done, cs, hn, hm => by
    have hvalue : readValue n room cs = readValue m room cs :=
      readValue_congr (by omega) (by omega)
    rw [readItems, readItems, hvalue]
    refine bind_congr_of_ok fun ⟨value, rest⟩ hread => ?_
    have hrest := length_le_of_readValue hread
    dsimp only
    split
    · rfl
    · next more hcomma =>
      have hmore := length_lt_of_skipGap hcomma
      have hlast := (skipGap_suffix more).length_le
      exact readItems_congr (by omega) (by omega)
    · rfl

end

/-- **A text** is read in the same way with more steps than it has characters. -/
theorem readChars_congr : ∀ {n m start : Nat} {done : List Sign} {cs : List Char},
    cs.length ≤ n → cs.length ≤ m → readChars n start done cs = readChars m start done cs
  | n, m, _, _, [], _, _ => by
    cases n <;> cases m <;> rfl
  | 0, _, _, _, c :: cs, hn, _ => by simp at hn
  | _ + 1, 0, _, _, c :: cs, _, hm => by simp at hm
  | n + 1, m + 1, start, done, c :: cs, hn, hm => by
    rw [List.length_cons] at hn hm
    rw [readChars.eq_def, readChars.eq_def]
    dsimp only
    split
    · rfl
    split
    · split
      · rfl
      · next e rest =>
        rw [List.length_cons] at hn hm
        split
        · split
          · rfl
          · next ch left hescape =>
            have hfits := fits_readUnicodeEscape 0 rest
            rw [hescape] at hfits
            have hleft := hfits.2.length_le
            exact readChars_congr (by omega) (by omega)
        · split
          · exact readChars_congr (by omega) (by omega)
          · rfl
    split
    · rfl
    · exact readChars_congr (by omega) (by omega)

/-- **The count that a document is read with** is enough: with any greater one, it is read in the
same way. -/
theorem readDocument_eq {cs : List Char} (hmark : ∀ rest, cs ≠ '\uFEFF' :: rest) {fuel : Nat}
    (h : 2 * cs.length ≤ fuel) : readDocument cs =
      (do
        let (value, rest) ← readValue fuel nestingLimit (skipGap cs)
        match skipGap rest with
        | [] => .ok value
        | rest => .error (.malformed .extra rest.length)) := by
  have hgap := (skipGap_suffix cs).length_le
  have hvalue : readValue (2 * cs.length + 1) nestingLimit (skipGap cs) =
      readValue fuel nestingLimit (skipGap cs) := readValue_congr (by omega) (by omega)
  rw [← hvalue]
  exact readDocument.eq_2 cs hmark

/-! ### Stored documents -/

namespace Stored

/-- **A reader leaves no more** than so many characters, if it leaves any. -/
def Leaves {α : Type} (n : Nat) (r : Except ReadError (α × List Char)) : Prop :=
  ∀ a rest, r = .ok (a, rest) → rest.length ≤ n

section Leaves

variable {α β : Type} {n : Nat}

theorem leaves_ok {a : α} {rest : List Char} (h : rest.length ≤ n) :
    Leaves n (.ok (a, rest) : Except ReadError (α × List Char)) := by
  rintro _ _ ⟨⟩
  exact h

theorem leaves_error (e : ReadError) : Leaves n (.error e : Except ReadError (α × List Char)) :=
  nofun

theorem Leaves.mono {r : Except ReadError (α × List Char)} (h : Leaves n r) {m : Nat}
    (hnm : n ≤ m) : Leaves m r := fun a rest hr => Nat.le_trans (h a rest hr) hnm

theorem Leaves.bind {r : Except ReadError (α × List Char)}
    {f : α × List Char → Except ReadError (β × List Char)} (h : Leaves n r)
    (hf : ∀ a rest, rest.length ≤ n → Leaves n (f (a, rest))) : Leaves n (r >>= f) := by
  intro b left hleft
  obtain ⟨⟨a, rest⟩, hr, hfa⟩ := exists_of_bind_eq_ok hleft
  exact hf a rest (h a rest hr) b left hfa

end Leaves

theorem leaves_readUnit (cs : List Char) : Leaves cs.length (readUnit cs) := by
  unfold readUnit
  split
  · exact leaves_error _
  · split
    · exact leaves_ok (List.drop_suffix ..).length_le
    · exact leaves_error _

theorem leaves_readSecondHalf (high : Nat) (cs : List Char) :
    Leaves cs.length (readSecondHalf high cs) := by
  unfold readSecondHalf
  split
  · exact leaves_error _
  · exact leaves_error _
  · next rest =>
    refine Leaves.mono (n := rest.length) ((leaves_readUnit rest).bind fun low left hleft => ?_)
      (by simp; omega)
    dsimp only
    split
    · exact leaves_ok hleft
    · exact leaves_error _
  · exact leaves_error _
  · exact leaves_error _

theorem leaves_readUnicodeEscape (cs : List Char) : Leaves cs.length (readUnicodeEscape cs) := by
  refine (leaves_readUnit cs).bind fun code rest hrest => ?_
  dsimp only
  split
  · exact leaves_error _
  split
  · exact (leaves_readSecondHalf code rest).mono hrest
  · exact leaves_ok hrest

theorem leaves_readChars : ∀ (fuel : Nat) (done cs : List Char),
    Leaves cs.length (readChars fuel done cs)
  | 0, _, _ => leaves_error _
  | _ + 1, _, [] => leaves_error _
  | fuel + 1, done, c :: cs => by
    rw [readChars.eq_def]
    dsimp only
    split
    · exact leaves_ok (by simp)
    split
    · split
      · exact leaves_error _
      · next e rest =>
        split
        · split
          · exact leaves_error _
          · next ch left hescape =>
            have hleft := leaves_readUnicodeEscape rest ch left hescape
            exact (leaves_readChars fuel _ left).mono (by simp; omega)
        · split
          · exact (leaves_readChars fuel _ rest).mono (by simp; omega)
          · exact leaves_error _
    split
    · exact leaves_error _
    · exact (leaves_readChars fuel _ cs).mono (by simp)

theorem leaves_readDigits (cs : List Char) : Leaves cs.length (readDigits cs) := by
  unfold readDigits
  split
  · exact leaves_error _
  · split
    · exact leaves_ok (List.dropWhile_suffix _).length_le
    · exact leaves_error _

theorem leaves_readWholePart (cs : List Char) : Leaves cs.length (readWholePart cs) := by
  unfold readWholePart
  split
  · split
    · exact leaves_error _
    · exact leaves_ok (by simp)
  · refine (leaves_readDigits cs).bind fun ds rest hrest => ?_
    dsimp only
    split
    · exact leaves_error _
    · exact leaves_ok hrest

theorem leaves_readFractionPart (cs : List Char) : Leaves cs.length (readFractionPart cs) := by
  unfold readFractionPart
  split
  · next cs =>
    refine Leaves.mono ((leaves_readDigits cs).bind fun ds rest hrest => ?_) (Nat.le_succ _)
    exact leaves_ok hrest
  · exact leaves_ok (Nat.le_refl _)

theorem leaves_readExponentPart (cs : List Char) : Leaves cs.length (readExponentPart cs) := by
  unfold readExponentPart
  split
  · exact leaves_ok (Nat.le_refl _)
  · next c rest =>
    split
    · refine Leaves.mono ((leaves_readDigits (splitSign rest).2).bind fun ds left hleft => ?_)
        (Nat.le_succ_of_le (splitSign_suffix rest).length_le)
      exact leaves_ok hleft
    · exact leaves_ok (Nat.le_refl _)

theorem leaves_readUnsigned (negative : Bool) (cs : List Char) :
    Leaves cs.length (readUnsigned negative cs) := by
  refine (leaves_readWholePart cs).bind fun whole rest hrest => ?_
  refine ((leaves_readFractionPart rest).mono hrest).bind fun fraction? left hleft => ?_
  refine ((leaves_readExponentPart left).mono hleft).bind fun exponent? behind hbehind => ?_
  dsimp only
  split
  · exact leaves_ok hbehind
  · exact leaves_ok hbehind

theorem leaves_readWord (value : Json) : ∀ (word cs : List Char),
    Leaves cs.length (readWord value word cs)
  | [], _ => leaves_ok (Nat.le_refl _)
  | _ :: _, [] => leaves_error _
  | w :: ws, c :: cs => by
    rw [readWord]
    split
    · exact (leaves_readWord value ws cs).mono (by simp)
    · exact leaves_error _

theorem leaves_readScalar (cs : List Char) : Leaves cs.length (readScalar cs) := by
  unfold readScalar
  split
  · exact leaves_error _
  · next c rest =>
    iterate 5
      split
      · exact leaves_readWord _ _ _
    split
    · split
      · exact (leaves_readWord _ _ rest).mono (by simp)
      · exact (leaves_readUnsigned _ rest).mono (by simp)
    split
    · exact leaves_readUnsigned _ _
    · exact leaves_error _

theorem leaves_readText (cs : List Char) : Leaves cs.length (readText cs) :=
  leaves_readChars _ _ cs

mutual

/-- **No value leaves more** than there was. -/
theorem leaves_readValue : ∀ (fuel room : Nat) (cs : List Char),
    Leaves cs.length (readValue fuel room cs)
  | 0, _, _ => leaves_error _
  | fuel + 1, room, cs => by
    rw [readValue.eq_def]
    dsimp only
    split
    · next rest =>
      intro j left hleft
      cases htext : readText rest with
      | error e =>
        rw [htext] at hleft
        cases hleft
      | ok r =>
        rw [htext] at hleft
        cases hleft
        exact Nat.le_succ_of_le (leaves_readText rest _ _ htext)
    · next rest =>
      have hgap := (skipGap_suffix rest).length_le
      split
      · exact leaves_error _
      · next behind hmark =>
        have hbehind := length_lt_of_skipGap hmark
        exact leaves_ok (by simp; omega)
      · exact (leaves_readItems fuel room [] _).mono (Nat.le_succ_of_le hgap)
    · next rest =>
      split
      · exact leaves_error _
      · next behind hmark =>
        have hbehind := length_lt_of_skipGap hmark
        exact leaves_ok (by simp; omega)
      · next behind hmark =>
        have hbehind := length_lt_of_skipGap hmark
        exact (leaves_readMembers fuel room [] behind).mono (by simp; omega)
      · exact leaves_error _
    · exact leaves_readScalar _

theorem leaves_readItems : ∀ (fuel room : Nat) (done : List Json) (cs : List Char),
    Leaves cs.length (readItems fuel room done cs)
  | 0, _, _, _ => leaves_error _
  | _ + 1, 0, _, _ => leaves_error _
  | fuel + 1, room + 1, done, cs => by
    rw [readItems.eq_def]
    dsimp only
    refine (leaves_readValue fuel room cs).bind fun value rest hrest => ?_
    dsimp only
    split
    · exact leaves_error _
    · next behind hmark =>
      have hbehind := length_lt_of_skipGap hmark
      exact leaves_ok (by omega)
    · next behind hmark =>
      have hbehind := length_lt_of_skipGap hmark
      have hgap := (skipGap_suffix behind).length_le
      split
      · exact leaves_error _
      · exact leaves_error _
      · exact (leaves_readItems fuel (room + 1) _ _).mono (by omega)
    · exact leaves_error _

theorem leaves_readMembers : ∀ (fuel room : Nat) (done : List (String × Json)) (cs : List Char),
    Leaves cs.length (readMembers fuel room done cs)
  | 0, _, _, _ => leaves_error _
  | fuel + 1, room, done, cs => by
    rw [readMembers.eq_def]
    dsimp only
    refine (leaves_readText cs).bind fun name rest hrest => ?_
    dsimp only
    split
    · exact leaves_error _
    · next behind hcolon =>
      have hbehind := length_lt_of_skipGap hcolon
      have hgap := (skipGap_suffix behind).length_le
      split
      · exact leaves_error _
      · exact leaves_error _
      · refine ((leaves_readValue fuel _ _).mono (by omega)).bind fun value left hleft => ?_
        dsimp only
        split
        · exact leaves_error _
        · next more hmark =>
          have hmore := length_lt_of_skipGap hmark
          exact leaves_ok (by omega)
        · next more hmark =>
          have hmore := length_lt_of_skipGap hmark
          split
          · exact leaves_error _
          · next last hquote =>
            have hlast := length_lt_of_skipGap hquote
            exact (leaves_readMembers fuel _ _ last).mono (by omega)
          · exact leaves_error _
          · exact leaves_error _
        · exact leaves_error _
    · exact leaves_error _

end

/-- A text is read in the same way with more steps than it has characters. -/
theorem readChars_congr : ∀ {n m : Nat} {done cs : List Char}, cs.length ≤ n → cs.length ≤ m →
    readChars n done cs = readChars m done cs
  | n, m, _, [], _, _ => by
    cases n <;> cases m <;> rfl
  | 0, _, _, c :: cs, hn, _ => by simp at hn
  | _ + 1, 0, _, c :: cs, _, hm => by simp at hm
  | n + 1, m + 1, done, c :: cs, hn, hm => by
    rw [List.length_cons] at hn hm
    rw [readChars.eq_def, readChars.eq_def]
    dsimp only
    split
    · rfl
    split
    · split
      · rfl
      · next e rest =>
        rw [List.length_cons] at hn hm
        split
        · split
          · rfl
          · next ch left hescape =>
            have hleft := leaves_readUnicodeEscape rest ch left hescape
            exact readChars_congr (by omega) (by omega)
        · split
          · exact readChars_congr (by omega) (by omega)
          · rfl
    split
    · rfl
    · exact readChars_congr (by omega) (by omega)

mutual

/-- **With steps enough**, the number of steps makes no difference here either. -/
theorem readValue_congr : ∀ {n m room : Nat} {cs : List Char}, 2 * cs.length ≤ n →
    2 * cs.length ≤ m → readValue n room cs = readValue m room cs
  | n, m, _, [], _, _ => by
    cases n <;> cases m <;> rfl
  | 0, _, _, c :: cs, hn, _ => by simp at hn
  | _ + 1, 0, _, c :: cs, _, hm => by simp at hm
  | n + 1, m + 1, room, c :: cs, hn, hm => by
    rw [List.length_cons] at hn hm
    rw [readValue.eq_def, readValue.eq_def]
    dsimp only
    split
    · rfl
    · next rest hcs =>
      obtain rfl := (List.cons.inj hcs).2
      have hgap := (skipGap_suffix cs).length_le
      split
      · rfl
      · rfl
      · exact readItems_congr (by omega) (by omega)
    · next rest hcs =>
      obtain rfl := (List.cons.inj hcs).2
      split
      · rfl
      · rfl
      · next behind hmark =>
        have hbehind := length_lt_of_skipGap hmark
        exact readMembers_congr (by omega) (by omega)
      · rfl
    · rfl

theorem readItems_congr : ∀ {n m room : Nat} {done : List Json} {cs : List Char},
    2 * cs.length + 1 ≤ n → 2 * cs.length + 1 ≤ m →
      readItems n room done cs = readItems m room done cs
  | n + 1, m + 1, 0, _, _, _, _ => rfl
  | n + 1, m + 1, room + 1, done, cs, hn, hm => by
    have hvalue : readValue n room cs = readValue m room cs :=
      readValue_congr (by omega) (by omega)
    rw [readItems.eq_def, readItems.eq_def]
    dsimp only
    rw [hvalue]
    refine bind_congr_of_ok fun ⟨value, rest⟩ hread => ?_
    have hrest := leaves_readValue m room cs value rest hread
    dsimp only
    split
    · rfl
    · rfl
    · next behind hmark =>
      have hbehind := length_lt_of_skipGap hmark
      have hgap := (skipGap_suffix behind).length_le
      split
      · rfl
      · rfl
      · exact readItems_congr (by omega) (by omega)
    · rfl

theorem readMembers_congr : ∀ {n m room : Nat} {done : List (String × Json)} {cs : List Char},
    2 * cs.length + 1 ≤ n → 2 * cs.length + 1 ≤ m →
      readMembers n room done cs = readMembers m room done cs
  | n + 1, m + 1, room, done, cs, hn, hm => by
    rw [readMembers.eq_def, readMembers.eq_def]
    dsimp only
    refine bind_congr_of_ok fun ⟨name, rest⟩ hname => ?_
    have hrest := leaves_readText cs name rest hname
    dsimp only
    split
    · rfl
    · next behind hcolon =>
      have hbehind := length_lt_of_skipGap hcolon
      have hgap := (skipGap_suffix behind).length_le
      split
      · rfl
      · rfl
      · next inner _ =>
        have hvalue : readValue n inner (skipGap behind) = readValue m inner (skipGap behind) :=
          readValue_congr (by omega) (by omega)
        rw [hvalue]
        refine bind_congr_of_ok fun ⟨value, left⟩ hread => ?_
        have hleft := leaves_readValue m inner (skipGap behind) value left hread
        dsimp only
        split
        · rfl
        · rfl
        · next more hmark =>
          have hmore := length_lt_of_skipGap hmark
          split
          · rfl
          · next last hquote =>
            have hlast := length_lt_of_skipGap hquote
            exact readMembers_congr (by omega) (by omega)
          · rfl
          · rfl
        · rfl
    · rfl

end

/-- **The count that a stored document is read with** is enough. -/
theorem read_eq (s : String) {fuel : Nat} (h : 2 * s.length ≤ fuel) : read s =
    (do
      let (value, rest) ← readValue fuel depthLimit (skipGap s.toList)
      match skipGap rest with
      | [] => .ok value
      | rest => .error ⟨.extra, rest.length⟩) := by
  have hgap := (skipGap_suffix s.toList).length_le
  have hvalue : readValue (2 * s.toList.length + 1) depthLimit (skipGap s.toList) =
      readValue fuel depthLimit (skipGap s.toList) :=
    readValue_congr (by omega) (by rw [String.length_toList] at hgap; omega)
  rw [← hvalue]
  exact read.eq_1 s

end Stored

end Commissioning.Json
