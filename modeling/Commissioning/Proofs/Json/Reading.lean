import Commissioning.Proofs.Json.RoundTrip

/-!
# What reading gives

Two facts about every text that is read as a document, whatever it holds. What is read can be
written again, because no whole number in it has more digits than are read
(`Commissioning.Json.isWritable_of_read`). And a text is beyond measure only if it has more
opening marks than may stand in each other, or more digits than a whole number may have
(`Commissioning.Json.exceeds_of_read`), so no text of moderate length is
(`Commissioning.Json.length_lt_of_read_beyond`).

Both come from one description of what a reader may do with a text, `Commissioning.Json.Fits`:
it gives a value of some kind and leaves an end of the text, or the text is malformed, or it
exceeds the room that there is. Readers that follow each other fit if each of them does
(`Commissioning.Json.Fits.bind`).
-/

namespace Commissioning

theorem natOfDigits_lt {ds : List Char} (h : ∀ c ∈ ds, c.isDigit = true) :
    natOfDigits ds < 10 ^ ds.length := by
  induction ds with
  | nil => decide
  | cons d ds ih =>
    have hds := ih fun c hc => h c (by simp [hc])
    obtain ⟨n, hn, rfl⟩ := exists_digitChar (h d (by simp))
    have hd : natOfDigits [Nat.digitChar n] = n := by
      clear h hds ih
      revert n
      decide
    rw [← List.singleton_append, natOfDigits_append, hd, List.length_append, List.length_singleton,
      Nat.pow_add, Nat.pow_one]
    calc n * 10 ^ ds.length + natOfDigits ds < n * 10 ^ ds.length + 10 ^ ds.length := by omega
      _ = (n + 1) * 10 ^ ds.length := by rw [Nat.add_one_mul]
      _ ≤ 10 * 10 ^ ds.length := Nat.mul_le_mul_right _ hn

/-- **A number has no more digits than it was written with.** -/
theorem length_natChars_natOfDigits_le {ds : List Char} (hne : ds ≠ [])
    (h : ∀ c ∈ ds, c.isDigit = true) : (natChars (natOfDigits ds)).length ≤ ds.length := by
  rw [natChars, Nat.length_toDigits_le_iff (by decide) (List.length_pos_iff.mpr hne)]
  exact natOfDigits_lt h

theorem splitDigits_suffix (cs : List Char) : (splitDigits cs).2 <:+ cs :=
  List.dropWhile_suffix _

theorem splitSign_suffix (cs : List Char) : (splitSign cs).2 <:+ cs := by
  unfold splitSign
  split
  · exact List.suffix_cons ..
  · exact List.suffix_cons ..
  · exact List.suffix_rfl

namespace Json

/-! ### What a reader may do -/

/-- A mark that opens a list or an object. -/
def opens (c : Char) : Bool := c == '{' || c == '['

/-- A text has more opening marks than there is room for, or more digits than a whole number
may have. -/
def Exceeds (room : Nat) (cs : List Char) : Prop :=
  room < cs.countP opens ∨ digitLimit < cs.countP Char.isDigit

theorem Exceeds.mono {room : Nat} {cs ds : List Char} (h : Exceeds room ds) (hds : ds <:+ cs) :
    Exceeds room cs := by
  have hopens := hds.sublist.countP_le (p := opens)
  have hdigits := hds.sublist.countP_le (p := Char.isDigit)
  exact h.imp (fun h => Nat.lt_of_lt_of_le h hopens) fun h => Nat.lt_of_lt_of_le h hdigits

/-- Where there is no room, an opening mark is too much. -/
theorem exceeds_of_opens {c : Char} (hc : opens c = true) (cs : List Char) :
    Exceeds 0 (c :: cs) := by
  refine Or.inl ?_
  rw [List.countP_cons_of_pos hc]
  omega

/-- An opening mark takes up room. -/
theorem Exceeds.cons {room : Nat} {c : Char} {cs : List Char} (hc : opens c = true)
    (h : Exceeds room cs) : Exceeds (room + 1) (c :: cs) := by
  rcases h with h | h
  · refine Or.inl ?_
    rw [List.countP_cons_of_pos hc]
    omega
  · exact Or.inr (Nat.lt_of_lt_of_le h (List.sublist_cons_self ..).countP_le)

/-- **What a reader may do with a text** where there is so much room: give a good value and leave
an end of the text, find it malformed, or find that it exceeds the room. -/
def Fits {α : Type} (good : α → Prop) (room : Nat) (cs : List Char) :
    Except ReadError (α × List Char) → Prop
  | .ok (a, rest) => good a ∧ rest <:+ cs
  | .error (.beyond _) => Exceeds room cs
  | .error (.malformed ..) => True

section Fits

variable {α β : Type} {good : α → Prop} {good' : β → Prop} {room : Nat} {cs ds : List Char}

theorem Fits.mono {r : Except ReadError (α × List Char)} (h : Fits good room ds r)
    (hds : ds <:+ cs) : Fits good room cs r := by
  match r, h with
  | .ok (a, rest), h => exact ⟨h.1, h.2.trans hds⟩
  | .error (.beyond _), h => exact Exceeds.mono h hds
  | .error (.malformed ..), _ => trivial

/-- **Readers that follow each other.** -/
theorem Fits.bind {r : Except ReadError (α × List Char)}
    {f : α × List Char → Except ReadError (β × List Char)} (h : Fits good room cs r)
    (hf : ∀ a rest, good a → rest <:+ cs → Fits good' room rest (f (a, rest))) :
    Fits good' room cs (r >>= f) := by
  match r, h with
  | .ok (a, rest), h => exact (hf a rest h.1 h.2).mono h.2
  | .error (.beyond _), h => exact h
  | .error (.malformed ..), _ => trivial

/-- **Behind an opening mark** there is room for one less. -/
theorem Fits.opened {r : Except ReadError (α × List Char)} (h : Fits good room ds r) {c : Char}
    (hc : opens c = true) (hds : ds <:+ cs) : Fits good (room + 1) (c :: cs) r := by
  match r, h with
  | .ok (a, rest), h => exact ⟨h.1, (h.2.trans hds).trans (List.suffix_cons ..)⟩
  | .error (.beyond _), h => exact Exceeds.cons hc (Exceeds.mono h hds)
  | .error (.malformed ..), _ => trivial

end Fits

/-! ### Texts -/

theorem skipGap_suffix (cs : List Char) : skipGap cs <:+ cs := List.dropWhile_suffix _

/-- What stands behind the mark after a gap. -/
theorem suffix_of_skipGap {c : Char} {cs rest : List Char} (h : skipGap cs = c :: rest) :
    rest <:+ cs := by
  have hgap := skipGap_suffix cs
  rw [h] at hgap
  exact (List.suffix_cons ..).trans hgap

variable {room : Nat} {cs : List Char}

theorem fits_readUnicodeEscape (room : Nat) (cs : List Char) :
    Fits (fun _ => True) room cs (readUnicodeEscape cs) := by
  have hrest : cs.drop 4 <:+ cs := List.drop_suffix ..
  unfold readUnicodeEscape
  dsimp only
  -- Whatever is left stands behind four digits, or behind a second group of them.
  split
  · trivial
  split
  · trivial
  split
  · next cs' hcs' =>
    have hpair : cs'.drop 4 <:+ cs := by
      rw [hcs'] at hrest
      exact ((List.drop_suffix ..).trans ((List.suffix_cons ..).trans (List.suffix_cons ..))).trans
        hrest
    split
    · split
      · trivial
      · split
        · exact ⟨trivial, hpair⟩
        · exact ⟨trivial, hrest⟩
    · exact ⟨trivial, hrest⟩
  · exact ⟨trivial, hrest⟩

theorem fits_readChars (room start : Nat) : ∀ (fuel : Nat) (done : List Sign) (cs : List Char),
    Fits (fun _ => True) room cs (readChars fuel start done cs)
  | 0, _, _ => trivial
  | _ + 1, _, [] => trivial
  | fuel + 1, done, c :: cs => by
    have hcs : cs <:+ c :: cs := List.suffix_cons ..
    rw [readChars.eq_def]
    dsimp only
    split
    · exact ⟨trivial, hcs⟩
    split
    · split
      · trivial
      · next e rest =>
        have hrest : rest <:+ c :: e :: rest := (List.suffix_cons ..).trans hcs
        split
        · have hescape := fits_readUnicodeEscape room rest
          split
          · next err h =>
            rw [h] at hescape
            cases err with
            | beyond _ => exact Exceeds.mono hescape hrest
            | malformed => trivial
          · next sign rest' h =>
            rw [h] at hescape
            exact (fits_readChars room start fuel _ rest').mono (hescape.2.trans hrest)
        · split
          · exact (fits_readChars room start fuel _ rest).mono hrest
          · trivial
    split
    · trivial
    · exact (fits_readChars room start fuel _ cs).mono hcs

theorem fits_readText (room : Nat) (cs : List Char) :
    Fits (fun _ => True) room cs (readText cs) :=
  fits_readChars room _ _ _ cs

/-! ### Numbers -/

/-- The whole part of a number is digits of the text, and what is left is its end. -/
theorem splitWholePart_eq_some {cs whole rest : List Char}
    (h : splitWholePart cs = some (whole, rest)) :
    whole ++ rest = cs ∧ whole ≠ [] ∧ ∀ c ∈ whole, c.isDigit = true := by
  unfold splitWholePart at h
  split at h
  · cases h
  · next c cs =>
    split at h
    · next hzero =>
      obtain ⟨rfl, rfl⟩ := Prod.mk.inj (Option.some.inj h)
      obtain rfl := eq_of_beq hzero
      exact ⟨rfl, by simp, List.forall_mem_singleton.mpr rfl⟩
    split at h
    · next hdigit =>
      have hcs := Option.some.inj h
      obtain ⟨rfl, rfl⟩ := Prod.mk.inj hcs
      refine ⟨List.takeWhile_append_dropWhile, ?_, List.all_eq_true.mp List.all_takeWhile⟩
      rw [List.takeWhile_cons_of_pos hdigit]
      simp
    · cases h

theorem splitFractionPart_suffix (cs : List Char) : (splitFractionPart cs).2 <:+ cs := by
  unfold splitFractionPart
  split
  · next rest =>
    dsimp only
    split
    · exact List.suffix_rfl
    · exact (splitDigits_suffix rest).trans (List.suffix_cons ..)
  · exact List.suffix_rfl

theorem splitExponentPart_suffix (cs : List Char) : (splitExponentPart cs).2 <:+ cs := by
  unfold splitExponentPart
  split
  · exact List.suffix_rfl
  · next c rest =>
    dsimp only
    split
    · split
      · exact List.suffix_rfl
      · exact ((splitDigits_suffix _).trans (splitSign_suffix rest)).trans (List.suffix_cons ..)
    · exact List.suffix_rfl

theorem fits_readUnsigned (room start : Nat) (negative : Bool) (cs : List Char) :
    Fits IsWritable room cs (readUnsigned start negative cs) := by
  unfold readUnsigned
  split
  · trivial
  · next whole rest hwhole =>
    obtain ⟨rfl, hne, hdigits⟩ := splitWholePart_eq_some hwhole
    have hrest : (splitExponentPart (splitFractionPart rest).2).2 <:+ whole ++ rest :=
      ((splitExponentPart_suffix _).trans (splitFractionPart_suffix rest)).trans
        (List.suffix_append ..)
    dsimp only
    split
    · split
      · next hlength =>
        refine ⟨isWritable_int.mpr ?_, hrest⟩
        rw [natAbs_signed]
        exact Nat.le_trans (length_natChars_natOfDigits_le hne hdigits) hlength
      · next hlength =>
        have hcount : whole.countP Char.isDigit = whole.length := List.countP_eq_length.mpr hdigits
        refine Or.inr ?_
        rw [List.countP_append, hcount]
        omega
    · exact ⟨isWritable_float _, hrest⟩

theorem fits_readNumber (room : Nat) (cs : List Char) :
    Fits IsWritable room cs (readNumber cs) := by
  unfold readNumber
  split
  · exact (fits_readUnsigned room _ true _).mono (List.suffix_cons ..)
  · exact fits_readUnsigned room _ false cs

/-! ### Values -/

theorem isWritable_of_readWord? {cs rest : List Char} {j : Json}
    (h : readWord? cs = some (j, rest)) : IsWritable j ∧ rest <:+ cs := by
  obtain ⟨w, hw, hj⟩ := Option.map_eq_some_iff.mp h
  obtain ⟨rfl, rfl⟩ := Prod.mk.inj hj
  have hmem := List.mem_of_find?_eq_some hw
  refine ⟨?_, List.drop_suffix ..⟩
  simp only [words, List.mem_cons, List.not_mem_nil, or_false] at hmem
  rcases hmem with rfl | rfl | rfl | rfl | rfl | rfl <;> rfl

theorem isWritable_put {ms : Members} (h : ∀ m ∈ ms, IsWritable m.2) (name : String) {j : Json}
    (hj : IsWritable j) : ∀ m ∈ ms.put name j, IsWritable m.2 := by
  induction ms with
  | nil => simpa [Assoc.put] using hj
  | cons m ms ih =>
    obtain ⟨k, v⟩ := m
    rw [List.forall_mem_cons] at h
    rw [Assoc.put]
    split
    · exact List.forall_mem_cons.mpr ⟨hj, h.2⟩
    · exact List.forall_mem_cons.mpr ⟨h.1, ih h.2⟩

mutual

/-- **A value** can be written, and fits the room that there is. -/
theorem fits_readValue : ∀ (fuel room : Nat) (cs : List Char),
    Fits IsWritable room cs (readValue fuel room cs)
  | 0, _, _ => trivial
  | _ + 1, _, [] => trivial
  | fuel + 1, room, c :: cs => by
    have hcs : cs <:+ c :: cs := List.suffix_cons ..
    rw [readValue]
    split
    · have htext := (fits_readText room cs).mono hcs
      match readText cs, htext with
      | .ok (t, rest), h => exact ⟨isWritable_looseText t, h.2⟩
      | .error (.beyond _), h => exact h
      | .error (.malformed ..), _ => trivial
    -- An object or a list takes one of the places that are left; without one, its mark is too
    -- many.
    split
    · next hopen =>
      have hopens : opens c = true := by simp [opens, hopen]
      cases room with
      | zero => exact exceeds_of_opens hopens cs
      | succ room =>
        rw [if_neg (Nat.succ_ne_zero room)]
        split
        · next rest hrest => exact ⟨by simp, (suffix_of_skipGap hrest).trans hcs⟩
        · exact (fits_readMembers fuel room [] _ (by simp)).opened hopens (skipGap_suffix cs)
    split
    · next hopen =>
      have hopens : opens c = true := by simp [opens, hopen]
      cases room with
      | zero => exact exceeds_of_opens hopens cs
      | succ room =>
        rw [if_neg (Nat.succ_ne_zero room)]
        split
        · next rest hrest => exact ⟨by simp, (suffix_of_skipGap hrest).trans hcs⟩
        · exact (fits_readItems fuel room [] _ (by simp)).opened hopens (skipGap_suffix cs)
    split
    · next r hword => exact isWritable_of_readWord? hword
    · exact fits_readNumber room (c :: cs)

theorem fits_readMembers : ∀ (fuel room : Nat) (done : Members) (cs : List Char),
    (∀ m ∈ done, IsWritable m.2) → Fits IsWritable room cs (readMembers fuel room done cs)
  | 0, _, _, _, _ => trivial
  | fuel + 1, room, done, cs, hdone => by
    rw [readMembers.eq_def]
    dsimp only
    split
    · next cs =>
      refine Fits.mono (Fits.bind (fits_readText room cs) fun name rest _ _ => ?_)
        (List.suffix_cons ..)
      dsimp only
      split
      · next rest' hcolon =>
        have hvalue : Fits IsWritable room (skipGap rest')
          (readValue fuel room (skipGap rest')) := fits_readValue fuel room _
        refine Fits.mono (Fits.bind hvalue fun value rest'' hj _ => ?_)
          ((skipGap_suffix rest').trans (suffix_of_skipGap hcolon))
        have hput := isWritable_put hdone name.shown hj
        dsimp only
        split
        · next behind hmark => exact ⟨isWritable_obj.mpr hput, suffix_of_skipGap hmark⟩
        · next behind hmark =>
          exact (fits_readMembers fuel room _ _ hput).mono
            ((skipGap_suffix behind).trans (suffix_of_skipGap hmark))
        · trivial
      · trivial
    · trivial

theorem fits_readItems : ∀ (fuel room : Nat) (done : List Json) (cs : List Char),
    (∀ j ∈ done, IsWritable j) → Fits IsWritable room cs (readItems fuel room done cs)
  | 0, _, _, _, _ => trivial
  | fuel + 1, room, done, cs, hdone => by
    rw [readItems]
    refine Fits.bind (fits_readValue fuel room cs) fun value rest hj _ => ?_
    have hmore : ∀ j ∈ value :: done, IsWritable j := List.forall_mem_cons.mpr ⟨hj, hdone⟩
    dsimp only
    split
    · next behind hmark =>
      refine ⟨isWritable_arr.mpr fun j hmem => hmore j (List.mem_reverse.mp hmem), ?_⟩
      exact suffix_of_skipGap hmark
    · next behind hmark =>
      exact (fits_readItems fuel room _ _ hmore).mono
        ((skipGap_suffix behind).trans (suffix_of_skipGap hmark))
    · trivial

end

/-! ### Documents -/

variable {s : String}

/-- **A document** is read like a value that leaves nothing. -/
theorem fits_readDocument (cs : List Char) :
    Fits IsWritable nestingLimit cs ((readDocument cs).map fun j => (j, [])) := by
  unfold readDocument
  split
  · trivial
  · have hvalue := (fits_readValue (2 * cs.length + 1) nestingLimit (skipGap cs)).mono
      (skipGap_suffix cs)
    match readValue (2 * cs.length + 1) nestingLimit (skipGap cs), hvalue with
    | .ok (j, rest), h =>
      simp only [bind, Except.bind]
      split
      · exact ⟨h.1, List.nil_suffix⟩
      · trivial
    | .error (.beyond _), h => exact h
    | .error (.malformed ..), _ => trivial

/-- **What is read can be written again.** -/
theorem isWritable_of_read {j : Json} (h : read s = .ok j) : IsWritable j := by
  have hfits := fits_readDocument s.toList
  rw [← read, h] at hfits
  exact hfits.1

/-- **A text beyond measure** has too many opening marks or too many digits. -/
theorem exceeds_of_read {what : Excess} (h : read s = .error (.beyond what)) :
    Exceeds nestingLimit s.toList := by
  have hfits := fits_readDocument s.toList
  rw [← read, h] at hfits
  exact hfits

/-- **A text beyond measure is long.** -/
theorem length_lt_of_read_beyond {what : Excess} (h : read s = .error (.beyond what)) :
    nestingLimit < s.length := by
  have hlimits : nestingLimit ≤ digitLimit := by decide
  rw [← String.length_toList]
  rcases exceeds_of_read h with h | h
  · exact Nat.lt_of_lt_of_le h List.countP_le_length
  · exact Nat.lt_of_le_of_lt hlimits (Nat.lt_of_lt_of_le h List.countP_le_length)

end Json

end Commissioning
