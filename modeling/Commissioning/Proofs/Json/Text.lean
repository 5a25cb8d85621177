import Commissioning.Json.Stored
import Commissioning.Json.Writer

/-!
# Texts in documents, written and read back

A character stands in a quoted text in one of three ways
(`Commissioning.Json.StandsFor`): as itself, behind a backslash, or as four hexadecimal
digits. Each of the two readers takes one such group for the character that was written
(`Commissioning.Json.readChars_step`, `Commissioning.Json.Stored.readChars_step`), and so
reads the whole text back (`Commissioning.Json.readText_flatMap`,
`Commissioning.Json.Stored.readText_flatMap`).
-/

namespace Commissioning

namespace Json

/-! ### How a character is written -/

/-- The characters that stand for a character in a quoted text. -/
inductive StandsFor (c : Char) : List Char → Prop
  /-- The character itself. -/
  | plain (hquote : c ≠ '"') (hslash : c ≠ '\\') (hcontrol : 0x20 ≤ c.toNat) : StandsFor c [c]
  /-- A backslash and a letter. -/
  | letter {e : Char} (hu : e ≠ 'u') (he : escapedChar? e = some c) : StandsFor c ['\\', e]
  /-- A backslash and four hexadecimal digits of one byte each. -/
  | code {ds : List Char} (hlength : ds.length = 4) (hbytes : ∀ d ∈ ds, d.utf8Size = 1)
      (hds : Text.hexNumber? ds = some c.toNat) (hc : c.toNat < 0x20) :
      StandsFor c ('\\' :: 'u' :: ds)

/-- The hexadecimal digits of a control character. -/
theorem code_digits : ∀ n < 0x20,
    (∀ d ∈ ['0', '0', Nat.digitChar (n / 16), Nat.digitChar (n % 16)], d.utf8Size = 1) ∧
      Text.hexNumber? ['0', '0', Nat.digitChar (n / 16), Nat.digitChar (n % 16)] = some n := by
  have hsize : ∀ n < 0x20, (Nat.digitChar (n / 16)).utf8Size = 1 ∧
      (Nat.digitChar (n % 16)).utf8Size = 1 := by decide
  have hnumber : ∀ n < 0x20, decide (Text.hexNumber?
      ['0', '0', Nat.digitChar (n / 16), Nat.digitChar (n % 16)] = some n) = true := by decide
  intro n hn
  refine ⟨fun d hd => ?_, of_decide_eq_true (hnumber n hn)⟩
  simp only [List.mem_cons, List.not_mem_nil, or_false] at hd
  rcases hd with rfl | rfl | rfl | rfl
  · rfl
  · rfl
  · exact (hsize n hn).1
  · exact (hsize n hn).2

/-- **Every character is written so that something stands for it.** -/
theorem standsFor_writtenChar (c : Char) : StandsFor c (writtenChar c) := by
  unfold writtenChar
  split
  · next h =>
    refine .letter ?_ ?_
    · rintro rfl
      exact absurd h (by decide)
    · rcases Bool.or_eq_true_iff.mp h with h | h <;> obtain rfl := eq_of_beq h <;> rfl
  next hmark =>
  split
  · next h => exact .letter (by decide) (by obtain rfl := eq_of_beq h; rfl)
  split
  · next h => exact .letter (by decide) (by obtain rfl := eq_of_beq h; rfl)
  split
  · next h => exact .letter (by decide) (by obtain rfl := eq_of_beq h; rfl)
  split
  · next h => exact .letter (by decide) (by obtain rfl := eq_of_beq h; rfl)
  split
  · next h => exact .letter (by decide) (by obtain rfl := eq_of_beq h; rfl)
  split
  · next h =>
    obtain ⟨hbytes, hds⟩ := code_digits c.toNat h
    exact .code rfl hbytes hds h
  · next h =>
    have hne : c ≠ '"' ∧ c ≠ '\\' := by simpa using hmark
    exact .plain hne.1 hne.2 (by omega)

/-- A written text is the opening mark, its characters and the closing mark. -/
theorem writtenText_append (s : String) (rest : List Char) :
    writtenText s ++ rest = '"' :: (s.toList.flatMap writtenChar ++ '"' :: rest) := by
  simp [writtenText]

/-- At least one character stands for a character. -/
theorem StandsFor.length_pos {c : Char} {cs : List Char} (h : StandsFor c cs) : 0 < cs.length := by
  cases h <;> simp

/-- A control character is no half of a pair. -/
theorem isSurrogate_of_lt {c : Char} (h : c.toNat < 0x20) :
    Text.isHighSurrogate c.toNat = false ∧ Text.isLowSurrogate c.toNat = false := by
  constructor
  · simp [Text.isHighSurrogate]
    omega
  · simp [Text.isLowSurrogate]
    omega

theorem ofCode_of_lt {c : Char} (h : c.toNat < 0x20) : Sign.ofCode c.toNat = .char c := by
  obtain ⟨hhigh, hlow⟩ := isSurrogate_of_lt h
  rw [Sign.ofCode, dif_neg (by rw [hhigh, hlow]; decide), Char.ofNat_toNat]

/-- What is written for some characters is no shorter than they are. -/
theorem length_le_length_flatMap (cs : List Char) :
    cs.length ≤ (cs.flatMap writtenChar).length := by
  induction cs with
  | nil => simp
  | cons c cs ih =>
    have hc := (standsFor_writtenChar c).length_pos
    rw [List.flatMap_cons, List.length_append, List.length_cons]
    omega

/-- **Step by step** a reader takes a written text for its characters, if it takes what stands
for each character in one step and stops at the quotation mark. What it keeps of a character is
its sign, and of the signs it makes a text. -/
theorem read_flatMap {ε σ τ : Type} (read : Nat → List σ → List Char → Except ε (τ × List Char))
    (sign : Char → σ) (text : List σ → τ)
    (hstep : ∀ {c : Char} {cs rest : List Char}, StandsFor c cs → rest ≠ [] → ∀ fuel done,
      read (fuel + 1) done (cs ++ rest) = read fuel (sign c :: done) rest)
    (hend : ∀ fuel done rest, read (fuel + 1) done ('"' :: rest) = .ok (text done.reverse, rest))
    (rest cs : List Char) :
    ∀ (fuel : Nat) (done : List σ), cs.length < fuel →
      read fuel done (cs.flatMap writtenChar ++ '"' :: rest) =
        .ok (text (done.reverse ++ cs.map sign), rest) := by
  induction cs with
  | nil =>
    rintro (_ | fuel) done hfuel
    · exact absurd hfuel (by simp)
    · rw [List.flatMap_nil, List.nil_append, hend, List.map_nil, List.append_nil]
  | cons c cs ih =>
    rintro (_ | fuel) done hfuel
    · exact absurd hfuel (by simp)
    · rw [List.flatMap_cons, List.append_assoc, hstep (standsFor_writtenChar c) (by simp) fuel done,
        ih fuel (sign c :: done) (by simpa using hfuel), List.reverse_cons, List.append_assoc]
      rfl

/-! ### The reader of documents -/

theorem readUnicodeEscape_append {c : Char} {ds rest : List Char} (hlength : ds.length = 4)
    (hds : Text.hexNumber? ds = some c.toNat) (hc : c.toNat < 0x20) (hrest : rest ≠ []) :
    readUnicodeEscape (ds ++ rest) = .ok (.char c, rest) := by
  have htake : (ds ++ rest).take 4 = ds := by rw [← hlength, List.take_left']; rfl
  have hdrop : (ds ++ rest).drop 4 = rest := by rw [← hlength, List.drop_left']; rfl
  have hempty : rest.isEmpty = false := by simpa using hrest
  have hhigh := (isSurrogate_of_lt hc).1
  rw [readUnicodeEscape]
  simp only [htake, hdrop, hempty, hds, ofCode_of_lt hc, hhigh, Bool.false_and,
    Bool.false_eq_true, if_false]
  split <;> rfl

/-- **One step of the reader** takes what stands for a character, if the text goes on. -/
theorem readChars_step {c : Char} {cs : List Char} (h : StandsFor c cs) (fuel start : Nat)
    (done : List Sign) {rest : List Char} (hrest : rest ≠ []) :
    readChars (fuel + 1) start done (cs ++ rest) = readChars fuel start (.char c :: done) rest := by
  cases h with
  | plain hquote hslash hcontrol =>
    have hlow : ¬c.toNat < 0x20 := by omega
    simp [readChars, hquote, hslash, hlow]
  | letter hu he => simp [readChars, hu, he]
  | code hlength hbytes hds hc =>
    simp [readChars, readUnicodeEscape_append hlength hds hc hrest]

/-- **A text is read back**, whatever follows it. -/
theorem readText_flatMap (s : String) (rest : List Char) :
    readText (s.toList.flatMap writtenChar ++ '"' :: rest) = .ok (.whole s, rest) := by
  have hle := length_le_length_flatMap s.toList
  have hread := fun start => read_flatMap (fun fuel => readChars fuel start) .char .ofSigns
    (fun h hrest fuel done => readChars_step h fuel start done hrest) (by simp [readChars]) rest
    s.toList ((s.toList.flatMap writtenChar ++ '"' :: rest).length + 1) []
    (by rw [List.length_append]; omega)
  rw [readText, hread, List.reverse_nil, List.nil_append, LooseText.ofSigns_map_char,
    String.ofList_toList]

/-! ### The reader of stored documents -/

namespace Stored

theorem byteCount_eq_length {cs : List Char} (h : ∀ c ∈ cs, c.utf8Size = 1) :
    byteCount cs = cs.length := by
  have hfold : ∀ (ds : List Char) (n : Nat), (∀ d ∈ ds, d.utf8Size = 1) →
      ds.foldl (fun n c => n + c.utf8Size) n = n + ds.length := by
    intro ds
    induction ds with
    | nil => simp
    | cons d ds ih =>
      intro n hds
      rw [List.foldl_cons, hds d (by simp), ih (n + 1) fun e he => hds e (by simp [he]),
        List.length_cons]
      omega
  rw [byteCount, hfold cs 0 h, Nat.zero_add]

theorem readUnicodeEscape_append {c : Char} {ds : List Char} (hlength : ds.length = 4)
    (hbytes : ∀ d ∈ ds, d.utf8Size = 1) (hds : Text.hexNumber? ds = some c.toNat)
    (hc : c.toNat < 0x20) (rest : List Char) :
    readUnicodeEscape (ds ++ rest) = .ok (c, rest) := by
  have htake : (ds ++ rest).take 4 = ds := by rw [← hlength, List.take_left']; rfl
  have hdrop : (ds ++ rest).drop 4 = rest := by rw [← hlength, List.drop_left']; rfl
  have hcount : ¬byteCount ds < 4 := by rw [byteCount_eq_length hbytes]; omega
  have hunit : readUnit (ds ++ rest) = .ok (c.toNat, rest) := by
    simp only [readUnit, htake, hdrop, hds, if_neg hcount]
  obtain ⟨hhigh, hlow⟩ := isSurrogate_of_lt hc
  rw [readUnicodeEscape, hunit]
  show (if Text.isLowSurrogate c.toNat then _
    else if Text.isHighSurrogate c.toNat then _ else _) = _
  rw [hlow, hhigh]
  simp [Char.ofNat_toNat]

/-- **One step of the reader** takes what stands for a character. -/
theorem readChars_step {c : Char} {cs : List Char} (h : StandsFor c cs) (fuel : Nat)
    (done rest : List Char) :
    readChars (fuel + 1) done (cs ++ rest) = readChars fuel (c :: done) rest := by
  cases h with
  | plain hquote hslash hcontrol =>
    have hlow : ¬c.toNat < 0x20 := by omega
    simp [readChars, hquote, hslash, hlow]
  | letter hu he => simp [readChars, hu, he]
  | code hlength hbytes hds hc =>
    simp [readChars, readUnicodeEscape_append hlength hbytes hds hc]

/-- **A text is read back**, whatever follows it. -/
theorem readText_flatMap (s : String) (rest : List Char) :
    readText (s.toList.flatMap writtenChar ++ '"' :: rest) = .ok (s, rest) := by
  have hle := length_le_length_flatMap s.toList
  have hread := read_flatMap readChars id String.ofList
    (fun h _ fuel done => readChars_step h fuel done _) (by simp [readChars]) rest s.toList
    ((s.toList.flatMap writtenChar ++ '"' :: rest).length + 1) []
    (by rw [List.length_append]; omega)
  rw [readText, hread, List.reverse_nil, List.nil_append, List.map_id, String.ofList_toList]

end Stored

end Json

end Commissioning
