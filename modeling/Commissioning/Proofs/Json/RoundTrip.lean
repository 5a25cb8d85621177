import Commissioning.Json.Height
import Commissioning.Proofs.Assoc
import Commissioning.Proofs.Json.Numeral
import Commissioning.Proofs.Json.Text

/-!
# Documents, written and read back

A document that can be written at all reads back as itself
(`Commissioning.Json.read_write`), under two conditions: it is regular, which means that no
object has two members of one name and that no text is torn (`Commissioning.Json.IsRegular`), and
it has no more levels than the reader opens. What is written begins with a character that begins
a value and never with a gap (`Commissioning.Json.BeginsValue`), so the reader takes value, comma
and closing mark one after the other.

The fuel of the reader is the length of the text. A value takes at least one character, and
each item or member another one, so it does not run out.

Which documents can be written is a matter of their whole numbers alone, and is decided value
by value (`Commissioning.Json.isWritable_obj`, `Commissioning.Json.isWritable_arr`).
-/

namespace Commissioning

namespace Json

/-! ### Documents whose members have names of their own -/

mutual

/-- No object in the document has two members of one name. -/
def IsTidy : Json → Prop
  | .arr items => AreTidy items
  | .obj members => (members.map Prod.fst).Nodup ∧ HaveTidy members
  | _ => True

/-- All items are tidy. -/
def AreTidy : List Json → Prop
  | [] => True
  | j :: js => IsTidy j ∧ AreTidy js

/-- All members have tidy values. -/
def HaveTidy : List (String × Json) → Prop
  | [] => True
  | (_, j) :: ms => IsTidy j ∧ HaveTidy ms

end

mutual

/-- No text in the document is torn, names apart. -/
def IsWhole : Json → Prop
  | .torn _ => False
  | .arr items => AreWhole items
  | .obj members => HaveWhole members
  | _ => True

/-- All items are whole. -/
def AreWhole : List Json → Prop
  | [] => True
  | j :: js => IsWhole j ∧ AreWhole js

/-- All members have whole values. -/
def HaveWhole : List (String × Json) → Prop
  | [] => True
  | (_, j) :: ms => IsWhole j ∧ HaveWhole ms

end

theorem areTidy_iff {js : List Json} : AreTidy js ↔ ∀ j ∈ js, IsTidy j := by
  induction js with
  | nil => simp [AreTidy]
  | cons j js ih => simp [AreTidy, ih]

theorem haveTidy_iff {ms : List (String × Json)} : HaveTidy ms ↔ ∀ m ∈ ms, IsTidy m.2 := by
  induction ms with
  | nil => simp [HaveTidy]
  | cons m ms ih => simp [HaveTidy, ih]

/-- A list is whole if its items are. -/
theorem isWhole_arr {js : List Json} : IsWhole (.arr js) ↔ ∀ j ∈ js, IsWhole j := by
  show AreWhole js ↔ _
  induction js with
  | nil => simp [AreWhole]
  | cons j js ih => simp [AreWhole, ih]

/-- An object is whole if the values of its members are. -/
theorem isWhole_obj {ms : List (String × Json)} : IsWhole (.obj ms) ↔ ∀ m ∈ ms, IsWhole m.2 := by
  show HaveWhole ms ↔ _
  induction ms with
  | nil => simp [HaveWhole]
  | cons m ms ih => simp [HaveWhole, ih]

/-- **A regular document**: no object has two members of one name, and no text is torn. -/
structure IsRegular (j : Json) : Prop where
  isTidy : IsTidy j
  isWhole : IsWhole j

@[simp] theorem isRegular_null : IsRegular .null := ⟨trivial, trivial⟩

@[simp] theorem isRegular_bool (b : Bool) : IsRegular (.bool b) := ⟨trivial, trivial⟩

@[simp] theorem isRegular_int (i : Int) : IsRegular (.int i) := ⟨trivial, trivial⟩

@[simp] theorem isRegular_float (x : Binary64) : IsRegular (.float x) := ⟨trivial, trivial⟩

@[simp] theorem isRegular_str (s : String) : IsRegular (.str s) := ⟨trivial, trivial⟩

/-- A list is regular if its items are. -/
@[simp] theorem isRegular_arr {js : List Json} :
    IsRegular (.arr js) ↔ ∀ j ∈ js, IsRegular j := by
  constructor
  · rintro ⟨htidy, hwhole⟩ j hj
    exact ⟨areTidy_iff.mp htidy j hj, isWhole_arr.mp hwhole j hj⟩
  · intro h
    exact ⟨areTidy_iff.mpr fun j hj => (h j hj).isTidy,
      isWhole_arr.mpr fun j hj => (h j hj).isWhole⟩

/-- An object is regular if the values of its members are, and have names of their own. -/
@[simp] theorem isRegular_obj {ms : List (String × Json)} :
    IsRegular (.obj ms) ↔ (ms.map Prod.fst).Nodup ∧ ∀ m ∈ ms, IsRegular m.2 := by
  constructor
  · rintro ⟨⟨hnames, htidy⟩, hwhole⟩
    exact ⟨hnames, fun m hm => ⟨haveTidy_iff.mp htidy m hm, isWhole_obj.mp hwhole m hm⟩⟩
  · rintro ⟨hnames, h⟩
    exact ⟨⟨hnames, haveTidy_iff.mpr fun m hm => (h m hm).isTidy⟩,
      isWhole_obj.mpr fun m hm => (h m hm).isWhole⟩

theorem itemsHeight_le {js : List Json} {n : Nat} (h : ∀ j ∈ js, height j ≤ n) :
    itemsHeight js ≤ n := by
  induction js with
  | nil => simp [itemsHeight]
  | cons j js ih =>
    have hj := h j (by simp)
    have hjs := ih fun k hk => h k (by simp [hk])
    rw [itemsHeight]
    omega

/-! ### Documents that can be written -/

/-- No whole number in the document has too many digits to be written. -/
def IsWritable (j : Json) : Prop := (chars j).isSome = true

theorem isSome_itemChars {js : List Json} :
    (itemChars js).isSome = true ↔ ∀ j ∈ js, IsWritable j := by
  induction js with
  | nil => simp [itemChars]
  | cons j js ih =>
    rcases js with _ | ⟨k, js⟩
    · simp [itemChars, IsWritable]
    · rw [List.forall_mem_cons, ← ih, IsWritable, itemChars]
      · rcases chars j with _ | cs <;> rcases itemChars (k :: js) with _ | ds <;> simp
      · simp

theorem isSome_memberChars {ms : List (String × Json)} :
    (memberChars ms).isSome = true ↔ ∀ m ∈ ms, IsWritable m.2 := by
  induction ms with
  | nil => simp [memberChars]
  | cons m ms ih =>
    obtain ⟨name, j⟩ := m
    rcases ms with _ | ⟨m', ms⟩
    · simp [memberChars, IsWritable]
    · rw [List.forall_mem_cons, ← ih, IsWritable, memberChars]
      · rcases chars j with _ | cs <;> rcases memberChars (m' :: ms) with _ | ds <;> simp
      · simp

@[simp] theorem isWritable_null : IsWritable .null := rfl

@[simp] theorem isWritable_bool (b : Bool) : IsWritable (.bool b) := rfl

@[simp] theorem isWritable_float (x : Binary64) : IsWritable (.float x) := rfl

@[simp] theorem isWritable_str (s : String) : IsWritable (.str s) := rfl

@[simp] theorem isWritable_looseText (t : LooseText) : IsWritable t.toJson := by
  cases t <;> rfl

theorem isWritable_int {i : Int} :
    IsWritable (.int i) ↔ (natChars i.natAbs).length ≤ digitLimit := by
  unfold IsWritable chars intChars?
  split <;> simp_all

/-- **A list can be written if its items can.** -/
@[simp] theorem isWritable_arr {js : List Json} :
    IsWritable (.arr js) ↔ ∀ j ∈ js, IsWritable j := by
  rw [← isSome_itemChars, IsWritable, chars, Option.isSome_map]

/-- **An object can be written if the values of its members can.** -/
@[simp] theorem isWritable_obj {ms : List (String × Json)} :
    IsWritable (.obj ms) ↔ ∀ m ∈ ms, IsWritable m.2 := by
  rw [← isSome_memberChars, IsWritable, chars, Option.isSome_map]

/-! ### How values begin -/

/-- A character that begins a value. -/
def BeginsValue (c : Char) : Prop := isGap c = false ∧ c ≠ ']' ∧ c ≠ '}' ∧ c ≠ '\uFEFF'

/-- A character that begins a word or a number. -/
def BeginsScalar (c : Char) : Prop := BeginsValue c ∧ c ≠ '"' ∧ c ≠ '{' ∧ c ≠ '['

instance (c : Char) : Decidable (BeginsValue c) := inferInstanceAs (Decidable (_ ∧ _))

instance (c : Char) : Decidable (BeginsScalar c) := inferInstanceAs (Decidable (_ ∧ _))

theorem beginsScalar_of_isDigit {c : Char} (h : c.isDigit = true) : BeginsScalar c := by
  obtain ⟨d, hd, rfl⟩ := exists_digitChar h
  clear h
  revert d
  decide

theorem skipGap_of_beginsValue {c : Char} {cs : List Char} (h : BeginsValue c) :
    skipGap (c :: cs) = c :: cs := by
  simp [skipGap, h.1]

theorem endsNumeral_cons {c : Char} (h : c.isDigit = false ∧ c ≠ '.' ∧ c ≠ 'e' ∧ c ≠ 'E')
    (cs : List Char) : EndsNumeral (c :: cs) := by
  rintro d ⟨⟩
  exact h

/-! ### Words and numbers -/

/-- A text that the reader takes for the value, and that is neither a quoted text nor a list
nor an object. -/
structure ScalarText (j : Json) (cs : List Char) : Prop where
  begins : ∃ c ds, cs = c :: ds ∧ BeginsScalar c
  reads : ∀ rest, EndsNumeral rest → readWord? (cs ++ rest) = some (j, rest) ∨
    readWord? (cs ++ rest) = none ∧ readNumber (cs ++ rest) = .ok (j, rest)

theorem Numeral.scalarText (n : Numeral) : ScalarText n.value n.chars where
  begins := by
    obtain ⟨c, ds, hc, hds⟩ := n.exists_cons_unsignedChars
    rw [chars, hds]
    cases n.negative
    · exact ⟨c, ds, rfl, beginsScalar_of_isDigit hc⟩
    · exact ⟨'-', c :: ds, rfl, by decide⟩
  reads rest hrest := Or.inr ⟨n.readWord?_chars rest, n.readNumber_chars hrest⟩

theorem scalarText_of_word {w : List Char × Json} (h : w ∈ words) : ScalarText w.2 w.1 := by
  simp only [words, List.mem_cons, List.not_mem_nil, or_false] at h
  rcases h with rfl | rfl | rfl | rfl | rfl | rfl
  all_goals
    exact ⟨⟨_, _, rfl, by decide⟩, fun rest _ => Or.inl rfl⟩

theorem scalarText_float (x : Binary64) : ScalarText (.float x) (x.chars documentLayout) := by
  cases x with
  | nan => exact scalarText_of_word (w := ("NaN".toList, .float .nan)) (by simp [words])
  | infinite negative =>
    cases negative
    · exact scalarText_of_word (w := ("Infinity".toList, .float (.infinite false)))
        (by simp [words])
    · exact scalarText_of_word (w := ("-Infinity".toList, .float (.infinite true)))
        (by simp [words])
  | finite negative u h =>
    obtain ⟨n, hn, hvalue⟩ := exists_numeral negative h
    rw [← hn, ← hvalue]
    exact n.scalarText

theorem scalarText_int {i : Int} {cs : List Char} (h : chars (.int i) = some cs) :
    ScalarText (.int i) cs := by
  rw [chars, intChars?] at h
  split at h
  · next hlength =>
    obtain rfl := Option.some.inj h
    rw [← Numeral.chars_ofInt hlength, ← Numeral.value_ofInt hlength]
    exact (Numeral.ofInt i hlength).scalarText
  · exact absurd h (by simp)

theorem scalarText_bool (b : Bool) :
    ScalarText (.bool b) (if b then "true" else "false").toList := by
  cases b
  · exact scalarText_of_word (w := ("false".toList, .bool false)) (by simp [words])
  · exact scalarText_of_word (w := ("true".toList, .bool true)) (by simp [words])

theorem readValue_scalar {j : Json} {cs : List Char} (h : ScalarText j cs) (fuel room : Nat)
    {rest : List Char} (hrest : EndsNumeral rest) :
    readValue (fuel + 1) room (cs ++ rest) = .ok (j, rest) := by
  -- The first character rules out the three values that have an opening mark.
  obtain ⟨c, ds, rfl, -, hquote, hobject, hlist⟩ := h.begins
  have hreads := h.reads rest hrest
  rw [List.cons_append] at hreads ⊢
  rw [readValue, if_neg (by simpa using hquote), if_neg (by simpa using hobject),
    if_neg (by simpa using hlist)]
  rcases hreads with hword | ⟨hword, hnumber⟩
  · rw [hword]
  · rw [hword]
    exact hnumber

/-- **What is written begins a value.** -/
theorem exists_cons_of_chars {j : Json} {cs : List Char} (h : chars j = some cs) :
    ∃ c ds, cs = c :: ds ∧ BeginsValue c := by
  have hscalar : ScalarText j cs → ∃ c ds, cs = c :: ds ∧ BeginsValue c := by
    intro hs
    obtain ⟨c, ds, hcs, hc⟩ := hs.begins
    exact ⟨c, ds, hcs, hc.1⟩
  cases j with
  | null =>
    exact hscalar (Option.some.inj h ▸ scalarText_of_word (w := ("null".toList, .null))
      (by simp [words]))
  | bool b => exact hscalar (Option.some.inj h ▸ scalarText_bool b)
  | int i => exact hscalar (scalarText_int h)
  | float x => exact hscalar (Option.some.inj h ▸ scalarText_float x)
  | str s => exact ⟨'"', _, (Option.some.inj h).symm, by decide⟩
  | torn t => exact ⟨'"', _, (Option.some.inj h).symm, by decide⟩
  | arr items =>
    obtain ⟨ds, -, rfl⟩ := Option.map_eq_some_iff.mp h
    exact ⟨'[', _, rfl, by decide⟩
  | obj members =>
    obtain ⟨ds, -, rfl⟩ := Option.map_eq_some_iff.mp h
    exact ⟨'{', _, rfl, by decide⟩

/-! ### Lists and objects -/

theorem exists_cons_of_itemChars {j : Json} {js : List Json} {cs : List Char}
    (h : itemChars (j :: js) = some cs) : ∃ c ds, cs = c :: ds ∧ BeginsValue c := by
  rcases js with _ | ⟨k, js⟩
  · exact exists_cons_of_chars h
  · rw [itemChars] at h
    · obtain ⟨as, ha, h⟩ := Option.bind_eq_some_iff.mp h
      obtain ⟨bs, -, h⟩ := Option.bind_eq_some_iff.mp h
      obtain ⟨c, ds, rfl, hc⟩ := exists_cons_of_chars ha
      exact ⟨c, _, (Option.some.inj h).symm, hc⟩
    · simp

theorem exists_cons_of_memberChars {m : String × Json} {ms : List (String × Json)} {cs : List Char}
    (h : memberChars (m :: ms) = some cs) : ∃ ds, cs = '"' :: ds := by
  obtain ⟨name, j⟩ := m
  rcases ms with _ | ⟨m', ms⟩
  · obtain ⟨as, -, rfl⟩ := Option.map_eq_some_iff.mp h
    exact ⟨_, rfl⟩
  · rw [memberChars] at h
    · obtain ⟨as, -, h⟩ := Option.bind_eq_some_iff.mp h
      obtain ⟨bs, -, h⟩ := Option.bind_eq_some_iff.mp h
      exact ⟨_, (Option.some.inj h).symm⟩
    · simp

/-- Behind the opening mark of a list that is not empty, the items are read. -/
theorem readValue_list {cs : List Char} (hcs : ∃ c ds, cs = c :: ds ∧ BeginsValue c)
    (fuel room : Nat) :
    readValue (fuel + 1) (room + 1) ('[' :: cs) = readItems fuel room [] cs := by
  obtain ⟨c, ds, rfl, hc⟩ := hcs
  rw [readValue]
  simp only [skipGap_of_beginsValue hc]
  simp [hc.2.1]

/-- Behind the opening mark of an object that is not empty, the members are read. -/
theorem readValue_object (cs : List Char) (fuel room : Nat) :
    readValue (fuel + 1) (room + 1) ('{' :: '"' :: cs) = readMembers fuel room [] ('"' :: cs) := by
  have hskip : skipGap ('"' :: cs) = '"' :: cs := skipGap_of_beginsValue (by decide)
  rw [readValue]
  simp [hskip]

/-- **One item** behind those read so far. -/
theorem readItems_of_readValue {fuel room : Nat} {cs : List Char} {j : Json} {mark : Char}
    {rest : List Char} (hj : readValue fuel room cs = .ok (j, mark :: rest)) (done : List Json) :
    (mark = ']' → readItems (fuel + 1) room done cs = .ok (.arr (j :: done).reverse, rest)) ∧
      (mark = ',' → readItems (fuel + 1) room done cs =
        readItems fuel room (j :: done) (skipGap rest)) := by
  constructor
  all_goals
    rintro rfl
    rw [readItems, hj]
    rfl

/-- **One member** behind those read so far. -/
theorem readMembers_of_readValue (name : String) {fuel room : Nat} {cs : List Char} {j : Json}
    {mark : Char} {rest : List Char} (hbegins : ∃ c ds, cs = c :: ds ∧ BeginsValue c)
    (hj : readValue fuel room cs = .ok (j, mark :: rest)) (done : Members) :
    (mark = '}' → readMembers (fuel + 1) room done (writtenText name ++ ':' :: cs) =
        .ok (.obj (done.put name j), rest)) ∧
      (mark = ',' → readMembers (fuel + 1) room done (writtenText name ++ ':' :: cs) =
        readMembers fuel room (done.put name j) (skipGap rest)) := by
  obtain ⟨c, ds, rfl, hc⟩ := hbegins
  have hcolon : skipGap (':' :: c :: ds) = ':' :: c :: ds := skipGap_of_beginsValue (by decide)
  rw [writtenText_append]
  constructor
  all_goals
    rintro rfl
    simp only [readMembers, readText_flatMap, bind, Except.bind, hcolon,
      skipGap_of_beginsValue hc, hj]
    rfl

theorem not_mem_of_nodup_append {done ms : List (String × Json)} {name : String} {j : Json}
    (h : ((done ++ (name, j) :: ms).map Prod.fst).Nodup) : name ∉ done.map Prod.fst := by
  rw [List.map_append, List.map_cons, List.nodup_append] at h
  exact fun hmem => h.2.2 name hmem name (by simp) rfl

mutual

/-- **A value is read back**, whatever follows it that cannot belong to a number. -/
theorem readValue_chars : ∀ (j : Json) {cs : List Char}, chars j = some cs → IsRegular j →
    ∀ (fuel room : Nat) (rest : List Char), cs.length < fuel → height j ≤ room →
      EndsNumeral rest → readValue fuel room (cs ++ rest) = .ok (j, rest)
  | _, _, _, _, 0, _, _, hfuel, _, _ => absurd hfuel (by simp)
  | .null, cs, h, _, fuel + 1, room, rest, _, _, hrest => by
    obtain rfl := Option.some.inj h
    exact readValue_scalar (scalarText_of_word (w := ("null".toList, .null)) (by simp [words]))
      fuel room hrest
  | .bool b, cs, h, _, fuel + 1, room, rest, _, _, hrest => by
    obtain rfl := Option.some.inj h
    exact readValue_scalar (scalarText_bool b) fuel room hrest
  | .int i, cs, h, _, fuel + 1, room, rest, _, _, hrest =>
    readValue_scalar (scalarText_int h) fuel room hrest
  | .float x, cs, h, _, fuel + 1, room, rest, _, _, hrest => by
    obtain rfl := Option.some.inj h
    exact readValue_scalar (scalarText_float x) fuel room hrest
  | .str s, cs, h, _, fuel + 1, room, rest, _, _, hrest => by
    obtain rfl := Option.some.inj h
    rw [writtenText_append, readValue]
    simp [readText_flatMap, Except.map, LooseText.toJson]
  | .torn _, _, _, hregular, _ + 1, _, _, _, _, _ => hregular.isWhole.elim
  | .arr [], cs, h, _, fuel + 1, room, rest, _, hroom, _ => by
    obtain rfl := Option.some.inj h
    obtain ⟨room, rfl⟩ := Nat.exists_eq_succ_of_ne_zero (Nat.ne_of_gt hroom)
    rfl
  | .arr (j :: js), cs, h, hregular, fuel + 1, room, rest, hfuel, hroom, _ => by
    obtain ⟨ds, hds, rfl⟩ := Option.map_eq_some_iff.mp h
    obtain ⟨room, rfl⟩ := Nat.exists_eq_succ_of_ne_zero (Nat.ne_of_gt (Nat.lt_of_lt_of_le
      (Nat.succ_pos _) hroom))
    obtain ⟨c, es, rfl, hc⟩ := exists_cons_of_itemChars hds
    have hlength : (c :: es).length + 1 < fuel := by
      simp at hfuel ⊢
      omega
    have hitems := readItems_chars (j :: js) hds (isRegular_arr.mp hregular) fuel room [] rest
      (by simp) hlength (by simpa [height] using hroom)
    have hopen := readValue_list ⟨c, es ++ ']' :: rest, rfl, hc⟩ fuel room
    simpa using hopen.trans hitems
  | .obj [], cs, h, _, fuel + 1, room, rest, _, hroom, _ => by
    obtain rfl := Option.some.inj h
    obtain ⟨room, rfl⟩ := Nat.exists_eq_succ_of_ne_zero (Nat.ne_of_gt hroom)
    rfl
  | .obj (m :: ms), cs, h, hregular, fuel + 1, room, rest, hfuel, hroom, _ => by
    obtain ⟨ds, hds, rfl⟩ := Option.map_eq_some_iff.mp h
    obtain ⟨room, rfl⟩ := Nat.exists_eq_succ_of_ne_zero (Nat.ne_of_gt (Nat.lt_of_lt_of_le
      (Nat.succ_pos _) hroom))
    obtain ⟨es, rfl⟩ := exists_cons_of_memberChars hds
    have hlength : ('"' :: es).length < fuel := by
      simp at hfuel ⊢
      omega
    obtain ⟨hnames, hvalues⟩ := isRegular_obj.mp hregular
    have hmembers := readMembers_chars (m :: ms) hds hvalues fuel room [] rest (by simp) hnames
      hlength (by simpa [height] using hroom)
    have hopen := readValue_object (es ++ '}' :: rest) fuel room
    simpa using hopen.trans hmembers

/-- **The items of a list are read back**, behind those read so far. -/
theorem readItems_chars : ∀ (js : List Json) {cs : List Char}, itemChars js = some cs →
    (∀ j ∈ js, IsRegular j) → ∀ (fuel room : Nat) (done : List Json) (rest : List Char), js ≠ [] →
      cs.length + 1 < fuel → itemsHeight js ≤ room →
      readItems fuel room done (cs ++ ']' :: rest) = .ok (.arr (done.reverse ++ js), rest)
  | [], _, _, _, _, _, _, _, hne, _, _ => absurd rfl hne
  | _, _, _, _, 0, _, _, _, _, hfuel, _ => absurd hfuel (by simp)
  | [j], cs, h, hregular, fuel + 1, room, done, rest, _, hfuel, hroom => by
    have hj := readValue_chars j h (hregular j (by simp)) fuel room (']' :: rest)
      (by omega) (by simpa [itemsHeight] using hroom) (endsNumeral_cons (by decide) rest)
    rw [(readItems_of_readValue hj done).1 rfl, List.reverse_cons]
  | j :: k :: js, cs, h, hregular, fuel + 1, room, done, rest, _, hfuel, hroom => by
    rw [itemChars] at h
    · obtain ⟨as, ha, h⟩ := Option.bind_eq_some_iff.mp h
      obtain ⟨bs, hb, h⟩ := Option.bind_eq_some_iff.mp h
      obtain rfl := Option.some.inj h
      have hlength : as.length + (bs.length + 1) + 1 < fuel + 1 := by simpa using hfuel
      have hheight : height j ≤ room ∧ itemsHeight (k :: js) ≤ room := by
        simpa only [itemsHeight, Nat.max_le] using hroom
      obtain ⟨c, ds, rfl, hc⟩ := exists_cons_of_itemChars hb
      -- The comma ends a number, so the item is read whatever comes behind it.
      have hj := readValue_chars j ha (hregular j (by simp)) fuel room
        (',' :: (c :: ds ++ ']' :: rest)) (by omega) hheight.1
        (endsNumeral_cons (by decide) _)
      have hjs := readItems_chars (k :: js) hb (List.forall_mem_cons.mp hregular).2 fuel room
        (j :: done) rest (by simp) (by omega) hheight.2
      rw [List.append_assoc, List.cons_append, (readItems_of_readValue hj done).2 rfl,
        List.cons_append, skipGap_of_beginsValue hc, ← List.cons_append, hjs, List.reverse_cons,
        List.append_assoc]
      rfl
    · simp

/-- **The members of an object are read back**, behind those read so far. -/
theorem readMembers_chars : ∀ (ms : List (String × Json)) {cs : List Char},
    memberChars ms = some cs → (∀ m ∈ ms, IsRegular m.2) →
    ∀ (fuel room : Nat) (done : Members) (rest : List Char), ms ≠ [] →
      ((done ++ ms).map Prod.fst).Nodup → cs.length < fuel → membersHeight ms ≤ room →
      readMembers fuel room done (cs ++ '}' :: rest) = .ok (.obj (done ++ ms), rest)
  | [], _, _, _, _, _, _, _, hne, _, _, _ => absurd rfl hne
  | _, _, _, _, 0, _, _, _, _, _, hfuel, _ => absurd hfuel (by simp)
  | [(name, j)], cs, h, hregular, fuel + 1, room, done, rest, _, hnames, hfuel, hroom => by
    obtain ⟨as, ha, rfl⟩ := Option.map_eq_some_iff.mp h
    have hname : name ∉ done.map Prod.fst := not_mem_of_nodup_append hnames
    have hj := readValue_chars j ha (hregular (name, j) (by simp)) fuel room ('}' :: rest)
      (by simp at hfuel; omega) (by simpa [membersHeight] using hroom)
      (endsNumeral_cons (by decide) rest)
    obtain ⟨c, ds, rfl, hc⟩ := exists_cons_of_chars ha
    have hmember := readMembers_of_readValue name ⟨c, ds ++ '}' :: rest, rfl, hc⟩ hj done
    rw [List.append_assoc, List.cons_append, List.cons_append, hmember.1 rfl,
      Assoc.put_of_not_mem hname]
  | (name, j) :: m :: ms, cs, h, hregular, fuel + 1, room, done, rest, _, hnames, hfuel, hroom => by
    rw [memberChars] at h
    · obtain ⟨as, ha, h⟩ := Option.bind_eq_some_iff.mp h
      obtain ⟨bs, hb, h⟩ := Option.bind_eq_some_iff.mp h
      obtain rfl := Option.some.inj h
      have hname : name ∉ done.map Prod.fst := not_mem_of_nodup_append hnames
      have hlength : as.length + bs.length + 1 < fuel := by
        simp at hfuel
        omega
      have hheight : height j ≤ room ∧ membersHeight (m :: ms) ≤ room := by
        simpa only [membersHeight, Nat.max_le] using hroom
      -- The name is new among those read so far, so the member goes to their end.
      have hjs := readMembers_chars (m :: ms) hb (List.forall_mem_cons.mp hregular).2 fuel room
        (done ++ [(name, j)]) rest (by simp) (by simpa using hnames) (by omega) hheight.2
      obtain ⟨es, rfl⟩ := exists_cons_of_memberChars hb
      have hj := readValue_chars j ha (hregular (name, j) (by simp)) fuel room
        (',' :: ('"' :: es ++ '}' :: rest)) (by omega) hheight.1
        (endsNumeral_cons (by decide) _)
      obtain ⟨c, ds, rfl, hc⟩ := exists_cons_of_chars ha
      have hmember := readMembers_of_readValue name ⟨c, _, rfl, hc⟩ hj done
      have hskip : skipGap ('"' :: es ++ '}' :: rest) = '"' :: es ++ '}' :: rest :=
        skipGap_of_beginsValue (by decide)
      have hmove := hmember.2 rfl
      rw [hskip, Assoc.put_of_not_mem hname, hjs, List.append_assoc] at hmove
      simpa using hmove
    · simp

end

/-- **What is written is read back**: a regular document with no more levels than the reader
opens. -/
theorem read_write {j : Json} {s : String} (h : j.write = some s) (hregular : IsRegular j)
    (hheight : height j ≤ nestingLimit) : read s = .ok j := by
  obtain ⟨cs, hcs, rfl⟩ := Option.map_eq_some_iff.mp h
  have hread := readValue_chars j hcs hregular (2 * cs.length + 1) nestingLimit [] (by omega)
    hheight (by rintro c ⟨⟩)
  obtain ⟨c, ds, rfl, hc⟩ := exists_cons_of_chars hcs
  rw [read, String.toList_ofList, readDocument]
  · rw [skipGap_of_beginsValue hc]
    rw [List.append_nil] at hread
    rw [hread]
    rfl
  · rintro ds ⟨⟩
    exact hc.2.2.2 rfl

end Json

end Commissioning
