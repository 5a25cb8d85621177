import Commissioning.Proofs.Json.Excess
import Commissioning.Proofs.Json.Reading
import Commissioning.Proofs.Live.Course
import Commissioning.Proofs.Text.Trimming
import Commissioning.Proofs.Text.Utf8

/-!
# What comes of a message

A message should be received whatever its bytes are: nothing but blanks reports the absent value, a
document reports what it says, and any other text reports itself (`Commissioning.Reports`). The
value is then kept if somebody listens to the topic, and scheduled for everybody who does
(`Commissioning.Feed.receive_outcome`).

So it goes, except for a text beyond measure. The fallback is taken for texts that break the grammar
only; a text that the reader does not take for its measure alone is an error that the one who
receives messages meets, and nobody hears of the message. Such a text need not be a document: an
item number with a letter behind it is enough, if it has more digits than are read
(`Commissioning.Feed.not_always_received`).
-/

namespace Commissioning

/-! ### Written documents -/

namespace Json

theorem Numeral.isBlank_of_mem (n : Numeral) {c : Char} (h : c ∈ n.chars) :
    Text.isBlank c = false := by
  have hdigit : ∀ {ds : List Char}, (∀ d ∈ ds, d.isDigit = true) → c ∈ ds →
      Text.isBlank c = false := fun hds hc => isBlank_of_isDigit (hds c hc)
  rw [chars, unsignedChars] at h
  rcases List.mem_append.mp h with hsign | h
  · cases hnegative : n.negative <;> rw [hnegative] at hsign
    · cases hsign
    · rw [List.mem_singleton.mp hsign]
      decide
  rcases List.mem_append.mp h with hwhole | h
  · exact hdigit n.whole_digits hwhole
  rcases List.mem_append.mp h with hfraction | hexponent
  · cases hf : n.fraction? with
    | none =>
      rw [hf] at hfraction
      cases hfraction
    | some ds =>
      rw [hf] at hfraction
      rcases List.mem_cons.mp hfraction with rfl | hds
      · decide
      · exact hdigit (n.fraction_digits ds hf).2 hds
  · cases he : n.exponent? with
    | none =>
      rw [he] at hexponent
      cases hexponent
    | some e =>
      obtain ⟨negative, ds⟩ := e
      rw [he] at hexponent
      rcases List.mem_cons.mp hexponent with rfl | hexponent
      · decide
      rcases List.mem_cons.mp hexponent with rfl | hds
      · cases negative <;> decide
      · exact hdigit (n.exponent_digits _ he).2 hds

/-- **What is written neither begins nor ends with a blank.** -/
theorem not_blank_of_chars {j : Json} {cs : List Char} (h : chars j = some cs) :
    (∀ c ∈ cs.head?, Text.isBlank c = false) ∧ ∀ c ∈ cs.getLast?, Text.isBlank c = false := by
  have hmarks : ∀ {first last : Char} (inner : List Char), Text.isBlank first = false →
      Text.isBlank last = false → (∀ c ∈ (first :: inner ++ [last]).head?, Text.isBlank c = false) ∧
        ∀ c ∈ (first :: inner ++ [last]).getLast?, Text.isBlank c = false := by
    intro first last inner hfirst hlast
    rw [List.getLast?_append]
    simp [hfirst, hlast]
  have hnone : (∀ c ∈ cs, Text.isBlank c = false) →
      (∀ c ∈ cs.head?, Text.isBlank c = false) ∧ ∀ c ∈ cs.getLast?, Text.isBlank c = false :=
    fun hcs =>
      ⟨fun c hc => hcs c (List.mem_of_head? hc), fun c hc => hcs c (List.mem_of_getLast? hc)⟩
  have hword : cs.any Text.isBlank = false →
      (∀ c ∈ cs.head?, Text.isBlank c = false) ∧ ∀ c ∈ cs.getLast?, Text.isBlank c = false :=
    fun hcs => hnone fun c hc => eq_false_of_ne_true (List.any_eq_false.mp hcs c hc)
  cases j with
  | null =>
    obtain rfl := Option.some.inj h
    exact hword (by decide)
  | bool b =>
    obtain rfl := Option.some.inj h
    cases b <;> exact hword (by decide)
  | int i =>
    rw [chars, intChars?] at h
    split at h
    · next hlength =>
      obtain rfl := Option.some.inj h
      rw [← Numeral.chars_ofInt hlength] at hnone ⊢
      exact hnone fun c hc => Numeral.isBlank_of_mem _ hc
    · cases h
  | float x =>
    obtain rfl := Option.some.inj h
    cases x with
    | nan => exact hword (by decide)
    | infinite negative => cases negative <;> exact hword (by decide)
    | finite negative u hu =>
      obtain ⟨n, hn, -⟩ := exists_numeral negative hu
      rw [← hn] at hnone ⊢
      exact hnone fun c hc => n.isBlank_of_mem hc
  | str s =>
    obtain rfl := Option.some.inj h
    exact hmarks _ (by decide) (by decide)
  | torn t =>
    obtain rfl := Option.some.inj h
    exact hmarks _ (by decide) (by decide)
  | arr items =>
    obtain ⟨ds, -, rfl⟩ := Option.map_eq_some_iff.mp h
    exact hmarks _ (by decide) (by decide)
  | obj members =>
    obtain ⟨ds, -, rfl⟩ := Option.map_eq_some_iff.mp h
    exact hmarks _ (by decide) (by decide)

end Json

/-! ### What a text reports -/

/-- **What a text reports** as the value of a channel. -/
inductive Reports (cs : List Char) : Json → Prop where
  /-- Blanks report that there is no value. -/
  | nothing : Text.trim cs = [] → Reports cs .null
  /-- A document reports what it says. -/
  | document {j : Json} :
      Text.trim cs ≠ [] → Json.readDocument (Text.trim cs) = .ok j → Reports cs j
  /-- A text that is no document reports itself. -/
  | text {what : Json.Fault} {left : Nat} :
    Text.trim cs ≠ [] → Json.readDocument (Text.trim cs) = .error (.malformed what left) →
      Reports cs (.str (String.ofList (Text.trim cs)))

variable {cs : List Char} {value : Json}

theorem reportedValue_of_reports (h : Reports cs value) : reportedValue cs = .ok value := by
  unfold reportedValue
  cases h with
  | nothing hnil => simp [hnil]
  | document hne hread => simp [hne, hread]
  | text hne hread => simp [hne, hread]

/-- **Every text reports something**, unless it is beyond measure. -/
theorem exists_reports_iff :
    (∃ value, Reports cs value) ↔
      ∀ what, Json.readDocument (Text.trim cs) ≠ .error (.beyond what) := by
  constructor
  · rintro ⟨value, h⟩ what hread
    cases h with
    | nothing hnil =>
      rw [hnil] at hread
      cases hread
    | document _ hread' => cases hread.symm.trans hread'
    | text _ hread' => cases hread.symm.trans hread'
  · intro h
    by_cases hnil : Text.trim cs = []
    · exact ⟨_, .nothing hnil⟩
    cases hread : Json.readDocument (Text.trim cs) with
    | ok j => exact ⟨j, .document hnil hread⟩
    | error e =>
      cases e with
      | malformed what left => exact ⟨_, .text hnil hread⟩
      | beyond what => exact absurd hread (h what)

theorem reportedValue_of_beyond {what : Json.Excess}
    (h : Json.readDocument (Text.trim cs) = .error (.beyond what)) :
    reportedValue cs = .error what := by
  have hne : Text.trim cs ≠ [] := by
    intro hnil
    rw [hnil] at h
    cases h
  unfold reportedValue
  simp [hne, h]

/-- **A written document reports itself**, with blanks around it or not. -/
theorem reports_written {j : Json} {s : String} (h : j.write = some s) (hregular : j.IsRegular)
    (hheight : j.height ≤ Json.nestingLimit) {before behind : List Char}
    (hbefore : ∀ c ∈ before, Text.isBlank c = true)
    (hbehind : ∀ c ∈ behind, Text.isBlank c = true) :
    Reports (before ++ s.toList ++ behind) j := by
  have hread := Json.read_write h hregular hheight
  obtain ⟨ds, hds, rfl⟩ := Option.map_eq_some_iff.mp h
  obtain ⟨hfirst, hlast⟩ := Json.not_blank_of_chars hds
  rw [Json.read, String.toList_ofList] at hread
  rw [String.toList_ofList]
  have htrim : Text.trim (before ++ ds ++ behind) = ds :=
    Text.trimBy_padded hbefore hbehind hfirst hlast
  refine .document ?_ (htrim.symm ▸ hread)
  obtain ⟨c, es, rfl, -⟩ := Json.exists_cons_of_chars hds
  rw [htrim]
  simp

/-! ### Receiving -/

namespace Feed

variable {m : Message}

theorem receive_of_reports (h : Reports (Text.ofBytes m.payload) value) (f : Feed) :
    receive m f = .ok ()
      { f with
        latest := if f.holders.has m.topic then f.latest.put m.topic value else f.latest
        pending := f.pending ++ f.listeners.flatMap fun l => l.parcels m.topic value } := by
  have hvalue : m.value = .ok value := reportedValue_of_reports h
  have hreceive : receive m f = .ok () ((f.remember m.topic value).postAll m.topic value) := by
    rw [receive, hvalue]
    rfl
  rw [hreceive, postAll_eq, remember_eq]

theorem receive_of_beyond {what : Json.Excess}
    (h : Json.readDocument (Text.trim (Text.ofBytes m.payload)) = .error (.beyond what))
    (f : Feed) : receive m f = .error (.payload what) f := by
  have hvalue : m.value = .error what := reportedValue_of_beyond h
  rw [receive, hvalue]
  rfl

/-- **A number with too many digits is not received**, whatever follows it. -/
theorem receive_longNumber (f : Feed) (topic : String) {ds rest : List Char}
    (hdigits : ∀ c ∈ ds, c.isDigit = true) (hzero : ds.head? ≠ some '0')
    (hlong : digitLimit < ds.length) (hrest : Json.EndsNumeral rest) :
    receive ⟨topic, Text.toBytes (ds ++ rest)⟩ f = .error (.payload (.digits ds.length)) f := by
  obtain ⟨left, ⟨cut, hcut⟩, htrim⟩ := Text.exists_trimBy_append
    (List.ne_nil_of_length_pos (by omega)) (fun c hc => isBlank_of_isDigit (hdigits c hc)) rest
  have hleft : Json.EndsNumeral left := by
    intro c hc
    refine hrest c ?_
    rw [← hcut, List.head?_append, Option.mem_def.mp hc]
    rfl
  refine receive_of_beyond ?_ f
  rw [Text.ofBytes_toBytes, Text.trim, htrim]
  exact Json.readDocument_longNumber hdigits hzero hlong hleft

/-- **More opening marks than lists may stand in each other** are not received, whatever follows
them. -/
theorem receive_nested (f : Feed) (topic : String) {n : Nat} (h : Json.nestingLimit < n)
    (rest : List Char) :
    receive ⟨topic, Text.toBytes (List.replicate n '[' ++ rest)⟩ f =
      .error (.payload .lists) f := by
  have hfront : ∀ c ∈ List.replicate n '[', Text.isBlank c = false := by
    intro c hc
    rw [List.eq_of_mem_replicate hc]
    decide
  have hne : List.replicate n '[' ≠ [] := by
    rw [Ne, List.replicate_eq_nil_iff]
    omega
  obtain ⟨left, -, htrim⟩ := Text.exists_trimBy_append hne hfront rest
  refine receive_of_beyond ?_ f
  rw [Text.ofBytes_toBytes, Text.trim, htrim]
  exact Json.readDocument_nested h left

/-- **What comes of a message.** It is received exactly if its text is not beyond measure, as no
moderate text is; then what the text reports is kept if somebody listens to the topic, and scheduled
for everybody who does, and nothing else happens. Otherwise receiving it is an error, and nothing
happens at all. Every regular document that is written in the message is what it reports. -/
theorem receive_outcome (f : Feed) (m : Message) :
    (∀ value, Reports (Text.ofBytes m.payload) value → receive m f = .ok ()
      { f with
        latest := if f.holders.has m.topic then f.latest.put m.topic value else f.latest
        pending := f.pending ++ f.listeners.flatMap fun l => l.parcels m.topic value }) ∧
    ((∃ value, Reports (Text.ofBytes m.payload) value) ↔
      ∀ what, Json.readDocument (Text.trim (Text.ofBytes m.payload)) ≠ .error (.beyond what)) ∧
    (∀ what, Json.readDocument (Text.trim (Text.ofBytes m.payload)) = .error (.beyond what) →
      receive m f = .error (.payload what) f ∧
        Json.nestingLimit < (Text.trim (Text.ofBytes m.payload)).length) ∧
    (∀ cs, m.payload = Text.toBytes cs → Text.ofBytes m.payload = cs) ∧
    ∀ {j : Json} {s : String} {before behind : List Char}, j.write = some s → j.IsRegular →
      j.height ≤ Json.nestingLimit → (∀ c ∈ before, Text.isBlank c = true) →
        (∀ c ∈ behind, Text.isBlank c = true) →
          m.payload = Text.toBytes (before ++ s.toList ++ behind) →
            Reports (Text.ofBytes m.payload) j := by
  refine ⟨fun value h => receive_of_reports h f, exists_reports_iff,
    fun what h => ⟨receive_of_beyond h f, ?_⟩, ?_, ?_⟩
  · have hread : Json.read (String.ofList (Text.trim (Text.ofBytes m.payload))) =
        .error (.beyond what) := by rw [Json.read, String.toList_ofList, h]
    have hlength := Json.length_lt_of_read_beyond hread
    rwa [String.length_ofList] at hlength
  · rintro cs hcs
    rw [hcs, Text.ofBytes_toBytes]
  · intro j s before behind hwrite hregular hheight hbefore hbehind hpayload
    rw [hpayload, Text.ofBytes_toBytes]
    exact reports_written hwrite hregular hheight hbefore hbehind

/-- **Not every message is received**: one with a number of one digit more than are read and a
letter behind it is no document, and so should report its text, but is an error. -/
theorem not_always_received :
    ¬∀ (f : Feed) (m : Message), ∃ f', receive m f = .ok () f' := by
  intro h
  have hdigits : ∀ c ∈ List.replicate (digitLimit + 1) '1', c.isDigit = true := by
    intro c hc
    rw [List.eq_of_mem_replicate hc]
    rfl
  have hlost := receive_longNumber (create {}) "edge/edge0/ess0/Soc" hdigits
    (by simp [List.replicate_succ]) (by simp)
    (Json.endsNumeral_cons (c := 'x') (by decide) [])
  obtain ⟨f', hf'⟩ := h (create {})
    ⟨"edge/edge0/ess0/Soc", Text.toBytes (List.replicate (digitLimit + 1) '1' ++ ['x'])⟩
  rw [hlost] at hf'
  cases hf'

end Feed

end Commissioning
