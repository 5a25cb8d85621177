import Commissioning.Proofs.Json.RoundTrip

/-!
# Texts beyond measure

Two kinds of text are refused for their measure alone, before it shows whether they are documents
at all. A whole number with more digits than are read is refused, whatever follows it
(`Commissioning.Json.readDocument_longNumber`), and so are more opening marks of lists than lists
may stand in each other (`Commissioning.Json.readDocument_nested`). That no text of moderate length
is refused so is `Commissioning.Json.length_lt_of_read_beyond`.
-/

namespace Commissioning.Json

variable {rest : List Char}

/-! ### Long numbers -/

theorem readWord?_of_isDigit {c : Char} (h : c.isDigit = true) (cs : List Char) :
    readWord? (c :: cs) = none := by
  have hletter : ∀ d : Char, d.isDigit = false → d ≠ c := by
    rintro d hd rfl
    rw [h] at hd
    exact absurd hd (by decide)
  rw [readWord?, Option.map_eq_none_iff, List.find?_eq_none]
  simp [words, hletter 'n' rfl, hletter 't' rfl, hletter 'f' rfl, hletter 'N' rfl,
    hletter 'I' rfl, hletter '-' rfl]

theorem splitFractionPart_of_endsNumeral (h : EndsNumeral rest) :
    splitFractionPart rest = (none, rest) := by
  rcases rest with _ | ⟨c, cs⟩
  · rfl
  · rw [splitFractionPart]
    rintro cs' hcs
    exact (h c rfl).2.1 (List.cons.inj hcs).1

theorem splitExponentPart_of_endsNumeral (h : EndsNumeral rest) :
    splitExponentPart rest = (none, rest) := by
  rcases rest with _ | ⟨c, cs⟩
  · rfl
  · obtain ⟨-, -, hsmall, hcapital⟩ := h c rfl
    rw [splitExponentPart, if_neg (by simp [hsmall, hcapital])]

/-- **A whole number with too many digits** is beyond measure, whatever follows it. -/
theorem readDocument_longNumber {ds : List Char} (hdigits : ∀ c ∈ ds, c.isDigit = true)
    (hzero : ds.head? ≠ some '0') (hlong : digitLimit < ds.length) (hrest : EndsNumeral rest) :
    readDocument (ds ++ rest) = .error (.beyond (.digits ds.length)) := by
  obtain ⟨d, ds, rfl⟩ : ∃ d ds', ds = d :: ds' :=
    List.exists_cons_of_ne_nil
      (List.ne_nil_of_length_pos (Nat.lt_of_le_of_lt (Nat.zero_le _) hlong))
  have hd : d.isDigit = true := hdigits d (by simp)
  have hd0 : d ≠ '0' := fun h => hzero (congrArg some h)
  obtain ⟨hbegins, hquote, hobject, hlist⟩ := beginsScalar_of_isDigit hd
  have hwhole : splitWholePart (d :: (ds ++ rest)) = some (d :: ds, rest) := by
    have hsplit := splitDigits_append hdigits hrest.noDigitAhead
    rw [splitWholePart, if_neg (by simpa using hd0), if_pos hd, ← List.cons_append, hsplit]
  have hunsigned : ∀ start, readUnsigned start false (d :: (ds ++ rest)) =
      .error (.beyond (.digits (d :: ds).length)) := by
    intro start
    rw [readUnsigned, hwhole]
    simp only [splitFractionPart_of_endsNumeral hrest, splitExponentPart_of_endsNumeral hrest]
    rw [if_neg (by omega)]
  have hnumber : readNumber (d :: (ds ++ rest)) =
      .error (.beyond (.digits (d :: ds).length)) := by
    rw [readNumber]
    · exact hunsigned _
    · rintro _ hcs
      obtain rfl := (List.cons.inj hcs).1
      exact absurd hd (by decide)
  rw [List.cons_append, readDocument]
  · rw [skipGap_of_beginsValue hbegins, readValue, if_neg (by simpa using hquote),
      if_neg (by simpa using hobject), if_neg (by simpa using hlist), readWord?_of_isDigit hd,
      hnumber]
    rfl
  · rintro _ hcs
    exact hbegins.2.2.2 (List.cons.inj hcs).1

/-! ### Lists in lists -/

/-- A list does not stand where there is no room for it, nor do lists in lists: each takes one
place, and two steps of the reader. -/
theorem readValue_nested (cs : List Char) : ∀ fuel room : Nat, 2 * room < fuel →
    readValue fuel room (List.replicate (room + 1) '[' ++ cs) = .error (.beyond .lists)
  | _ + 1, 0, _ => rfl
  | fuel + 1, room + 1, h => by
    obtain ⟨inner, rfl⟩ : ∃ inner, fuel = inner + 1 := ⟨fuel - 1, by omega⟩
    have hinner : readValue inner room (List.replicate (room + 1) '[' ++ cs) =
        .error (.beyond .lists) := readValue_nested cs inner room (by omega)
    have hopen : readValue (inner + 1 + 1) (room + 1)
        ('[' :: (List.replicate (room + 1) '[' ++ cs)) =
          readItems (inner + 1) room [] (List.replicate (room + 1) '[' ++ cs) :=
      readValue_list ⟨'[', _, rfl, by decide⟩ (inner + 1) room
    rw [List.replicate_succ, List.cons_append, hopen, readItems, hinner]
    rfl

/-- **More opening marks than lists may stand in each other** are beyond measure, whatever follows
them. -/
theorem readDocument_nested {n : Nat} (h : nestingLimit < n) (rest : List Char) :
    readDocument (List.replicate n '[' ++ rest) = .error (.beyond .lists) := by
  obtain ⟨more, rfl⟩ : ∃ more, n = nestingLimit + 1 + more := ⟨n - (nestingLimit + 1), by omega⟩
  have hnested := readValue_nested (List.replicate more '[' ++ rest)
    (2 * (List.replicate (nestingLimit + 1 + more) '[' ++ rest).length + 1) nestingLimit
    (by simp; omega)
  have hcs : List.replicate (nestingLimit + 1) '[' ++ (List.replicate more '[' ++ rest) =
      List.replicate (nestingLimit + 1 + more) '[' ++ rest := by
    rw [← List.append_assoc, List.replicate_append_replicate]
  rw [hcs] at hnested
  have hskip : skipGap (List.replicate (nestingLimit + 1 + more) '[' ++ rest) =
      List.replicate (nestingLimit + 1 + more) '[' ++ rest := by
    rw [Nat.add_right_comm, List.replicate_succ, List.cons_append]
    exact skipGap_of_beginsValue (by decide)
  rw [readDocument, hskip, hnested]
  · rfl
  · rw [Nat.add_right_comm, List.replicate_succ, List.cons_append]
    rintro _ hcs
    exact absurd (List.cons.inj hcs).1 (by decide)

end Commissioning.Json
