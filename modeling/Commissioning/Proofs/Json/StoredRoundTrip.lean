import Commissioning.Proofs.Json.RoundTrip

/-!
# Flat records, stored and read back

The reader of stored documents keeps every member of an object, so for a **flat** object, one
whose values are texts and truth values (`Commissioning.Json.IsFlat`), it gives back the
members that were written, in their order (`Commissioning.Json.Stored.read_write`).
-/

namespace Commissioning

namespace Json

/-- A text or a truth value. -/
def IsPlain : Json → Prop
  | .str _ => True
  | .bool _ => True
  | _ => False

/-- An object of texts and truth values, with at least one member. -/
def IsFlat : Json → Prop
  | .obj members => members ≠ [] ∧ ∀ m ∈ members, IsPlain m.2
  | _ => False

theorem IsPlain.isWritable {j : Json} (h : IsPlain j) : IsWritable j := by
  cases j with
  | str s => simp
  | bool b => simp
  | _ => exact h.elim

/-- **A flat object can always be written.** -/
theorem IsFlat.isWritable {j : Json} (h : IsFlat j) : IsWritable j := by
  cases j with
  | obj ms => simpa using fun m hm => (h.2 m hm).isWritable
  | _ => exact h.elim

namespace Stored

theorem readValue_plain {j : Json} {cs : List Char} (hj : IsPlain j) (h : chars j = some cs)
    (fuel room : Nat) (rest : List Char) :
    readValue (fuel + 1) room (cs ++ rest) = .ok (j, rest) := by
  cases j with
  | str s =>
    obtain rfl := Option.some.inj h
    rw [writtenText_append, readValue]
    simp [readText_flatMap, Except.map]
  | bool b =>
    obtain rfl := Option.some.inj h
    cases b
    · rw [readValue] <;> simp [readScalar, readWord]
    · rw [readValue] <;> simp [readScalar, readWord]
  | _ => exact hj.elim

/-- Behind the opening mark of an object that is not empty, the members are read. -/
theorem readValue_object (cs : List Char) (fuel room : Nat) :
    readValue (fuel + 1) room ('{' :: '"' :: cs) = readMembers fuel room [] cs := by
  have hskip : skipGap ('"' :: cs) = '"' :: cs := skipGap_of_beginsValue (by decide)
  rw [readValue]
  simp [hskip]

/-- **One member** behind those read so far. -/
theorem readMembers_of_readValue (name : String) {fuel room : Nat} {cs : List Char} {j : Json}
    {mark : Char} {rest : List Char} (hbegins : ∃ c ds, cs = c :: ds ∧ BeginsValue c)
    (hj : readValue fuel room cs = .ok (j, mark :: rest)) (done : List (String × Json)) :
    (mark = '}' → readMembers (fuel + 1) (room + 1) done
        (name.toList.flatMap writtenChar ++ '"' :: ':' :: cs) =
          .ok (.obj ((name, j) :: done).reverse, rest)) ∧
      (mark = ',' → ∀ {ds : List Char}, rest = '"' :: ds → readMembers (fuel + 1) (room + 1) done
        (name.toList.flatMap writtenChar ++ '"' :: ':' :: cs) =
          readMembers fuel (room + 1) ((name, j) :: done) ds) := by
  obtain ⟨c, ds, rfl, hc⟩ := hbegins
  have hcolon : skipGap (':' :: c :: ds) = ':' :: c :: ds := skipGap_of_beginsValue (by decide)
  constructor
  · rintro rfl
    simp only [readMembers, readText_flatMap, bind, Except.bind, hcolon,
      skipGap_of_beginsValue hc, hj]
    rfl
  · rintro rfl es rfl
    simp only [readMembers, readText_flatMap, bind, Except.bind, hcolon,
      skipGap_of_beginsValue hc, hj]
    rfl

/-- **The members of a flat object are read back**, behind those read so far. -/
theorem readMembers_chars : ∀ (ms : List (String × Json)) {cs : List Char},
    memberChars ms = some ('"' :: cs) → (∀ m ∈ ms, IsPlain m.2) →
    ∀ (fuel room : Nat) (done : List (String × Json)) (rest : List Char),
      cs.length < fuel →
      readMembers fuel (room + 1) done (cs ++ '}' :: rest) = .ok (.obj (done.reverse ++ ms), rest)
  | _, _, _, _, 0, _, _, _, hfuel => absurd hfuel (by simp)
  | [], _, h, _, _, _, _, _, _ => absurd h (by simp [memberChars])
  | [(name, j)], cs, h, hplain, fuel + 1, room, done, rest, hfuel => by
    obtain ⟨as, ha, h⟩ := Option.map_eq_some_iff.mp h
    have hcs : cs = name.toList.flatMap writtenChar ++ '"' :: ':' :: as := by
      simpa [writtenText] using h.symm
    have hj : IsPlain j := hplain (name, j) (by simp)
    obtain ⟨fuel, rfl⟩ : ∃ n, fuel = n + 1 := ⟨fuel - 1, by simp [hcs] at hfuel; omega⟩
    have hread := readValue_plain hj ha fuel room ('}' :: rest)
    obtain ⟨c, ds, rfl, hc⟩ := exists_cons_of_chars ha
    have hmember := readMembers_of_readValue name ⟨c, ds ++ '}' :: rest, rfl, hc⟩ hread done
    rw [hcs, List.append_assoc, List.cons_append, List.cons_append, List.cons_append,
      hmember.1 rfl, List.reverse_cons]
  | (name, j) :: m :: ms, cs, h, hplain, fuel + 1, room, done, rest, hfuel => by
    rw [memberChars] at h
    · obtain ⟨as, ha, h⟩ := Option.bind_eq_some_iff.mp h
      obtain ⟨bs, hb, h⟩ := Option.bind_eq_some_iff.mp h
      obtain ⟨es, rfl⟩ := exists_cons_of_memberChars hb
      have hcs : cs =
          name.toList.flatMap writtenChar ++ '"' :: ':' :: (as ++ ',' :: '"' :: es) := by
        simpa [writtenText] using (Option.some.inj h).symm
      have hj : IsPlain j := hplain (name, j) (by simp)
      have hlength : as.length + es.length + 2 < fuel := by
        simp [hcs] at hfuel
        omega
      have hms := readMembers_chars (m :: ms) hb (fun n hn => hplain n (by simp [hn])) fuel room
        ((name, j) :: done) rest (by omega)
      obtain ⟨fuel, rfl⟩ : ∃ n, fuel = n + 1 := ⟨fuel - 1, by omega⟩
      have hread := readValue_plain hj ha fuel room (',' :: '"' :: (es ++ '}' :: rest))
      obtain ⟨c, ds, rfl, hc⟩ := exists_cons_of_chars ha
      have hmember := (readMembers_of_readValue name
        ⟨c, ds ++ ',' :: '"' :: (es ++ '}' :: rest), rfl, hc⟩ hread done).2 rfl rfl
      rw [hms, List.reverse_cons, List.append_assoc] at hmember
      rw [hcs]
      simpa using hmember
    · simp

/-- A value with nothing behind it is a document. -/
theorem read_of_readValue {s : String} {j : Json}
    (h : readValue (2 * s.toList.length + 1) depthLimit (skipGap s.toList) = .ok (j, [])) :
    Stored.read s = .ok j := by
  rw [Stored.read]
  simp only [h]
  rfl

/-- **What is stored of a flat object is read back.** -/
theorem read_write {j : Json} {s : String} (h : j.write = some s) (hflat : IsFlat j) :
    Stored.read s = .ok j := by
  rcases j with _ | _ | _ | _ | _ | _ | _ | ms
  case obj =>
    obtain ⟨hne, hplain⟩ := hflat
    obtain ⟨cs, hcs, rfl⟩ := Option.map_eq_some_iff.mp h
    obtain ⟨ds, hds, rfl⟩ := Option.map_eq_some_iff.mp hcs
    rcases ms with _ | ⟨m, ms⟩
    · exact absurd rfl hne
    obtain ⟨es, rfl⟩ := exists_cons_of_memberChars hds
    have hread := readMembers_chars (m :: ms) hds hplain
      (2 * ('{' :: '"' :: (es ++ ['}'])).length) 199 [] [] (by simp; omega)
    have hopen := readValue_object (es ++ ['}'])
      (2 * ('{' :: '"' :: (es ++ ['}'])).length) depthLimit
    have hskip : skipGap ('{' :: '"' :: (es ++ ['}'])) = '{' :: '"' :: (es ++ ['}']) :=
      skipGap_of_beginsValue (by decide)
    rw [show depthLimit = 199 + 1 from rfl, hread] at hopen
    have hvalue : readValue (2 * ('{' :: '"' :: (es ++ ['}'])).length + 1) depthLimit
        (skipGap ('{' :: '"' :: (es ++ ['}']))) = .ok (Json.obj (m :: ms), []) := by
      rw [hskip, show depthLimit = 199 + 1 from rfl, hopen]
      rfl
    exact read_of_readValue (by rwa [String.toList_ofList])
  all_goals exact hflat.elim

end Stored

end Json

end Commissioning
