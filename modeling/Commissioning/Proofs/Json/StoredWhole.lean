import Commissioning.Proofs.Except
import Commissioning.Proofs.Json.RoundTrip

/-!
# Stored documents are whole

The reader of stored documents refuses half of a pair that stands alone, so no text in what it
reads is torn (`Commissioning.Json.Stored.isWhole_of_read`). The reader of transmitted documents
keeps such a half: what has been stored and read back is whole, what has only been transmitted
need not be.
-/

namespace Commissioning

namespace Json

namespace Stored

/-- **A reader gives** values with the property only. -/
def Gives {α : Type} (good : α → Prop) (r : Except ReadError (α × List Char)) : Prop :=
  ∀ a rest, r = .ok (a, rest) → good a

section Gives

variable {α β : Type} {good : α → Prop} {good' : β → Prop}

theorem gives_ok {a : α} (h : good a) (rest : List Char) : Gives good (.ok (a, rest)) := by
  rintro _ _ ⟨⟩
  exact h

theorem gives_error (e : ReadError) :
    Gives good (.error e : Except ReadError (α × List Char)) := nofun

theorem Gives.bind {r : Except ReadError (α × List Char)}
    {f : α × List Char → Except ReadError (β × List Char)} (h : Gives good r)
    (hf : ∀ a rest, good a → Gives good' (f (a, rest))) : Gives good' (r >>= f) := by
  intro b left hleft
  obtain ⟨⟨a, rest⟩, hr, hfa⟩ := exists_of_bind_eq_ok hleft
  exact hf a rest (h a rest hr) b left hfa

/-- Whatever is read first. -/
theorem gives_bind {r : Except ReadError (α × List Char)}
    {f : α × List Char → Except ReadError (β × List Char)}
    (hf : ∀ a rest, Gives good' (f (a, rest))) : Gives good' (r >>= f) := by
  have hany : Gives (fun _ => True) r := fun _ _ _ => trivial
  exact hany.bind fun a rest _ => hf a rest

end Gives

/-! ### Numbers and words -/

theorem isWhole_readUnsigned (negative : Bool) (cs : List Char) :
    Gives IsWhole (readUnsigned negative cs) := by
  refine gives_bind fun whole cs => gives_bind fun fraction? cs => gives_bind fun exponent? cs => ?_
  dsimp only
  split
  · exact gives_ok trivial _
  · exact gives_ok trivial _

theorem isWhole_readWord {value : Json} (h : IsWhole value) : ∀ ws cs : List Char,
    Gives IsWhole (readWord value ws cs)
  | [], cs => gives_ok h cs
  | _ :: _, [] => gives_error _
  | w :: ws, c :: cs => by
    rw [readWord]
    split
    · exact isWhole_readWord h ws cs
    · exact gives_error _

theorem isWhole_readScalar (cs : List Char) : Gives IsWhole (readScalar cs) := by
  unfold readScalar
  split
  · exact gives_error _
  split
  · exact isWhole_readWord (by trivial) _ _
  split
  · exact isWhole_readWord (by trivial) _ _
  split
  · exact isWhole_readWord (by trivial) _ _
  split
  · exact isWhole_readWord (by trivial) _ _
  split
  · exact isWhole_readWord (by trivial) _ _
  split
  · split
    · exact isWhole_readWord (by trivial) _ _
    · exact isWhole_readUnsigned _ _
  split
  · exact isWhole_readUnsigned _ _
  · exact gives_error _

/-! ### Values -/

mutual

/-- **A value** that is read is whole. -/
theorem isWhole_readValue : ∀ (fuel room : Nat) (cs : List Char),
    Gives IsWhole (readValue fuel room cs)
  | 0, _, _ => gives_error _
  | fuel + 1, room, cs => by
    rw [readValue.eq_def]
    dsimp only
    split
    · intro j left hleft
      cases htext : readText _ with
      | error e =>
        rw [htext] at hleft
        cases hleft
      | ok r =>
        rw [htext] at hleft
        cases hleft
        trivial
    · split
      · exact gives_error _
      · exact gives_ok trivial _
      · exact isWhole_readItems fuel room [] _ (by simp)
    · split
      · exact gives_error _
      · exact gives_ok trivial _
      · exact isWhole_readMembers fuel room [] _ (by simp)
      · exact gives_error _
    · exact isWhole_readScalar _

theorem isWhole_readItems : ∀ (fuel room : Nat) (done : List Json) (cs : List Char),
    (∀ j ∈ done, IsWhole j) → Gives IsWhole (readItems fuel room done cs)
  | 0, _, _, _, _ => gives_error _
  | _ + 1, 0, _, _, _ => gives_error _
  | fuel + 1, room + 1, done, cs, hdone => by
    rw [readItems.eq_def]
    refine (isWhole_readValue fuel room cs).bind fun value rest hvalue => ?_
    have hmore : ∀ j ∈ value :: done, IsWhole j := List.forall_mem_cons.mpr ⟨hvalue, hdone⟩
    dsimp only
    split
    · exact gives_error _
    · exact gives_ok (isWhole_arr.mpr fun j hj => hmore j (List.mem_reverse.mp hj)) _
    · split
      · exact gives_error _
      · exact gives_error _
      · exact isWhole_readItems fuel (room + 1) _ _ hmore
    · exact gives_error _

theorem isWhole_readMembers : ∀ (fuel room : Nat) (done : List (String × Json)) (cs : List Char),
    (∀ m ∈ done, IsWhole m.2) → Gives IsWhole (readMembers fuel room done cs)
  | 0, _, _, _, _ => gives_error _
  | fuel + 1, room, done, cs, hdone => by
    rw [readMembers.eq_def]
    refine gives_bind fun name rest => ?_
    dsimp only
    split
    · exact gives_error _
    · split
      · exact gives_error _
      · exact gives_error _
      · refine (isWhole_readValue fuel _ _).bind fun value left hvalue => ?_
        have hmore : ∀ m ∈ (name, value) :: done, IsWhole m.2 :=
          List.forall_mem_cons.mpr ⟨hvalue, hdone⟩
        dsimp only
        split
        · exact gives_error _
        · exact gives_ok (isWhole_obj.mpr fun m hm => hmore m (List.mem_reverse.mp hm)) _
        · split
          · exact gives_error _
          · exact isWhole_readMembers fuel _ _ _ hmore
          · exact gives_error _
          · exact gives_error _
        · exact gives_error _
    · exact gives_error _

end

/-- **A stored document is whole.** -/
theorem isWhole_of_read {s : String} {j : Json} (h : Stored.read s = .ok j) : IsWhole j := by
  obtain ⟨⟨value, rest⟩, hvalue, hrest⟩ := exists_of_bind_eq_ok h
  dsimp only at hrest
  split at hrest
  · obtain rfl := Except.ok.inj hrest
    exact isWhole_readValue _ _ _ _ _ hvalue
  · cases hrest

end Stored

end Json

end Commissioning
