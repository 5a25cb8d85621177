import Commissioning.Text.Blank
import Mathlib.Data.List.DropRight

/-!
# Trimmed texts

What trimming does to the characters of a text. It takes away nothing but characters of the property
(`Commissioning.Text.mem_trimBy`), and what is left neither begins nor ends with one, so that
trimming once more changes nothing (`Commissioning.Text.trimBy_trimBy`). Which characters stand in
the text matters only by the property: two properties that agree on it trim it alike
(`Commissioning.Text.trimBy_congr`), and characters may be replaced before or after by others that
have the property exactly if they have it (`Commissioning.Text.trimBy_map`).
-/

namespace Commissioning.Text

variable {p q : Char → Bool} {cs : List Char} {c : Char}

theorem trimEndBy_eq_rdropWhile (p : Char → Bool) (cs : List Char) :
    trimEndBy p cs = cs.rdropWhile p := rfl

/-- Trimming leaves characters of the text only. -/
theorem mem_of_mem_trimBy (h : c ∈ trimBy p cs) : c ∈ cs :=
  (List.dropWhile_suffix p).subset ((List.rdropWhile_prefix p _).subset h)

theorem mem_dropWhile_of_mem (h : c ∈ cs) (hp : p c = false) : c ∈ cs.dropWhile p := by
  rw [← List.takeWhile_append_dropWhile (p := p) (l := cs)] at h
  rcases List.mem_append.mp h with h | h
  · rw [List.mem_takeWhile_imp h] at hp
    cases hp
  · exact h

/-- **Nothing but characters of the property** is taken away. -/
theorem mem_trimBy (h : c ∈ cs) (hp : p c = false) : c ∈ trimBy p cs := by
  have hfront : c ∈ (cs.dropWhile p).reverse := List.mem_reverse.mpr (mem_dropWhile_of_mem h hp)
  exact List.mem_reverse.mpr (mem_dropWhile_of_mem hfront hp)

/-- **Trimming once more** changes nothing. -/
theorem trimBy_trimBy (p : Char → Bool) (cs : List Char) :
    trimBy p (trimBy p cs) = trimBy p cs := by
  -- The front of what is left is that of the text without its front, as only the end is cut off.
  have hfront : (trimBy p cs).dropWhile p = trimBy p cs := by
    rw [List.dropWhile_eq_self_iff]
    intro hlength
    obtain ⟨rest, hrest⟩ : trimBy p cs <+: cs.dropWhile p :=
      List.rdropWhile_prefix p _
    have hpos : 0 < (cs.dropWhile p).length := by
      rw [← hrest, List.length_append]
      omega
    have hhead : (cs.dropWhile p)[0] = (trimBy p cs)[0] := by
      simp only [← hrest, List.getElem_append_left hlength]
    rw [← hhead]
    exact List.dropWhile_get_zero_not p cs hpos
  rw [trimBy, hfront, trimBy, trimEndBy_eq_rdropWhile, trimEndBy_eq_rdropWhile,
    List.rdropWhile_idempotent]

theorem dropWhile_congr_of_mem (h : ∀ c ∈ cs, p c = q c) : cs.dropWhile p = cs.dropWhile q := by
  induction cs with
  | nil => rfl
  | cons c cs ih =>
    obtain ⟨hc, hcs⟩ := List.forall_mem_cons.mp h
    rw [List.dropWhile_cons, List.dropWhile_cons, hc, ih hcs]

/-- Properties that agree on a text trim it alike. -/
theorem trimBy_congr (h : ∀ c ∈ cs, p c = q c) : trimBy p cs = trimBy q cs := by
  have hfront := dropWhile_congr_of_mem h
  have hend : ∀ c ∈ (cs.dropWhile q).reverse, p c = q c := by
    intro c hc
    exact h c ((List.dropWhile_suffix q).subset (List.mem_reverse.mp hc))
  rw [trimBy, trimBy, trimEndBy, trimEndBy, hfront, dropWhile_congr_of_mem hend]

/-- **What is put around a text** is taken away again, if it has the property and the text neither
begins nor ends with a character that has it. -/
theorem trimBy_padded {before behind : List Char} (hbefore : ∀ c ∈ before, p c = true)
    (hbehind : ∀ c ∈ behind, p c = true) (hfirst : ∀ c ∈ cs.head?, p c = false)
    (hlast : ∀ c ∈ cs.getLast?, p c = false) : trimBy p (before ++ cs ++ behind) = cs := by
  by_cases hnil : cs = []
  · subst hnil
    rw [trimBy_eq_nil_iff, List.append_nil, List.all_append, Bool.and_eq_true]
    exact ⟨List.all_eq_true.mpr hbefore, List.all_eq_true.mpr hbehind⟩
  have hkeep : ∀ ds rest : List Char, ds ≠ [] → (∀ c ∈ ds.head?, p c = false) →
      (ds ++ rest).dropWhile p = ds ++ rest := by
    intro ds rest hds hhead
    obtain ⟨d, ds, rfl⟩ := List.exists_cons_of_ne_nil hds
    rw [List.cons_append, List.dropWhile_cons_of_neg (by simp [hhead d rfl])]
  have hback : ∀ c ∈ behind.reverse, p c = true := fun c hc => hbehind c (List.mem_reverse.mp hc)
  rw [trimBy, List.append_assoc, List.dropWhile_append_of_pos hbefore, hkeep cs behind hnil hfirst,
    trimEndBy, List.reverse_append, List.dropWhile_append_of_pos hback]
  have hend := hkeep cs.reverse [] (by simpa using hnil) (by simpa using hlast)
  rw [List.append_nil] at hend
  rw [hend, List.reverse_reverse]

/-- **Only the rest of a text** is cut, if its front has no character of the property. -/
theorem exists_trimBy_append {front : List Char} (hne : front ≠ [])
    (hfront : ∀ c ∈ front, p c = false) (rest : List Char) :
    ∃ left, left <+: rest ∧ trimBy p (front ++ rest) = front ++ left := by
  refine ⟨trimEndBy p rest, List.rdropWhile_prefix p rest, ?_⟩
  obtain ⟨c, cs, rfl⟩ := List.exists_cons_of_ne_nil hne
  have hback : ((c :: cs).reverse).dropWhile p = (c :: cs).reverse := by
    obtain ⟨d, ds, hds⟩ := List.exists_cons_of_ne_nil (List.reverse_ne_nil_iff.mpr hne)
    have hd : d ∈ c :: cs := List.mem_reverse.mp (hds ▸ List.mem_cons_self)
    rw [hds, List.dropWhile_cons_of_neg (by simp [hfront d hd])]
  rw [trimBy, List.cons_append, List.dropWhile_cons_of_neg (by simp [hfront c]), ← List.cons_append,
    trimEndBy, List.reverse_append, List.dropWhile_append, hback, trimEndBy]
  split
  · next hempty => simp [List.isEmpty_iff.mp hempty]
  · rw [List.reverse_append, List.reverse_reverse]

/-- **Characters may be replaced** before or after trimming. -/
theorem trimBy_map {f : Char → Char} (h : ∀ c, p (f c) = p c) (cs : List Char) :
    trimBy p (cs.map f) = (trimBy p cs).map f := by
  have hcomp : p ∘ f = p := funext h
  rw [trimBy, trimBy, trimEndBy, trimEndBy, List.dropWhile_map, hcomp, ← List.map_reverse,
    List.dropWhile_map, hcomp, List.map_reverse]

end Commissioning.Text
