import Commissioning.Json.Merge
import Commissioning.Proofs.Assoc
import Commissioning.Proofs.Json.RoundTrip

/-!
# Members of merged documents

What stands under a name once a patch has been laid over the members of an object
(`Commissioning.Json.get?_merge`): what the patch has there, laid in turn over what was there
before, or what was there before if the patch has nothing. The patch is worked off from the front,
and each of its names comes once, so no later member of it undoes an earlier one.
-/

namespace Commissioning

namespace Json

variable {target patch : Members} {name : String}

theorem IsTidy.nodup_keys (h : IsTidy (.obj target)) : (Assoc.keys target).Nodup := h.1

/-- What stands in a tidy object is tidy. -/
theorem IsTidy.of_get? {j : Json} (h : IsTidy (.obj target))
    (hj : Assoc.get? target name = some j) : IsTidy j := by
  have htidy : ∀ {ms : List (String × Json)}, HaveTidy ms → (name, j) ∈ ms → IsTidy j := by
    intro ms hms hmem
    induction ms with
    | nil => cases hmem
    | cons m ms ih =>
      rcases List.mem_cons.mp hmem with rfl | hmem
      · exact hms.1
      · exact ih hms.2 hmem
  exact htidy h.2 (Assoc.mem_of_get? hj)

/-- A value that is no object takes the place of whatever was there. -/
theorem patched_of_not_obj {old : Option Json} {j : Json} (h : ∀ ms, j ≠ .obj ms) :
    patched old j = j := by
  cases j with
  | obj ms => exact absurd rfl (h ms)
  | _ => simp only [patched]

/-- So does an object, if there was none. -/
theorem patched_over_not_obj {old j : Json} (h : ∀ ms, old ≠ .obj ms) :
    patched (some old) j = j := by
  cases j with
  | obj ms =>
    cases old with
    | obj members => exact absurd rfl (h members)
    | _ => simp only [patched]
  | _ => simp only [patched]

/-- Objects are laid over each other. -/
theorem patched_obj_obj (old new : Members) :
    patched (some (.obj old)) (.obj new) = .obj (merge old new) := by
  simp only [patched]

theorem nodup_keys_merge (h : (Assoc.keys target).Nodup) (patch : Members) :
    (Assoc.keys (merge target patch)).Nodup := by
  induction patch generalizing target with
  | nil => exact h
  | cons m patch ih => exact ih (Assoc.nodup_keys_put h m.1 _)

/-- **What stands under a name of a merged document.** -/
theorem get?_merge (h : (Assoc.keys patch).Nodup) (target : Members) (name : String) :
    Assoc.get? (merge target patch) name =
      match Assoc.get? patch name with
      | some j => some (patched (Assoc.get? target name) j)
      | none => Assoc.get? target name := by
  induction patch generalizing target with
  | nil => rfl
  | cons m patch ih =>
    obtain ⟨key, j⟩ := m
    obtain ⟨hkey, hpatch⟩ := List.nodup_cons.mp h
    rw [merge, ih hpatch, Assoc.get?_put, Assoc.get?]
    by_cases heq : key = name
    · subst heq
      rw [Assoc.get?_eq_none hkey, if_pos rfl, if_pos rfl]
    · rw [if_neg heq, if_neg heq]

end Json

end Commissioning
