import Commissioning.Proofs.Assistant.Submitting
import Commissioning.Proofs.Installation.Leaves

/-!
# Patching the data of a session

A patch is laid over the document of the data, the result is read again, and what is read replaces
the data. **What comes of it can be told leaf by leaf**
(`Commissioning.Assistant.updateData_follows`): a leaf has the value that the patch gives it, or
else the one it had. So what else there is in a patch has no effect, a patch that has been accepted
is accepted again and changes nothing, and patches for different leaves can come in either order.

Each of them starts from what is in the store. A session that has been patched is loaded as it was
written (`Commissioning.Assistant.load_of_saved`), also if the entries it was loaded from are not
the ones that a session is written as.
-/

namespace Commissioning

namespace Assistant

variable {id : String} {a a' : Assistant} {s s' : Session} {patch : Members} {d : Installation}

/-! ### An update and what it leaves -/

/-- What it is that a patch of a session is accepted. -/
structure Patches (id : String) (patch : Members) (a : Assistant) (s s' : Session)
    (a' : Assistant) : Prop where
  loaded : load id a = .ok s a
  height_le : (Json.obj patch).height ≤ patchLimit
  becomes : s.data.Becomes patch s'.data
  rest : s' = { s with data := s'.data }
  saved : save id s' a = .ok () a'

/-- **An update succeeds** exactly if a session is loaded, the patch is not too deep, the data that
come of it can be read, and the session with these data can be written. -/
theorem updateData_eq_ok_iff :
    updateData id patch a = .ok s' a' ↔ ∃ s, Patches id patch a s s' a' := by
  constructor
  · intro h
    obtain ⟨s, a'', hload, hchecked⟩ := bind_eq_ok h
    obtain rfl := (load_eq_ok_iff.mp hload).2
    by_cases hdeep : patchLimit < (Json.obj patch).height
    · simp only [if_pos hdeep] at hchecked
      cases hchecked
    simp only [if_neg hdeep] at hchecked
    rcases hd : Installation.ofMembers .value (Json.merge s.data.members patch) with data | issues
    · rw [hd] at hchecked
      obtain ⟨_, _, hsave, hreturn⟩ := bind_eq_ok hchecked
      cases hreturn
      exact ⟨s, hload, Nat.le_of_not_lt hdeep, hd, rfl, hsave⟩
    · rw [hd] at hchecked
      cases hchecked
  · rintro ⟨s, hload, hheight, hbecomes, hrest, hsave⟩
    have hdata : Installation.ofMembers .value (Json.merge s.data.members patch) =
        .valid s'.data := hbecomes
    unfold updateData
    rw [bind_of_ok hload]
    simp only [if_neg (Nat.not_lt.mpr hheight), hdata, ← hrest]
    exact bind_of_ok hsave

/-- A sound session that is written in place of another, with the same device, is loaded. -/
theorem load_of_saved (hload : load id a = .ok s a) (hs' : s'.Sound) (hedge : s'.edge = s.edge)
    (hsave : save id s' a = .ok () a') : load id a' = .ok s' a' := by
  obtain ⟨-, hentries⟩ := (load_eq_ok_iff.mp hload).1
  obtain ⟨store, hstore, hwritten, -⟩ := Session.exists_written hs' a.store id
  have hdone : save id s' a = .ok () { a with store } := by
    rw [save, hstore]
  obtain rfl : { a with store } = a' := by
    rw [hsave] at hdone
    cases hdone
    rfl
  -- Without a device, what stands in its entry is left there, and it is still not readable.
  have hbefore : Session.readEdge ((a.store.entries id).get? edgeKey) = s'.edge := by
    rw [Session.readEdge_of_load hentries, hedge]
  have hne : store.entries id ≠ [] := by
    intro hnil
    have hindex := hwritten.index
    rw [hnil] at hindex
    cases hindex
  refine load_eq_ok_iff.mpr ⟨⟨?_, Session.load_of_written hs' hwritten hbefore⟩, rfl⟩
  simpa [SessionStore.has] using hne

theorem Patches.sound (h : Patches id patch a s s' a') : s'.Sound := by
  have hs : s.Sound := Session.sound_of_load (load_eq_ok_iff.mp h.loaded).1.2
  have hwritable : s'.data.IsWritable := by
    by_contra hunwritable
    have hsave := h.saved
    rw [save, Session.save_of_not_writable hunwritable] at hsave
    cases hsave
  rw [h.rest]
  exact { hs with data := h.becomes.inBounds, writable := hwritable }

/-- **The session that an update leaves** is loaded next. -/
theorem Patches.load (h : Patches id patch a s s' a') : load id a' = .ok s' a' := by
  have hedge : s'.edge = s.edge := by
    rw [h.rest]
  exact load_of_saved h.loaded h.sound hedge h.saved

/-- A patch that makes data that can be written is accepted. -/
theorem exists_patches (hload : Assistant.load id a = .ok s a)
    (hheight : (Json.obj patch).height ≤ patchLimit) (hbecomes : s.data.Becomes patch d)
    (hwritable : d.IsWritable) : ∃ a', Patches id patch a s { s with data := d } a' := by
  have hs : s.Sound := Session.sound_of_load (load_eq_ok_iff.mp hload).1.2
  have hs' : Session.Sound { s with data := d } :=
    { hs with data := hbecomes.inBounds, writable := hwritable }
  obtain ⟨store, hstore, -⟩ := Session.exists_written hs' a.store id
  refine ⟨{ a with store }, hload, hheight, hbecomes, rfl, ?_⟩
  rw [save, hstore]

/-! ### Updates, leaf by leaf -/

/-- **A patch of a session that is accepted** changes nothing but the data, and of these the leaves
that it addresses, which are all that there is of them. Whatever else there is in the patch has no
effect; it is accepted again with the same result; and a patch that is accepted as well, and
addresses none of its leaves, can come before or after it. -/
theorem updateData_follows (hpatch : Json.IsTidy (.obj patch))
    (h : updateData id patch a = .ok s' a') :
    ∃ s, load id a = .ok s a ∧ s' = { s with data := s'.data } ∧
      (∀ leaf ∈ Installation.leaves, leaf.Follows patch s.data s'.data ∧
        valueAt? s'.data.members leaf.path = some (leaf.write (leaf.get s'.data))) ∧
      (∀ d, (∀ leaf ∈ Installation.leaves, leaf.get d = leaf.get s'.data) → d = s'.data) ∧
      (∀ patch', Json.IsTidy (.obj patch') → (Json.obj patch').height ≤ patchLimit →
        Installation.Resembles patch' patch → updateData id patch' a = .ok s' a') ∧
      (∃ a'', updateData id patch a' = .ok s' a'') ∧
      ∀ patch' t b, Json.IsTidy (.obj patch') → updateData id patch' a = .ok t b →
        Installation.Apart patch patch' →
        ∃ u c c', updateData id patch' a' = .ok u c ∧ updateData id patch b = .ok u c' := by
  obtain ⟨s, hpatches⟩ := updateData_eq_ok_iff.mp h
  have hs : s.Sound := Session.sound_of_load (load_eq_ok_iff.mp hpatches.loaded).1.2
  have hleaves := (Installation.becomes_iff hs.data hpatch).mp hpatches.becomes
  refine ⟨s, hpatches.loaded, hpatches.rest, ?_, ?_, ?_, ?_, ?_⟩
  · intro leaf hleaf
    exact ⟨hleaves.2 leaf hleaf, (Installation.stands hpatches.sound.data leaf hleaf).written⟩
  · intro d hd
    exact Installation.eq_of_leaves hpatches.sound.data hd
  · intro patch' hpatch' hheight hsame
    have hbecomes := hpatches.becomes.congr hs.data hpatch hpatch' hsame
    exact updateData_eq_ok_iff.mpr ⟨s, { hpatches with height_le := hheight, becomes := hbecomes }⟩
  · have hagain := hpatches.becomes.again hs.data hpatch
    obtain ⟨a'', hpatches'⟩ :=
      exists_patches hpatches.load hpatches.height_le hagain hpatches.sound.writable
    exact ⟨a'', updateData_eq_ok_iff.mpr ⟨s', hpatches'⟩⟩
  · intro patch' t b hpatch' h' hapart
    obtain ⟨s'', hpatches'⟩ := updateData_eq_ok_iff.mp h'
    obtain rfl : s'' = s := by
      have hload := hpatches'.loaded
      rw [hpatches.loaded] at hload
      cases hload
      rfl
    -- Both have been accepted for one session, so each can still be laid over what the other made.
    obtain ⟨d, hd, hd', hwritable⟩ :=
      hpatches.becomes.swap hpatches'.becomes hs.data hpatch hpatch' hapart
    have hwritable := hwritable hpatches.sound.writable hpatches'.sound.writable
    obtain ⟨c, hc⟩ := exists_patches hpatches.load hpatches'.height_le hd hwritable
    obtain ⟨c', hc'⟩ := exists_patches hpatches'.load hpatches.height_le hd' hwritable
    have hsame : { s' with data := d } = ({ t with data := d } : Session) := by
      rw [hpatches.rest, hpatches'.rest]
    refine ⟨{ s' with data := d }, c, c', ?_, ?_⟩
    · exact updateData_eq_ok_iff.mpr ⟨s', hc⟩
    · exact updateData_eq_ok_iff.mpr ⟨t, hsame ▸ hc'⟩

/-- A patch with a name of the customer, and with a member that customers do not have. -/
def namingPatch : Members :=
  [("customer", .obj [("first_name", .str "Ann"), ("nickname", .obj [("short", .null)])])]

/-- It names the customer of a session in which nothing else has been entered. -/
theorem updateData_follows_naming :
    let a : Assistant := { settings := {}, store := sparseStore, gateway := default }
    ∃ s' a' a'', updateData "a" namingPatch a = .ok s' a' ∧
      s'.data = { customer := { contact := { firstName := "Ann" } } } ∧
      updateData "a" namingPatch a' = .ok s' a'' := by
  intro a
  have hload : Session.load (sparseStore.entries "a") =
      .ok { system := .home, viewIndex := 12, edge := some { id := "edge0" } } :=
    eq_ok_of_toOption (by decide +kernel)
  have hpatch : Json.IsTidy (.obj namingPatch) := by
    simp [namingPatch, Json.IsTidy, Json.HaveTidy]
  have hbecomes : Installation.Becomes {} namingPatch
      { customer := { contact := { firstName := "Ann" } } } := rfl
  have hheight : (Json.obj namingPatch).height ≤ patchLimit := by decide
  obtain ⟨a', hpatches⟩ := exists_patches (a := a) (load_eq_ok_iff.mpr ⟨⟨by decide, hload⟩, rfl⟩)
    hheight hbecomes (by decide)
  obtain ⟨s, -, -, -, -, -, ⟨a'', hagain⟩, -⟩ :=
    updateData_follows hpatch (updateData_eq_ok_iff.mpr ⟨_, hpatches⟩)
  exact ⟨_, a', a'', updateData_eq_ok_iff.mpr ⟨_, hpatches⟩, rfl, hagain⟩

end Assistant

end Commissioning
