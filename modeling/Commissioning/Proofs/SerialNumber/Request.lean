import Commissioning.Api.Server
import Commissioning.Proofs.Installation.Writable

/-!
# Values that are sent in

The values of a form for serial numbers are whatever stands in the body of a request, to any depth.
Some of them are stored as the text that they are shown with, and that is possible only for a value
that can be written down (`Commissioning.TowerValues.AreWritable`).

**Every value that is sent in can be** (`Commissioning.Server.areWritable_of_body`): it comes from a
document, in which a whole number has no more digits than can be written, and reading the form off
the document adds nothing. Members that are there several times are dropped but for one, at every
depth, and so the values of the form are among those of the document
(`Commissioning.Intake.keeps_object`, `Commissioning.Intake.keeps_byNumber`).
-/

namespace Commissioning

namespace Json

mutual

/-- Dropping members leaves what can be written. -/
theorem isWritable_tidied : ∀ {j : Json}, j.IsWritable → j.tidied.IsWritable
  | .null, h | .bool _, h | .int _, h | .float _, h | .str _, h | .torn _, h => h
  | .arr items, h => by
    rw [tidied, isWritable_arr]
    exact isWritable_of_mem_tidiedItems (isWritable_arr.mp h)
  | .obj members, h => by
    rw [tidied, isWritable_obj]
    -- Of members with one name the last is left, which is one of those that were there.
    intro m hm
    exact isWritable_of_mem_tidiedMembers (isWritable_obj.mp h) m (Assoc.mem_of_mem_ofList hm)

theorem isWritable_of_mem_tidiedItems : ∀ {items : List Json}, (∀ j ∈ items, j.IsWritable) →
    ∀ j ∈ tidiedItems items, j.IsWritable
  | [], h => h
  | j :: js, h => by
    rw [List.forall_mem_cons] at h
    rw [tidiedItems, List.forall_mem_cons]
    exact ⟨isWritable_tidied h.1, isWritable_of_mem_tidiedItems h.2⟩

theorem isWritable_of_mem_tidiedMembers : ∀ {members : List (String × Json)},
    (∀ m ∈ members, m.2.IsWritable) → ∀ m ∈ tidiedMembers members, m.2.IsWritable
  | [], h => h
  | (name, j) :: ms, h => by
    rw [List.forall_mem_cons] at h
    rw [tidiedMembers, List.forall_mem_cons]
    exact ⟨isWritable_tidied h.1, isWritable_of_mem_tidiedMembers h.2⟩

end

end Json

namespace Intake

/-- **An object with any members** has values that can be written. -/
theorem keeps_object : Keeps object fun ms => ∀ m ∈ ms, m.2.IsWritable := by
  intro j ms hj hms
  cases j with
  | obj members =>
    obtain rfl := Checked.valid.inj hms
    intro m hm
    exact Json.isWritable_of_mem_tidiedMembers (Json.isWritable_obj.mp hj) m
      (Assoc.mem_of_mem_ofList hm)
  | _ => cases hms

section Keeps

variable {α : Type} {read : Intake α} {good : α → Prop}

theorem Keeps.numberedMembers (h : Keeps read good) {members : List (String × Json)}
    {entries : List (Int × α)} (hmembers : ∀ m ∈ members, m.2.IsWritable)
    (hentries : Intake.numberedMembers read members = .valid entries) :
    ∀ e ∈ entries, good e.2 := by
  induction members generalizing entries with
  | nil =>
    obtain rfl := Checked.valid.inj hentries
    simp
  | cons m ms ih =>
    obtain ⟨name, j⟩ := m
    rw [List.forall_mem_cons] at hmembers
    obtain ⟨_, rest, hcons, hrest, rfl⟩ := Checked.seq_eq_valid hentries
    obtain ⟨entry, hentry, rfl⟩ := Checked.map_eq_valid hcons
    obtain ⟨_, a, hnumber, ha, rfl⟩ := Checked.seq_eq_valid hentry
    obtain ⟨number, -, rfl⟩ := Checked.map_eq_valid hnumber
    rw [List.forall_mem_cons]
    exact ⟨h j a hmembers.1 (Checked.under_eq_valid ha), ih hmembers.2 hrest⟩

/-- **An object with numbers as keys** keeps under each what is kept of a value. -/
theorem keeps_byNumber (h : Keeps read good) :
    Keeps (Intake.byNumber read) fun entries => ∀ e ∈ entries, good e.2 := by
  intro j entries hj hentries
  cases j with
  | obj members =>
    obtain ⟨pairs, hpairs, rfl⟩ := Checked.map_eq_valid hentries
    intro e he
    exact h.numberedMembers (Json.isWritable_obj.mp hj) hpairs e (Assoc.mem_of_mem_ofList he)
  | _ => cases hentries

end Keeps

end Intake

/-! ### The form -/

/-- The values given for a tower. -/
def TowerValues.ofTower (values : TowerValues) (t : Tower) : Members :=
  (values.get? t.number).getD []

/-- Each value of a form is one that can be written down. -/
def TowerValues.AreWritable (values : TowerValues) : Prop :=
  ∀ t key v, (values.ofTower t).get? key = some v → v.IsWritable

theorem TowerValues.areWritable_of_mem {values : TowerValues}
    (h : ∀ e ∈ values, ∀ m ∈ e.2, m.2.IsWritable) : values.AreWritable := by
  intro t key v hv
  rw [ofTower] at hv
  cases hgiven : values.get? t.number with
  | none =>
    rw [hgiven] at hv
    cases hv
  | some members =>
    rw [hgiven] at hv
    exact h _ (Assoc.mem_of_get? hgiven) _ (Assoc.mem_of_get? hv)

theorem SubmitRequest.keeps_intake : Intake.Keeps intake fun r => r.towers.AreWritable := by
  refine Intake.Keeps.record fun ms r hms hr => ?_
  obtain ⟨_, towers, hsettings, htowers, rfl⟩ := Checked.seq_eq_valid hr
  obtain ⟨settings, -, rfl⟩ := Checked.map_eq_valid hsettings
  exact TowerValues.areWritable_of_mem
    ((Intake.keeps_byNumber Intake.keeps_object).member (by simp) hms htowers)

namespace Server

/-- **A form that the server takes** from the body of a request has values that can be written
down. -/
theorem areWritable_of_body {body : String} {content : BodyContent} {r : SubmitRequest}
    (hbody : readBody body = .ok content) (hr : required SubmitRequest.intake content = .ok r) :
    r.towers.AreWritable := by
  cases content with
  | nothing => cases hr
  | document j =>
    have hj : j.IsWritable := by
      unfold readBody at hbody
      split at hbody
      · cases hbody
      · split at hbody
        · cases hbody
        · next cs _ =>
          have hfits := Json.fits_readDocument cs
          split at hbody
          · next hread =>
            obtain rfl := BodyContent.document.inj (Except.ok.inj hbody)
            rw [hread] at hfits
            exact hfits.1
          · cases hbody
    rw [required] at hr
    split at hr
    · next hvalid =>
      obtain rfl := Except.ok.inj hr
      exact SubmitRequest.keeps_intake j _ hj hvalid
    · cases hr

end Server

end Commissioning
