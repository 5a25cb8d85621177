import Commissioning.Proofs.Assistant.Atomic
import Commissioning.Proofs.Installation.Rules

/-!
# Leaving a view

The wizard leaves a view only if the data that the view has collected are in order. **They are in
order exactly if none of the rules of the view is violated**
(`Commissioning.Assistant.advance_follows_rules`): then the move is made, and otherwise the
assistant stays as it is and complains under the identifiers of the rules that are violated.

There is no third case. A session that is loaded stands at a view, whatever is in its entries; the
check does not fail on any installation; and what has been loaded can be written again.
-/

namespace Commissioning

/-- A step that is accepted leaves no doubt about the fuse: it has a rating, which is not the
choice that stands for another one. -/
theorem LineSideMeterFuse.rating_of_rules {f : LineSideMeterFuse} (h : ∀ r ∈ f.rules, r.holds) :
    ∃ n, f.rating? = some n ∧ n ≠ otherRating := by
  obtain ⟨⟨n, hn, hfixed⟩, hother, -⟩ : (∃ n ∈ [35, 40, 50, 63, 80, -1], f.fixedValue = some n) ∧
      (f.fixedValue = some (-1) → ∃ n, f.otherValue = some n ∧ 1 ≤ n ∧ n ≤ 1000) ∧ True := by
    simpa [rules] using h
  by_cases hchoice : f.fixedValue = some otherRating
  · obtain ⟨m, hm, hleast, -⟩ := hother hchoice
    refine ⟨m, by rw [rating?, if_pos hchoice, hm], ?_⟩
    rw [otherRating]
    omega
  · refine ⟨n, by rw [rating?, if_neg hchoice, hfixed], ?_⟩
    rintro rfl
    exact hchoice hfixed

namespace Assistant

variable {id : String} {s : Session} {a : Assistant}

theorem advance_of_completed (hload : load id a = .ok s a) (h : s.completed = .ok ()) :
    advance id a = navigate id s Navigator.advance a := by
  rw [advance_eq, bind_of_ok hload, h]
  rfl

theorem advance_of_not_completed {e : AssistantError} (hload : load id a = .ok s a)
    (h : s.completed = .error e) : advance id a = .error e a := by
  rw [advance_eq, bind_of_ok hload, h]
  rfl

theorem completed_of_complaints {view : Option View} {complaints : Complaints}
    (hview : s.currentView = .ok view) (h : checkStep view s.system s.data = .ok complaints) :
    s.completed = if complaints = [] then .ok () else .error (.invalidFields complaints) := by
  rw [Session.completed, hview]
  show ((checkStep view s.system s.data).mapError AssistantError.unwritable >>= _) = _
  rw [h]
  cases complaints with
  | nil => rfl
  | cons c cs => rfl

/-- A wizard that may move on does. -/
theorem exists_navigate_advance (hs : s.Sound) :
    ∃ a', navigate id s Navigator.advance a =
      .ok (s.forward.1, s.movedTo (s.viewIndex + 1)) a' := by
  have hnonneg := hs.index_nonneg
  have hlt := hs.index_lt
  unfold Session.forward
  split
  · next hnext =>
    -- Only a move to another view is stored; at the last one there is nowhere to go.
    have hmoved : (s.movedTo (s.viewIndex + 1)).Sound := hs.movedTo (by omega) hnext
    obtain ⟨store, hsave⟩ := Session.exists_save hmoved.writable hmoved.whole
      hmoved.index_near id a.store
    exact ⟨_, navigate_of_ok (Navigator.advance_of_lt hs hnext hsave)⟩
  · exact ⟨_, navigate_of_ok (Navigator.advance_of_eq hs (by omega))⟩

/-- **A view is left exactly if none of its rules is violated.** The check gives a complaint for
each rule that is, under its identifier; at the view of the fuse it lets through none without a
rating; and the wizard moves on if there are no complaints, and not if there are. -/
theorem advance_follows_rules :
    (∀ view system (d : Installation), ∃ complaints, checkStep view system d = .ok complaints ∧
      Rule.Violated (d.rules view system) (complaints.map Prod.fst)) ∧
    (∀ system (d : Installation), checkStep (some .configurationLineSideMeterFuse) system d =
      .ok [] → ∃ n, d.lineSideMeterFuse.rating? = some n ∧ n ≠ otherRating) ∧
    ∀ id s a, load id a = .ok s a → ∃ view, s.currentView = .ok view ∧
      ((∀ r ∈ s.data.rules view s.system, r.holds) →
        ∃ a', advance id a = .ok (s.forward.1, s.movedTo (s.viewIndex + 1)) a') ∧
      ((∃ r ∈ s.data.rules view s.system, ¬r.holds) → ∃ complaints,
        Rule.Violated (s.data.rules view s.system) (complaints.map Prod.fst) ∧
        advance id a = .error (.invalidFields complaints) a) := by
  refine ⟨Installation.exists_checkStep, ?_, ?_⟩
  · intro system d haccepted
    obtain ⟨complaints, hcheck, hviolated⟩ :=
      Installation.exists_checkStep (some .configurationLineSideMeterFuse) system d
    rw [haccepted] at hcheck
    cases hcheck
    exact LineSideMeterFuse.rating_of_rules (hviolated.holds rfl)
  · intro id s a hload
    have hs : s.Sound := Session.sound_of_load (load_eq_ok_iff.mp hload).1.2
    obtain ⟨complaints, hcheck, hviolated⟩ :=
      Installation.exists_checkStep s.system.views[s.viewIndex.toNat]? s.system s.data
    have hcompleted := completed_of_complaints hs.currentView hcheck
    have hnone : complaints = [] ↔
        ∀ r ∈ s.data.rules s.system.views[s.viewIndex.toNat]? s.system, r.holds := by
      rw [← List.map_eq_nil_iff (f := Prod.fst)]
      exact ⟨hviolated.holds, hviolated.eq_nil⟩
    refine ⟨_, hs.currentView, ?_, ?_⟩
    · intro hholds
      rw [if_pos (hnone.mpr hholds)] at hcompleted
      rw [advance_of_completed hload hcompleted]
      exact exists_navigate_advance hs
    · rintro ⟨r, hr, hbroken⟩
      rw [if_neg fun hnil => hbroken (hnone.mp hnil r hr)] at hcompleted
      exact ⟨complaints, hviolated, advance_of_not_completed hload hcompleted⟩

/-- As little of a session as can be stored at the view of the customer. -/
def customerStore : SessionStore :=
  ((SessionStore.empty .memory).set "a" systemKey "\x7b\"id\":\"FENECON_HOME\"\x7d").set "a"
    viewIndexKey "4"

/-- It is not left without a name. -/
theorem advance_follows_rules_unnamed :
    ∃ complaints, advance "a" { settings := {}, store := customerStore, gateway := default } =
      .error (.invalidFields complaints)
        { settings := {}, store := customerStore, gateway := default } := by
  have hload : Session.load (customerStore.entries "a") = .ok { system := .home, viewIndex := 4 } :=
    eq_ok_of_toOption (by decide +kernel)
  obtain ⟨view, hview, -, hblocked⟩ := advance_follows_rules.2.2 "a" _
    { settings := {}, store := customerStore, gateway := default }
    (load_eq_ok_iff.mpr ⟨⟨by decide, hload⟩, rfl⟩)
  obtain rfl : view = some .protocolCustomer := by
    cases hview
    rfl
  have hname : Text.isEmptyText "" ≠ false := by decide
  obtain ⟨complaints, -, hadvance⟩ := hblocked
    ⟨⟨"customer.first_name", IsFilled ""⟩, List.mem_cons_self, hname⟩
  exact ⟨complaints, hadvance⟩

end Assistant

end Commissioning
