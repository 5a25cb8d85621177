import Commissioning.Proofs.Session.RoundTrip
import Commissioning.Session.Navigator

/-!
# Moves of a sound session

A sound session stands at one of its views, so a move from it has few outcomes. On to the next
view, the session is kept at the index that follows; past the last view its entries are removed
and the device is handed off. Back from the first view there is no move. A jump is made where
there is a view, and otherwise answered with the index at which the wizard stays.

Each move is described by what it does to the session in hand and to the entries of the store:
`Commissioning.Navigator.advance_of_lt`, `Commissioning.Navigator.advance_of_eq`,
`Commissioning.Navigator.retreat_of_pos`, `Commissioning.Navigator.jumpTo_of_mem` and their
counterparts.
-/

namespace Commissioning

/-- Only the last view comes after the one for the serial numbers. -/
theorem StorageSystem.views_after_serialNumbers (system : StorageSystem) :
    ∀ i < system.viewCount, system.views[i]? = some .protocolSerialNumbers →
      i + 2 = system.viewCount ∧ system.views[i + 1]? = some .completion := by
  cases system <;> decide

namespace Session

/-- The session with the wizard at an index. -/
def movedTo (s : Session) (index : Int) : Session := { s with viewIndex := index }

@[simp] theorem system_movedTo (s : Session) (index : Int) :
    (s.movedTo index).system = s.system := rfl

@[simp] theorem data_movedTo (s : Session) (index : Int) : (s.movedTo index).data = s.data := rfl

@[simp] theorem edge_movedTo (s : Session) (index : Int) : (s.movedTo index).edge = s.edge := rfl

@[simp] theorem viewIndex_movedTo (s : Session) (index : Int) :
    (s.movedTo index).viewIndex = index := rfl

@[simp] theorem viewCount_movedTo (s : Session) (index : Int) :
    (s.movedTo index).viewCount = s.viewCount := rfl

/-- **A sound session stays sound** at any of its views. -/
theorem Sound.movedTo {s : Session} (h : s.Sound) {index : Int} (hindex : 0 ≤ index)
    (hlt : index < s.viewCount) : (s.movedTo index).Sound :=
  { h with index_nonneg := hindex, index_lt := hlt }

theorem Sound.isFinished {s : Session} (h : s.Sound) : s.isFinished = false := by
  have hne : s.viewIndex ≠ s.viewCount := Int.ne_of_lt h.index_lt
  simpa [Session.isFinished] using hne

/-- There is a view where a sound session stands. -/
theorem Sound.currentView {s : Session} (h : s.Sound) :
    s.currentView = .ok s.system.views[s.viewIndex.toNat]? := by
  have hlt : s.viewIndex < s.system.views.length := h.index_lt
  have hpast : ¬s.viewIndex ≥ s.viewCount := Int.not_le.mpr h.index_lt
  have hlow : ¬s.viewIndex < -(2 ^ 63) := Int.not_lt.mpr (Int.le_trans (by decide) h.index_nonneg)
  have hneg : ¬s.viewIndex < 0 := Int.not_lt.mpr h.index_nonneg
  obtain ⟨v, hv⟩ : ∃ v, s.system.views[s.viewIndex.toNat]? = some v :=
    ⟨_, List.getElem?_eq_getElem (by omega)⟩
  rw [Session.currentView, if_neg hpast, viewAt, if_neg hlow]
  simp only [hneg, if_false, hv]
  rfl

/-- The serial numbers are asked for at the last view but one. -/
theorem Sound.viewIndex_of_serialNumbers {s : Session} (h : s.Sound)
    (hview : s.currentView = .ok (some .protocolSerialNumbers)) :
    s.viewIndex + 2 = s.viewCount ∧
      s.system.views[(s.viewIndex + 1).toNat]? = some .completion := by
  have hnonneg := h.index_nonneg
  have hlt := h.index_lt
  rw [h.currentView] at hview
  obtain ⟨hcount, hnext⟩ := s.system.views_after_serialNumbers s.viewIndex.toNat
    (by rw [viewCount] at hlt; omega) (Except.ok.inj hview)
  have htoNat : (s.viewIndex + 1).toNat = s.viewIndex.toNat + 1 := by omega
  refine ⟨?_, by rw [htoNat]; exact hnext⟩
  rw [viewCount]
  omega

end Session

namespace Navigator

variable {s : Session} {id : String} {store store' : SessionStore}

/-- The answer to a move that is made within the views. -/
def madeTo (index : Int) : NavigationResult := { accepted := true, viewIndex := index }

/-- Where a session is shown when it is finished. -/
def handOffOf (s : Session) : HandOff := ⟨s.edgeId?, deviceRoute s.edgeId?⟩

/-- The answer to the move past the last view. -/
def finishedAt (s : Session) : NavigationResult :=
  { accepted := true, viewIndex := s.viewIndex + 1, finished := true,
    handOff := some (handOffOf s) }

theorem persist_of_save {n : Navigator} (h : n.session.save n.id n.store = .ok () store') :
    persist n = .ok (madeTo n.session.viewIndex) { n with store := store' } := by
  rw [persist, h]
  rfl

theorem advance_apply (n : Navigator) : advance n =
    if n.session.isFinished then refuse (n.session.viewIndex + 1) n
    else if (n.setIndex (n.session.viewIndex + 1)).session.isFinished then
      finish (n.setIndex (n.session.viewIndex + 1))
    else persist (n.setIndex (n.session.viewIndex + 1)) := by
  show (if n.session.isFinished then refuse (n.session.viewIndex + 1) else
    (do
      set (n.setIndex (n.session.viewIndex + 1))
      if (n.setIndex (n.session.viewIndex + 1)).session.isFinished then finish else persist :
        Move)) n = _
  split
  · rfl
  · show (if (n.setIndex (n.session.viewIndex + 1)).session.isFinished then finish else persist)
      (n.setIndex (n.session.viewIndex + 1)) = _
    split <;> rfl

theorem retreat_apply (n : Navigator) : retreat n =
    if n.session.viewIndex ≤ 0 ∨ n.session.isFinished then refuse (n.session.viewIndex - 1) n
    else persist (n.setIndex (n.session.viewIndex - 1)) := by
  show (if (decide (n.session.viewIndex ≤ 0) || n.session.isFinished) = true
    then refuse (n.session.viewIndex - 1) else
    (do
      set (n.setIndex (n.session.viewIndex - 1))
      persist : Move)) n = _
  simp only [Bool.or_eq_true, decide_eq_true_eq]
  split <;> rfl

theorem jumpTo_apply (n : Navigator) (index : Int) : jumpTo index n =
    if ¬n.session.isFinished ∧ 0 ≤ index ∧ index < n.session.viewCount then
      persist (n.setIndex index)
    else reject index n := by
  show (if (n.session.isFinished ||
      !(decide (0 ≤ index) && decide (index < n.session.viewCount))) = true
    then reject index else
    (do
      set (n.setIndex index)
      persist : Move)) n = _
  by_cases h : ¬n.session.isFinished ∧ 0 ≤ index ∧ index < n.session.viewCount
  · rw [if_pos h, if_neg (by simp [h])]
    rfl
  · rw [if_neg h, if_pos]
    simp only [Bool.or_eq_true, Bool.not_eq_true', Bool.and_eq_false_iff, decide_eq_false_iff_not]
    by_cases hf : n.session.isFinished = true
    · exact Or.inl hf
    · exact Or.inr (Decidable.not_and_iff_or_not.mp fun hin => h ⟨hf, hin⟩)

/-- **On to the next view.** -/
theorem advance_of_lt (h : s.Sound) (hlt : s.viewIndex + 1 < s.viewCount)
    (hsave : (s.movedTo (s.viewIndex + 1)).save id store = .ok () store') :
    advance { session := s, id, store } = .ok (madeTo (s.viewIndex + 1))
      { session := s.movedTo (s.viewIndex + 1), id, store := store' } := by
  have hnext : ¬(s.movedTo (s.viewIndex + 1)).isFinished = true := by
    have hne : s.viewIndex + 1 ≠ s.viewCount := Int.ne_of_lt hlt
    simpa [Session.isFinished] using hne
  rw [advance_apply, if_neg (by rw [h.isFinished]; decide)]
  exact (if_neg hnext).trans (persist_of_save hsave)

/-- **Past the last view.** -/
theorem advance_of_eq (h : s.Sound) (heq : s.viewIndex + 1 = s.viewCount) :
    advance { session := s, id, store } = .ok (finishedAt s)
      { session := s.movedTo (s.viewIndex + 1), id, store := store.clear id,
        handOffs := [handOffOf s] } := by
  have hnext : (s.movedTo (s.viewIndex + 1)).isFinished = true := by
    simpa [Session.isFinished] using heq
  rw [advance_apply, if_neg (by rw [h.isFinished]; decide)]
  exact if_pos hnext

/-- **Back to the view before.** -/
theorem retreat_of_pos (h : s.Sound) (hpos : 0 < s.viewIndex)
    (hsave : (s.movedTo (s.viewIndex - 1)).save id store = .ok () store') :
    retreat { session := s, id, store } = .ok (madeTo (s.viewIndex - 1))
      { session := s.movedTo (s.viewIndex - 1), id, store := store' } := by
  have hmove : ¬(s.viewIndex ≤ 0 ∨ s.isFinished = true) := by
    rw [h.isFinished]
    simpa using hpos
  rw [retreat_apply, if_neg hmove]
  exact persist_of_save hsave

/-- An index of at most two digits is refused as being out of bounds. -/
theorem refuse_apply {index : Int} (hindex : index.natAbs < 100) (n : Navigator) :
    refuse index n = .error (.outOfBounds index n.session.viewCount) n := by
  rw [refuse, Session.text_of_natAbs_lt hindex]
  rfl

/-- Back from the first view there is no move. -/
theorem retreat_of_nonpos (h : s.Sound) (hpos : ¬0 < s.viewIndex) :
    retreat { session := s, id, store } =
      .error (.outOfBounds (s.viewIndex - 1) s.viewCount) { session := s, id, store } := by
  have hnonneg := h.index_nonneg
  have hindex : (s.viewIndex - 1).natAbs < 100 := by omega
  rw [retreat_apply, if_pos (Or.inl (Int.not_lt.mp hpos))]
  exact refuse_apply hindex _

/-- **To the view at an index.** -/
theorem jumpTo_of_mem (h : s.Sound) {index : Int} (hindex : 0 ≤ index ∧ index < s.viewCount)
    (hsave : (s.movedTo index).save id store = .ok () store') :
    jumpTo index { session := s, id, store } = .ok (madeTo index)
      { session := s.movedTo index, id, store := store' } := by
  rw [jumpTo_apply, if_pos ⟨by rw [h.isFinished]; decide, hindex⟩]
  exact persist_of_save hsave

/-- The answer to a jump to where there is no view; an index that is too long has none. -/
def rejectedAt (s : Session) (index : Int) : Except NavigationError NavigationResult :=
  match Number.text (.int index) with
  | .ok text => .ok { accepted := false, viewIndex := s.viewIndex,
                      error := some s!"view index {text} is out of bounds" }
  | .error e => .error (.unwritable e)

theorem finished_of_rejectedAt {index : Int} {result : NavigationResult}
    (h : rejectedAt s index = .ok result) : result.finished = false := by
  unfold rejectedAt at h
  split at h
  · obtain rfl := Except.ok.inj h
    rfl
  · cases h

theorem reject_apply (index : Int) (n : Navigator) : reject index n =
    match rejectedAt n.session index with
    | .ok r => .ok r n
    | .error e => .error e n := by
  rw [reject, rejectedAt]
  rcases Number.text (.int index) with e | text <;> rfl

/-- A jump to where there is no view is not made. -/
theorem jumpTo_of_not_mem {index : Int} (hindex : ¬(0 ≤ index ∧ index < s.viewCount)) :
    jumpTo index { session := s, id, store } =
      match rejectedAt s index with
      | .ok r => .ok r { session := s, id, store }
      | .error e => .error e { session := s, id, store } := by
  rw [jumpTo_apply, if_neg fun hin => hindex hin.2, reject_apply]

end Navigator

end Commissioning
