import Commissioning.Assistant.Inquiry
import Commissioning.Proofs.Assistant.Ledger
import Commissioning.Proofs.Protocol.Assembly

/-!
# Operations of the assistant, by what the store holds

A store **holds** a record under an identifier (`Commissioning.SessionStore.Holds`) if it has no
entries for it and there is no record, or if its entries keep the session on record and the
session is sound. An operation of the assistant is described by the record it finds and the
record it leaves (`Commissioning.Assistant.Yields`): everything else about the assistant is as
it was, but for the number of finished sessions (`Commissioning.Assistant.Turned`).

For every operation on a session this is the operation of the ledger
(`Commissioning.Assistant.perform_yields`), so what is read back from the texts is what the
ledger has on record. That an operation leaves a sound session is shown on the way: the bounds of
the data come from their reader, and the index from the navigator.
-/

namespace Commissioning

namespace SessionStore

/-- What a store has under an identifier: nothing, or the entries of a sound session. -/
def Holds (store : SessionStore) (id : String) : Option Session → Prop
  | none => store.entries id = []
  | some s => s.Sound ∧ s.Kept (store.entries id)

variable {store : SessionStore} {id : String}

theorem Holds.has {r : Option Session} (h : store.Holds id r) : store.has id = r.isSome := by
  rcases r with _ | s
  · have hnil : store.entries id = [] := h
    rw [SessionStore.has, hnil]
    rfl
  · have hne : store.entries id ≠ [] := by
      intro hnil
      have hindex := h.2.index
      rw [hnil] at hindex
      cases hindex
    simpa [SessionStore.has] using hne

/-- No device is left over where the session has none. -/
theorem Holds.edge_eq_none {s : Session} (h : store.Holds id (some s)) (he : s.edge = none) :
    (store.entries id).get? edgeKey = none := by
  rw [h.2.edge, he]
  rfl

theorem Holds.congr {store' : SessionStore} {r : Option Session} (h : store.Holds id r)
    (heq : store'.entries id = store.entries id) : store'.Holds id r := by
  cases r with
  | none => exact heq.trans h
  | some s => exact ⟨h.1, heq ▸ h.2⟩

end SessionStore

namespace Assistant

variable {α β : Type} {id : String} {a : Assistant} {s : Session} {r : Option Session}

/-- **All that an operation on a session may change**: what is held under its identifier, and
the number of finished sessions. -/
structure Turned (id : String) (r : Option Session) (finished : Nat) (a a' : Assistant) :
    Prop where
  held : a'.store.Holds id r
  frame : ∀ other, other ≠ id → a'.store.entries other = a.store.entries other
  busy : a'.busy = a.busy
  settings : a'.settings = a.settings
  finishedCount : a'.finishedCount = a.finishedCount + finished

theorem Turned.refl (h : a.store.Holds id r) : Turned id r 0 a a :=
  ⟨h, fun _ _ => rfl, rfl, rfl, rfl⟩

theorem Turned.trans {r' : Option Session} {m n : Nat} {a' a'' : Assistant}
    (h : Turned id r m a a') (h' : Turned id r' n a' a'') : Turned id r' (m + n) a a'' :=
  ⟨h'.held, fun other hother => (h'.frame other hother).trans (h.frame other hother),
    h'.busy.trans h.busy, h'.settings.trans h.settings, by
      rw [h'.finishedCount, h.finishedCount, Nat.add_assoc]⟩

/-- The result of an operation with the outcome. -/
def resultOf {σ : Type} (outcome : Except AssistantError α) (state : σ) :
    EStateM.Result AssistantError σ α :=
  match outcome with
  | .ok x => .ok x state
  | .error e => .error e state

/-- **What an operation does**: its outcome, the record it leaves under the identifier, and how
many sessions it finishes. -/
def Yields (m : AssistantM α) (id : String) (a : Assistant) (outcome : Except AssistantError α)
    (r : Option Session) (finished : Nat) : Prop :=
  ∃ a', m a = resultOf outcome a' ∧ Turned id r finished a a'

/-! ### Steps of an operation -/

theorem yields_pure (h : a.store.Holds id r) (x : α) :
    Yields (pure x : AssistantM α) id a (.ok x) r 0 :=
  ⟨a, rfl, Turned.refl h⟩

theorem yields_throw (h : a.store.Holds id r) (e : AssistantError) :
    Yields (throw e : AssistantM α) id a (.error e) r 0 :=
  ⟨a, rfl, Turned.refl h⟩

theorem bind_of_ok {m : AssistantM α} {f : α → AssistantM β} {x : α} {a' : Assistant}
    (h : m a = .ok x a') : (m >>= f) a = f x a' := by
  show EStateM.bind m f a = _
  rw [EStateM.bind, h]

theorem bind_of_error {m : AssistantM α} {f : α → AssistantM β} {e : AssistantError}
    {a' : Assistant} (h : m a = .error e a') : (m >>= f) a = .error e a' := by
  show EStateM.bind m f a = _
  rw [EStateM.bind, h]

theorem load_of_holds (h : a.store.Holds id (some s)) : load id a = .ok s a := by
  have hstore : load id a =
      (if a.store.has id then ofExcept .unreadable (Session.load (a.store.entries id))
        else throw (.sessionNotFound id) : AssistantM Session) a := rfl
  rw [hstore, h.has]
  show ofExcept .unreadable (Session.load (a.store.entries id)) a = _
  rw [Session.load_of_kept h.1 h.2]
  rfl

theorem load_of_not_holds (h : a.store.Holds id none) :
    load id a = .error (.sessionNotFound id) a := by
  have hstore : load id a =
      (if a.store.has id then ofExcept .unreadable (Session.load (a.store.entries id))
        else throw (.sessionNotFound id) : AssistantM Session) a := rfl
  rw [hstore, h.has]
  rfl

theorem yields_load (h : a.store.Holds id (some s)) : Yields (load id) id a (.ok s) (some s) 0 :=
  ⟨a, load_of_holds h, Turned.refl h⟩

theorem yields_load_of_none (h : a.store.Holds id none) :
    Yields (load id) id a (.error (.sessionNotFound id)) none 0 :=
  ⟨a, load_of_not_holds h, Turned.refl h⟩

/-- **Loading** gives the session that is held. -/
theorem yields_load_bind (h : a.store.Holds id (some s)) {f : Session → AssistantM α}
    {outcome : Except AssistantError α} {n : Nat} (hf : Yields (f s) id a outcome r n) :
    Yields (load id >>= f) id a outcome r n := by
  obtain ⟨a', hresult, hturned⟩ := hf
  exact ⟨a', (bind_of_ok (load_of_holds h)).trans hresult, hturned⟩

theorem yields_load_bind_of_none (h : a.store.Holds id none) {f : Session → AssistantM α} :
    Yields (load id >>= f) id a (.error (.sessionNotFound id)) none 0 :=
  ⟨a, bind_of_error (load_of_not_holds h), Turned.refl h⟩

theorem yields_ofExcept_bind {ε : Type} {wrap : ε → AssistantError} {x : Except ε β}
    {f : β → AssistantM α} (h : a.store.Holds id r)
    {outcome : Except AssistantError α} {r' : Option Session} {n : Nat}
    (hok : ∀ b, x = .ok b → Yields (f b) id a outcome r' n)
    (herror : ∀ e, x = .error e → outcome = .error (wrap e) ∧ r' = r ∧ n = 0) :
    Yields (ofExcept wrap x >>= f) id a outcome r' n := by
  cases x with
  | ok b => exact hok b rfl
  | error e =>
    obtain ⟨rfl, rfl, rfl⟩ := herror e rfl
    exact ⟨a, rfl, Turned.refl h⟩

theorem yields_ofExcept_ok_bind {ε : Type} {wrap : ε → AssistantError} {b : β}
    {f : β → AssistantM α} {outcome : Except AssistantError α} {n : Nat}
    (h : Yields (f b) id a outcome r n) :
    Yields (ofExcept wrap (.ok b) >>= f) id a outcome r n := h

theorem yields_get_bind {f : Assistant → AssistantM α} {outcome : Except AssistantError α} {n : Nat}
    (h : Yields (f a) id a outcome r n) : Yields (get >>= f) id a outcome r n := h

/-- **Saving a sound session** puts it on record, if it has a device or none was held. -/
theorem save_of_sound {s' : Session} (hs : s'.Sound)
    (hleft : s'.edge = none → (a.store.entries id).get? edgeKey = none) :
    ∃ a', save id s' a = .ok () a' ∧ Turned id (some s') 0 a a' := by
  obtain ⟨store', hsave, hkept, hframe⟩ := Session.save_of_sound hs hleft
  refine ⟨{ a with store := store' }, ?_, ⟨hs, hkept⟩, hframe, rfl, rfl, rfl⟩
  rw [save, hsave]

theorem yields_save_bind {s' : Session} (hs : s'.Sound)
    (hleft : s'.edge = none → (a.store.entries id).get? edgeKey = none) {f : Unit → AssistantM α}
    {outcome : Except AssistantError α} {n : Nat}
    (hf : ∀ a', a'.store.Holds id (some s') → Yields (f ()) id a' outcome r n) :
    Yields (save id s' >>= f) id a outcome r n := by
  obtain ⟨a', hsave, hturned⟩ := save_of_sound hs hleft
  obtain ⟨a'', hresult, hturned'⟩ := hf a' hturned.held
  refine ⟨a'', (bind_of_ok hsave).trans hresult, ?_⟩
  rw [← Nat.zero_add n]
  exact hturned.trans hturned'

theorem yields_save {s' : Session} (hs : s'.Sound)
    (hleft : s'.edge = none → (a.store.entries id).get? edgeKey = none) (x : α) :
    Yields (do save id s'; return x) id a (.ok x) (some s') 0 :=
  yields_save_bind hs hleft fun _ h => yields_pure h x

/-- **A session that cannot be written** leaves everything as it is. -/
theorem yields_save_of_not_writable {s' : Session} (hs : ¬s'.data.IsWritable)
    (h : a.store.Holds id r) (x : α) :
    Yields (do save id s'; return x) id a (.error (.unwritable .tooManyDigits)) r 0 := by
  have hsave : save id s' a = .error (.unwritable .tooManyDigits) a := by
    rw [save, Session.save_of_not_writable hs]
  exact ⟨a, bind_of_error hsave, Turned.refl h⟩

theorem save_of_torn (s' : Session) {e : Edge} {t : TornText} (he : s'.edge = some e)
    (ht : e.torn? = some t) {a' : Assistant} (h : save id { s' with edge := none } a = .ok () a') :
    save id s' a = .error (.unwritable (.torn t)) a' := by
  unfold save at h ⊢
  rcases hsave : Session.save { s' with edge := none } id a.store with ⟨⟨⟩, store⟩ | ⟨e', store⟩
  · rw [hsave] at h
    cases h
    rw [Session.save_of_torn he ht hsave]
  · rw [hsave] at h
    cases h

/-- **A session with a device that cannot be written** is written with the device that is held
instead, or with none. -/
theorem yields_save_of_torn (s' : Session) {e : Edge} {t : TornText} (he : s'.edge = some e)
    (ht : e.torn? = some t) {edge : Option Edge} (hs : Session.Sound { s' with edge })
    (hedge : (a.store.entries id).get? edgeKey = edge.bind fun e => e.toJson.write) (x : α) :
    Yields (do save id s'; return x) id a (.error (.unwritable (.torn t)))
      (some { s' with edge }) 0 := by
  obtain ⟨store', hsave, hwritten, hframe⟩ := Session.exists_written hs.unbound a.store id
  have hsave' : save id { s' with edge := none } a = .ok () { a with store := store' } := by
    rw [save, hsave]
  refine ⟨_, bind_of_error (save_of_torn s' he ht hsave'), ⟨hs, ?_⟩, hframe, rfl, rfl, rfl⟩
  exact ⟨hwritten.system, hwritten.index, hwritten.edge.trans hedge⟩

/-- **Removing the entries** of a session leaves nothing under its identifier. -/
theorem turned_clear (id : String) (a : Assistant) (finished : Nat) :
    Turned id none finished a
      { a with store := a.store.clear id, finishedCount := a.finishedCount + finished } := by
  refine ⟨?_, ?_, rfl, rfl, rfl⟩
  · show (a.store.clear id).entries id = []
    rw [SessionStore.entries_clear, if_pos rfl]
  · intro other hother
    show (a.store.clear id).entries other = _
    rw [SessionStore.entries_clear, if_neg (Ne.symm hother)]

theorem yields_map {m : AssistantM α} {outcome : Except AssistantError α} {n : Nat}
    (h : Yields m id a outcome r n) (f : α → β) : Yields (f <$> m) id a (outcome.map f) r n := by
  obtain ⟨a', hresult, hturned⟩ := h
  refine ⟨a', ?_, hturned⟩
  show EStateM.map f m a = _
  rw [EStateM.map, hresult]
  cases outcome <;> rfl

/-! ### Binding, choosing, patching -/

theorem sound_fresh {edge : Option Edge} (hedge : ∀ e ∈ edge, e.InBounds)
    (hwhole : ∀ e ∈ edge, e.IsWhole) : Session.Sound { edge } where
  data := Installation.inBounds_default
  writable := show Installation.IsWritable {} by decide
  edge := hedge
  whole := hwhole
  index_nonneg := Int.le_refl 0
  index_lt := show (0 : Int) < StorageSystem.general.viewCount by decide

theorem yields_createSession (h : a.store.Holds id none) {edge : Option Edge}
    (hedge : ∀ e ∈ edge, e.InBounds) :
    Yields (createSession id edge) id a (Session.created edge)
      (Operation.replaced {} (Session.created edge)).2 0 := by
  have hleft : (a.store.entries id).get? edgeKey = none := by
    have hnil : a.store.entries id = [] := h
    rw [hnil]
    rfl
  rcases edge with _ | e
  · exact yields_save (sound_fresh hedge (by rintro _ ⟨⟩)) (fun _ => hleft) _
  · rw [Session.created, Session.bound]
    rcases ht : e.torn? with _ | t
    · have hs : Session.Sound { edge := some e } := sound_fresh hedge (by rintro _ ⟨⟩; exact ht)
      exact yields_save hs (fun _ => hleft) _
    · have hs : Session.Sound {} := sound_fresh (by rintro _ ⟨⟩) (by rintro _ ⟨⟩)
      exact yields_save_of_torn { edge := some e } rfl ht hs hleft _

theorem yields_abandonSession (h : a.store.Holds id (some s)) :
    Yields (abandonSession id) id a (.ok ()) none 0 :=
  yields_load_bind h ⟨_, rfl, turned_clear id a 0⟩

theorem yields_bindEdge (h : a.store.Holds id (some s)) {edge : Edge} (hedge : edge.InBounds) :
    Yields (bindEdge id edge) id a (s.bound edge) (Operation.replaced s (s.bound edge)).2 0 := by
  refine yields_load_bind h ?_
  rw [Session.bound]
  rcases ht : edge.torn? with _ | t
  · have hsound : Session.Sound { s with edge := some edge } :=
      { h.1 with
        edge := by
          rintro e ⟨⟩
          exact hedge
        whole := by
          rintro e ⟨⟩
          exact ht }
    exact yields_save hsound (fun he => absurd he (by simp)) _
  · exact yields_save_of_torn { s with edge := some edge } rfl ht h.1 h.2.edge _

/-- The index at which a session goes on is one of a view. -/
theorem mappedIndex_mem (system : StorageSystem) (view : View) {index : Int} (h : 0 ≤ index) :
    0 ≤ mappedIndex system view index ∧ mappedIndex system view index < system.viewCount := by
  have hpos := system.viewCount_pos
  unfold mappedIndex
  split
  · next i hi =>
    have hlt : i < system.views.length := by
      rw [StorageSystem.indexOf?, List.idxOf?, List.findIdx?_eq_some_iff_getElem] at hi
      exact hi.1
    have hcount : system.viewCount = system.views.length := rfl
    omega
  · omega

theorem sound_of_withSystem {s' : Session} {system : StorageSystem} (h : s.Sound)
    (hs : withSystem s system = .ok s') : s'.Sound ∧ s'.edge = s.edge := by
  unfold withSystem at hs
  rcases hv : Session.viewAt s.system.views s.viewIndex with e | view
  · rw [hv] at hs
    cases hs
  · rw [hv] at hs
    obtain rfl := Except.ok.inj hs
    have hmem := mappedIndex_mem system view h.index_nonneg
    exact ⟨{ h with index_nonneg := hmem.1, index_lt := hmem.2 }, rfl⟩

/-- A system that cannot be chosen is refused, whether there is a session or not. -/
theorem yields_selectSystem_of_unknown (h : a.store.Holds id r) {systemId : String}
    (hsystem : selectable? systemId = none) :
    Yields (selectSystem id systemId) id a (.error (.unknownSystem systemId)) r 0 := by
  have hfilter : (StorageSystem.ofId? systemId).filter (!·.isGeneral) = none := hsystem
  unfold selectSystem
  rw [hfilter]
  exact yields_throw h _

theorem yields_selectSystem_of_none (h : a.store.Holds id none) {systemId : String}
    {system : StorageSystem} (hsystem : selectable? systemId = some system) :
    Yields (selectSystem id systemId) id a (.error (.sessionNotFound id)) none 0 := by
  have hfilter : (StorageSystem.ofId? systemId).filter (!·.isGeneral) = some system := hsystem
  unfold selectSystem
  rw [hfilter]
  exact yields_load_bind_of_none h

theorem yields_selectSystem (h : a.store.Holds id (some s)) {systemId : String}
    {system : StorageSystem} (hsystem : selectable? systemId = some system) :
    Yields (selectSystem id systemId) id a (s.selected system)
      (Operation.replaced s (s.selected system)).2 0 := by
  have hfilter : (StorageSystem.ofId? systemId).filter (!·.isGeneral) = some system := hsystem
  unfold selectSystem
  rw [hfilter]
  refine yields_load_bind h ?_
  unfold Session.selected
  split
  · exact yields_pure h s
  split
  · exact yields_throw h _
  rcases hw : withSystem s system with e | s'
  · exact yields_throw h _
  · obtain ⟨hsound, hedge⟩ := sound_of_withSystem h.1 hw
    exact yields_save hsound (fun he => h.edge_eq_none (hedge ▸ he)) s'

theorem yields_updateData (h : a.store.Holds id (some s)) (patch : Members) :
    Yields (updateData id patch) id a ((s.patched patch).map fun data => { s with data })
      (Operation.replaced s ((s.patched patch).map fun data => { s with data })).2 0 := by
  refine yields_load_bind h ?_
  unfold Session.patched
  -- Three things can be wrong with a patch: its depth, the data that it makes, and the length of
  -- their whole numbers, which is noticed only when they are written.
  by_cases hdeep : patchLimit < (Json.obj patch).height
  · simp only [if_pos hdeep]
    exact yields_throw h _
  simp only [if_neg hdeep]
  rcases hd : Installation.ofMembers .value (Json.merge s.data.members patch) with data | issues
  · by_cases hw : data.IsWritable
    · have hsound : Session.Sound { s with data } :=
        { h.1 with data := Installation.inBounds_of_ofMembers hd, writable := hw }
      simp only [if_pos hw]
      exact yields_save hsound h.edge_eq_none _
    · have hunwritable : ¬({ s with data } : Session).data.IsWritable := hw
      simp only [if_neg hw]
      exact yields_save_of_not_writable hunwritable h { s with data }
  · exact yields_throw h _

/-! ### Moving -/

/-- A move with a session in hand is a move of its wizard. -/
theorem navigate_of_ok {move : Navigator.Move} {result : NavigationResult} {n : Navigator}
    (hmove : move { session := s, id, store := a.store } = .ok result n) :
    navigate id s move a = .ok (result, n.session)
      { a with store := n.store, finishedCount := a.finishedCount + n.handOffs.length } := by
  rw [navigate, hmove]

theorem navigate_of_error {move : Navigator.Move} {e : NavigationError}
    (hmove : move { session := s, id, store := a.store } =
      .error e { session := s, id, store := a.store }) :
    navigate id s move a = .error (.navigation e) a := by
  rw [navigate, hmove]
  rfl

/-- A move that keeps the session at another index. -/
theorem yields_navigate_of_persist {move : Navigator.Move} {index : Int}
    (hs : (s.movedTo index).Sound)
    (hleft : s.edge = none → (a.store.entries id).get? edgeKey = none)
    (hmove : ∀ store', (s.movedTo index).save id a.store = .ok () store' →
      move { session := s, id, store := a.store } = .ok (Navigator.madeTo index)
        { session := s.movedTo index, id, store := store' }) :
    Yields (navigate id s move) id a (.ok (Navigator.madeTo index, s.movedTo index))
      (some (s.movedTo index)) 0 := by
  obtain ⟨store', hsave, hkept, hframe⟩ := Session.save_of_sound hs hleft
  exact ⟨{ a with store := store' }, navigate_of_ok (hmove store' hsave), ⟨hs, hkept⟩, hframe,
    rfl, rfl, rfl⟩

/-- A move that is not made. -/
theorem yields_navigate_of_error {move : Navigator.Move} {e : NavigationError}
    (h : a.store.Holds id r)
    (hmove : move { session := s, id, store := a.store } =
      .error e { session := s, id, store := a.store }) :
    Yields (navigate id s move) id a (.error (.navigation e)) r 0 :=
  ⟨a, navigate_of_error hmove, Turned.refl h⟩

/-- **Moving on** with a sound session in hand, whatever is held under its identifier. -/
theorem yields_navigate_advance (hs : s.Sound)
    (hleft : s.edge = none → (a.store.entries id).get? edgeKey = none) :
    Yields (navigate id s Navigator.advance) id a
      (.ok (s.forward.1, s.movedTo (s.viewIndex + 1))) s.forward.2 s.forward.1.finished.toNat := by
  have hnonneg := hs.index_nonneg
  have hlt := hs.index_lt
  unfold Session.forward
  split
  · next hnext =>
    exact yields_navigate_of_persist (hs.movedTo (by omega) hnext) hleft
      fun store' hsave => Navigator.advance_of_lt hs hnext hsave
  · next hlast =>
    exact ⟨_, navigate_of_ok (Navigator.advance_of_eq hs (by omega)), turned_clear id a 1⟩

theorem ofExcept_mapError_bind {ε γ : Type} {wrap : ε → AssistantError} {x : Except ε β}
    {g : β → Except AssistantError γ} {f : γ → AssistantM α} :
    ofExcept (fun e => e) (x.mapError wrap >>= g) >>= f =
      ofExcept wrap x >>= fun b => ofExcept (fun e => e) (g b) >>= f := by
  cases x with
  | ok b => rfl
  | error e => rfl

/-- Leaving a view is moving on, once the data of the view are in order. -/
theorem advance_eq (id : String) : advance id = (do
    let s ← load id
    ofExcept (fun e => e) s.completed
    navigate id s Navigator.advance) := by
  unfold advance
  congr 1
  funext s
  rw [Session.completed, ofExcept_mapError_bind]
  congr 1
  funext view
  rw [ofExcept_mapError_bind]
  congr 1
  funext complaints
  cases complaints with
  | nil => rfl
  | cons c cs => rfl

theorem yields_advance (h : a.store.Holds id (some s)) :
    Yields (advance id) id a (s.completed.map fun _ => (s.forward.1, s.movedTo (s.viewIndex + 1)))
      (Operation.advance.onSession s).2
      (match s.completed with
        | .ok () => s.forward.1.finished.toNat
        | .error _ => 0) := by
  rw [advance_eq]
  refine yields_load_bind h (yields_ofExcept_bind h ?_ ?_)
  · intro _ hc
    simp only [Operation.onSession, hc]
    exact yields_navigate_advance h.1 h.edge_eq_none
  · intro e hc
    rw [hc]
    simp only [Operation.onSession, hc]
    exact ⟨rfl, trivial, trivial⟩

theorem yields_retreat (h : a.store.Holds id (some s)) :
    Yields (retreat id) id a
      (if 0 < s.viewIndex then
        .ok (Navigator.madeTo (s.viewIndex - 1), s.movedTo (s.viewIndex - 1))
      else .error (.navigation (.outOfBounds (s.viewIndex - 1) s.viewCount)))
      (Operation.retreat.onSession s).2 0 := by
  have hlt := h.1.index_lt
  refine yields_load_bind h ?_
  unfold Operation.onSession
  split
  · next hpos =>
    exact yields_navigate_of_persist (h.1.movedTo (by omega) (by omega)) h.edge_eq_none
      fun store' hsave => Navigator.retreat_of_pos h.1 hpos hsave
  · next hpos => exact yields_navigate_of_error h (Navigator.retreat_of_nonpos h.1 hpos)

theorem yields_jumpTo (h : a.store.Holds id (some s)) (index : Int) :
    Yields (jumpTo id index) id a
      (if 0 ≤ index ∧ index < s.viewCount then
        .ok (Navigator.madeTo index, s.movedTo index)
      else ((Navigator.rejectedAt s index).map fun result => (result, s)).mapError .navigation)
      ((Operation.jumpTo index).onSession s).2 0 := by
  refine yields_load_bind h ?_
  unfold Operation.onSession
  by_cases hindex : 0 ≤ index ∧ index < s.viewCount
  · simp only [if_pos hindex]
    exact yields_navigate_of_persist (h.1.movedTo hindex.1 hindex.2) h.edge_eq_none
      fun store' hsave => Navigator.jumpTo_of_mem h.1 hindex hsave
  · simp only [if_neg hindex]
    have hmove : Navigator.jumpTo index { session := s, id, store := a.store } = _ :=
      Navigator.jumpTo_of_not_mem hindex
    rcases hr : Navigator.rejectedAt s index with e | result
    · rw [hr] at hmove
      exact yields_navigate_of_error h hmove
    · rw [hr] at hmove
      exact ⟨a, navigate_of_ok hmove, Turned.refl h⟩

end Assistant

/-! ### All operations -/

namespace Operation

/-- An operation as the assistant does it. -/
def perform (id : String) : Operation → AssistantM Reply
  | .inspect => .session <$> Assistant.session id
  | .abandon => (fun _ => .removed) <$> Assistant.abandonSession id
  | .bindEdge edge => .session <$> Assistant.bindEdge id edge
  | .selectSystem systemId => .session <$> Assistant.selectSystem id systemId
  | .updateData patch => .session <$> Assistant.updateData id patch
  | .advance => (fun r => .moved r.1 r.2) <$> Assistant.advance id
  | .retreat => (fun r => .moved r.1 r.2) <$> Assistant.retreat id
  | .jumpTo index => (fun r => .moved r.1 r.2) <$> Assistant.jumpTo id index

/-- A device that is bound by the operation is one that its reader accepts. -/
def InBounds : Operation → Prop
  | .bindEdge edge => edge.InBounds
  | _ => True

theorem map_replaced (s : Session) (x : Except AssistantError Session) :
    x.map Reply.session = (replaced s x).1 := by
  cases x <;> rfl

theorem finishes_replaced (s : Session) (x : Except AssistantError Session) :
    finishes (replaced s x).1 = false := by
  cases x <;> rfl

open Assistant

variable {id : String} {a : Assistant} {s : Session} {r : Option Session}

/-- Without a session every operation is refused. -/
theorem perform_yields_of_none (h : a.store.Holds id none) (o : Operation) :
    Yields (o.perform id) id a (.error (o.absence id)) none 0 := by
  cases o with
  | inspect => exact yields_map (yields_load_of_none h) _
  | abandon => exact yields_map (yields_load_bind_of_none h) _
  | bindEdge edge => exact yields_map (yields_load_bind_of_none h) _
  | updateData patch => exact yields_map (yields_load_bind_of_none h) _
  | advance => exact yields_map (yields_load_bind_of_none h) _
  | retreat => exact yields_map (yields_load_bind_of_none h) _
  | jumpTo index => exact yields_map (yields_load_bind_of_none h) _
  | selectSystem systemId =>
    rcases hsystem : selectable? systemId with _ | system
    · simp only [absence, hsystem]
      exact yields_map (yields_selectSystem_of_unknown h hsystem) Reply.session
    · simp only [absence, hsystem]
      exact yields_map (yields_selectSystem_of_none h hsystem) Reply.session

theorem perform_yields_of_some (h : a.store.Holds id (some s)) (o : Operation) (ho : o.InBounds) :
    Yields (o.perform id) id a (o.onSession s).1 (o.onSession s).2
      (finishes (o.onSession s).1).toNat := by
  cases o with
  | inspect => exact yields_map (yields_load h) _
  | abandon => exact yields_map (yields_abandonSession h) _
  | bindEdge edge =>
    simp only [onSession, finishes_replaced]
    rw [← map_replaced]
    exact yields_map (yields_bindEdge h ho) Reply.session
  | selectSystem systemId =>
    rcases hsystem : selectable? systemId with _ | system
    · simp only [onSession, hsystem]
      exact yields_map (yields_selectSystem_of_unknown h hsystem) Reply.session
    · simp only [onSession, hsystem, finishes_replaced]
      rw [← map_replaced]
      exact yields_map (yields_selectSystem h hsystem) Reply.session
  | updateData patch =>
    simp only [onSession, finishes_replaced]
    rw [← map_replaced]
    exact yields_map (yields_updateData h patch) Reply.session
  | advance =>
    have hadvance := yields_map (yields_advance h) fun r => Reply.moved r.1 r.2
    rcases hc : s.completed with e | _
    · simp only [onSession, hc] at hadvance ⊢
      exact hadvance
    · simp only [onSession, hc] at hadvance ⊢
      exact hadvance
  | retreat =>
    have hretreat := yields_map (yields_retreat h) fun r => Reply.moved r.1 r.2
    by_cases hpos : 0 < s.viewIndex
    · simp only [onSession, if_pos hpos] at hretreat ⊢
      exact hretreat
    · simp only [onSession, if_neg hpos] at hretreat ⊢
      exact hretreat
  | jumpTo index =>
    have hjump := yields_map (yields_jumpTo h index) fun r => Reply.moved r.1 r.2
    by_cases hindex : 0 ≤ index ∧ index < s.viewCount
    · simp only [onSession, if_pos hindex] at hjump ⊢
      exact hjump
    · simp only [onSession, if_neg hindex] at hjump ⊢
      rcases hr : Navigator.rejectedAt s index with e | result
      · rw [hr] at hjump
        exact hjump
      · rw [hr] at hjump
        simp only [finishes, Navigator.finished_of_rejectedAt hr]
        exact hjump

/-- **What the assistant does is what the ledger does.** -/
theorem perform_yields (h : a.store.Holds id r) (o : Operation) (ho : o.InBounds) :
    Yields (o.perform id) id a (o.onRecord id r).1 (o.onRecord id r).2
      (finishes (o.onRecord id r).1).toNat := by
  cases r with
  | none => exact perform_yields_of_none h o
  | some s => exact perform_yields_of_some h o ho

end Operation

end Commissioning
