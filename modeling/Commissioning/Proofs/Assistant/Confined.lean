import Commissioning.Proofs.Assistant.Frame
import Commissioning.Proofs.Assistant.Traffic

/-!
# Operations confined to a session

All sessions are kept in one store, and one list says which of them are being submitted. What a
session has a share in (`Commissioning.Assistant.share`) are its own entries, its own mark, and the
settings, which no operation changes.

An operation is **confined** to a session (`Commissioning.Assistant.Confined`) if it neither touches
the share of another session nor sees anything but that of its own: in two assistants that are the
same to the session, the same comes of it and they are the same to the session afterwards. The
counters of the assistant are outside of every share; they are written and never read.

What is confined stays so one after the other, so that again only the few steps that read or write
the assistant have to be looked at. Moving the wizard is one of them: by the session in hand it is
settled whether a move does nothing, writes the session, or removes it
(`Commissioning.Navigator.Does`).
-/

namespace Commissioning

/-! ### What a move does -/

namespace Navigator

variable {s : Session}

/-- **What a move does** with a session in hand: nothing, or it writes a session, or it removes the
entries of a session that is finished. -/
inductive Does (s : Session) (move : Move) : Prop
  /-- It only answers. -/
  | nothing (answer : Except NavigationError NavigationResult)
      (h : ∀ n : Navigator, n.session = s →
        move n = match answer with
          | .ok r => .ok r n
          | .error e => .error e n)
  /-- It writes a session. -/
  | persists (s' : Session)
      (h : ∀ n : Navigator, n.session = s → move n = persist { n with session := s' })
  /-- It removes the entries. -/
  | finishes (s' : Session)
      (h : ∀ n : Navigator, n.session = s → move n = finish { n with session := s' })

/-- Why a move to an index is refused; an index that is too long has no place in a reason. -/
def refusedAt (s : Session) (index : Int) : NavigationError :=
  match Number.text (.int index) with
  | .ok _ => .outOfBounds index s.viewCount
  | .error e => .unwritable e

theorem refuse_eq (index : Int) (n : Navigator) :
    refuse index n = .error (refusedAt n.session index) n := by
  rw [refuse, refusedAt]
  rcases Number.text (.int index) with e | text <;> rfl

theorem does_advance (s : Session) : Does s advance := by
  by_cases hfinished : s.isFinished
  · refine .nothing (.error (refusedAt s (s.viewIndex + 1))) ?_
    rintro n rfl
    rw [advance_apply, if_pos hfinished, refuse_eq]
  · by_cases hnext : (s.movedTo (s.viewIndex + 1)).isFinished
    · refine .finishes (s.movedTo (s.viewIndex + 1)) ?_
      rintro n rfl
      rw [advance_apply, if_neg hfinished]
      exact if_pos hnext
    · refine .persists (s.movedTo (s.viewIndex + 1)) ?_
      rintro n rfl
      rw [advance_apply, if_neg hfinished]
      exact if_neg hnext

theorem does_retreat (s : Session) : Does s retreat := by
  by_cases hfirst : s.viewIndex ≤ 0 ∨ s.isFinished
  · refine .nothing (.error (refusedAt s (s.viewIndex - 1))) ?_
    rintro n rfl
    rw [retreat_apply, if_pos hfirst, refuse_eq]
  · refine .persists (s.movedTo (s.viewIndex - 1)) ?_
    rintro n rfl
    rw [retreat_apply, if_neg hfirst]
    rfl

theorem does_jumpTo (s : Session) (index : Int) : Does s (jumpTo index) := by
  by_cases hview : ¬s.isFinished ∧ 0 ≤ index ∧ index < s.viewCount
  · refine .persists (s.movedTo index) ?_
    rintro n rfl
    rw [jumpTo_apply, if_pos hview]
    rfl
  · refine .nothing (rejectedAt s index) ?_
    rintro n rfl
    refine (jumpTo_apply n index).trans ((if_neg hview).trans ((reject_apply index n).trans ?_))
    cases rejectedAt n.session index <;> rfl

end Navigator

namespace Assistant

variable {α β : Type} {id : String} {a b : Assistant}

/-! ### What a session has a share in -/

/-- What a session has a share in. -/
structure Share where
  /-- The settings, which are those of all sessions. -/
  settings : Settings
  /-- The entries of the session. -/
  entries : Entries
  /-- Whether the session is being submitted. -/
  marked : Bool

/-- **The share of a session** in an assistant. -/
def share (id : String) (a : Assistant) : Share :=
  ⟨a.settings, a.store.entries id, a.isSubmitting id⟩

/-- **Results that are the same to a session**: the same comes of both, and both leave to the
session the same share. -/
inductive SameTo (id : String) :
    EStateM.Result AssistantError Assistant α → EStateM.Result AssistantError Assistant α → Prop
  /-- Neither is refused. -/
  | ok (x : α) {a b : Assistant} (h : share id a = share id b) : SameTo id (.ok x a) (.ok x b)
  /-- Both are refused. -/
  | error (e : AssistantError) {a b : Assistant} (h : share id a = share id b) :
      SameTo id (.error e a) (.error e b)

theorem SameTo.cases {r r' : EStateM.Result AssistantError Assistant α} (h : SameTo id r r') :
    (∃ x a b, r = .ok x a ∧ r' = .ok x b ∧ share id a = share id b) ∨
      ∃ e a b, r = .error e a ∧ r' = .error e b ∧ share id a = share id b := by
  cases h with
  | ok x h => exact Or.inl ⟨x, _, _, rfl, rfl, h⟩
  | error e h => exact Or.inr ⟨e, _, _, rfl, rfl, h⟩

/-- **An operation is confined to a session.** -/
structure Confined (id : String) (m : AssistantM α) : Prop where
  spares : ∀ other, other ≠ id → Keeps (share other) m
  sees : ∀ a b, share id a = share id b → SameTo id (m a) (m b)

section Confined

variable {m : AssistantM α} {other : String} {a' : Assistant}

theorem Confined.share_of_ok (hm : Confined id m) (hother : other ≠ id) {x : α}
    (h : m a = .ok x a') : share other a' = share other a := by
  rw [← after_of_ok h]
  exact hm.spares other hother a

theorem Confined.share_of_error (hm : Confined id m) (hother : other ≠ id) {e : AssistantError}
    (h : m a = .error e a') : share other a' = share other a := by
  rw [← after_of_error h]
  exact hm.spares other hother a

end Confined

/-! ### One after the other -/

theorem confined_pure (x : α) : Confined id (pure x : AssistantM α) :=
  ⟨fun _ _ => keeps_pure x, fun _ _ h => .ok x h⟩

theorem confined_throw (e : AssistantError) : Confined id (throw e : AssistantM α) :=
  ⟨fun _ _ => keeps_throw e, fun _ _ h => .error e h⟩

theorem confined_ofExcept {ε : Type} (wrap : ε → AssistantError) (x : Except ε α) :
    Confined id (ofExcept wrap x) := by
  cases x with
  | ok x => exact confined_pure x
  | error e => exact confined_throw (wrap e)

/-- **What is confined** stays so one after the other. -/
theorem confined_bind {m : AssistantM α} {f : α → AssistantM β} (hm : Confined id m)
    (hf : ∀ x, Confined id (f x)) : Confined id (m >>= f) := by
  constructor
  case spares =>
    intro other hother
    exact keeps_bind (hm.spares other hother) fun x => (hf x).spares other hother
  case sees =>
    intro a b h
    obtain ⟨x, a', b', ha, hb, h'⟩ | ⟨e, a', b', ha, hb, h'⟩ := (hm.sees a b h).cases
    · rw [bind_of_ok ha, bind_of_ok hb]
      exact (hf x).sees a' b' h'
    · rw [bind_of_error ha, bind_of_error hb]
      exact .error e h'

theorem confined_map {m : AssistantM α} (f : α → β) (hm : Confined id m) :
    Confined id (f <$> m) := by
  rw [map_eq_pure_bind]
  exact confined_bind hm fun x => confined_pure (f x)

theorem confined_ite {c : Prop} [Decidable c] {m m' : AssistantM α} (hm : Confined id m)
    (hm' : Confined id m') : Confined id (if c then m else m') := by
  split
  · exact hm
  · exact hm'

/-- What is read of the assistant must be the share of the session. -/
theorem confined_get {f : Assistant → AssistantM α} (g : Share → AssistantM α)
    (hg : ∀ x, Confined id (g x)) (hfg : ∀ a, f a = g (share id a)) :
    Confined id (get >>= f) := by
  constructor
  case spares =>
    intro other hother
    refine keeps_bind keeps_get fun a => ?_
    rw [hfg]
    exact (hg _).spares other hother
  case sees =>
    intro a b h
    have ha : (get >>= f : AssistantM α) a = g (share id a) a := by rw [← hfg]; rfl
    have hb : (get >>= f : AssistantM α) b = g (share id a) b := by rw [h, ← hfg]; rfl
    rw [ha, hb]
    exact (hg _).sees a b h

/-- A change of the assistant must be a change of the share of the session. -/
theorem confined_modify {f : Assistant → Assistant} (g : Share → Share)
    (hself : ∀ a, share id (f a) = g (share id a))
    (hspares : ∀ other, other ≠ id → ∀ a, share other (f a) = share other a) :
    Confined id (modify f : AssistantM Unit) := by
  refine ⟨fun other hother => keeps_modify (hspares other hother), fun a b h => .ok () ?_⟩
  rw [hself, hself, h]

/-! ### Loading -/

/-- **Loading** sees the entries of the session. -/
theorem confined_load (id : String) : Confined id (load id) := by
  refine confined_get
    (fun x => if !x.entries.isEmpty then ofExcept .unreadable (Session.load x.entries)
      else throw (.sessionNotFound id)) (fun x => ?_) fun _ => rfl
  exact confined_ite (confined_ofExcept _ _) (confined_throw _)

/-! ### Writing -/

/-- Puts texts under keys of a session, up to the first that cannot be made. -/
def putTexts (wrap : NumberError → AssistantError) (id : String) :
    List (String × Except NumberError String) → AssistantM Unit
  | [] => pure ()
  | (key, made) :: rest => do
    let text ← ofExcept wrap made
    modify fun a => { a with store := a.store.set id key text }
    putTexts wrap id rest

/-- This is how texts are written to the store. -/
theorem putTexts_apply (wrap : NumberError → AssistantError) (id : String)
    (texts : List (String × Except NumberError String)) (a : Assistant) :
    putTexts wrap id texts a =
      match SessionStore.write id texts a.store with
      | .ok _ store => .ok () { a with store }
      | .error e store => .error (wrap e) { a with store } := by
  induction texts generalizing a with
  | nil => rfl
  | cons t rest ih =>
    obtain ⟨key, e | text⟩ := t
    · rfl
    · exact ih { a with store := a.store.set id key text }

theorem confined_putTexts (wrap : NumberError → AssistantError) (id : String)
    (texts : List (String × Except NumberError String)) : Confined id (putTexts wrap id texts) := by
  induction texts with
  | nil => exact confined_pure ()
  | cons t rest ih =>
    refine confined_bind (confined_ofExcept wrap t.2) fun text => confined_bind ?_ fun _ => ih
    refine confined_modify (fun x => { x with entries := x.entries.put t.1 text }) (fun a => ?_)
      fun other hother a => ?_
    · show Share.mk a.settings ((a.store.set id t.1 text).entries id) (a.isSubmitting id) = _
      rw [SessionStore.entries_set, if_pos rfl]
      rfl
    · show Share.mk a.settings ((a.store.set id t.1 text).entries other) (a.isSubmitting other) = _
      rw [SessionStore.entries_set, if_neg (Ne.symm hother)]
      rfl

/-- **Writing a session** touches its entries only. -/
theorem confined_save (id : String) (s : Session) : Confined id (save id s) := by
  have hsave : save id s = putTexts .unwritable id s.written := by
    funext a
    rw [putTexts_apply, save, Session.save]
    rcases SessionStore.write id s.written a.store with ⟨_, store⟩ | ⟨e, store⟩ <;> rfl
  rw [hsave]
  exact confined_putTexts _ id _

/-- **Removing a session** touches its entries only, and counters are outside of every share. -/
theorem confined_clear (id : String) (count : Nat → Nat) :
    Confined id (modify fun a =>
      { a with store := a.store.clear id, finishedCount := count a.finishedCount } :
        AssistantM Unit) := by
  refine confined_modify (fun x => { x with entries := [] }) (fun a => ?_) fun other hother a => ?_
  · show Share.mk a.settings ((a.store.clear id).entries id) (a.isSubmitting id) = _
    rw [SessionStore.entries_clear, if_pos rfl]
    rfl
  · show Share.mk a.settings ((a.store.clear id).entries other) (a.isSubmitting other) = _
    rw [SessionStore.entries_clear, if_neg (Ne.symm hother)]
    rfl

/-! ### Moving -/

/-- **Moving the wizard** touches the entries of the session only. -/
theorem confined_navigate {s : Session} {move : Navigator.Move} (h : Navigator.Does s move) :
    Confined id (navigate id s move) := by
  cases h with
  | nothing answer h =>
    have hnavigate : navigate id s move =
        ofExcept .navigation (answer.map fun result => (result, s)) := by
      funext a
      rw [navigate, h _ rfl]
      cases answer <;> rfl
    rw [hnavigate]
    exact confined_ofExcept _ _
  | persists s' h =>
    have hnavigate : navigate id s move = do
        putTexts (fun e => .navigation (.unwritable e)) id s'.written
        return (Navigator.madeTo s'.viewIndex, s') := by
      funext a
      show _ = EStateM.bind (putTexts _ id s'.written) _ a
      rw [navigate, h _ rfl, EStateM.bind, putTexts_apply, Navigator.persist, Session.save]
      dsimp only
      rcases SessionStore.write id s'.written a.store with ⟨_, store⟩ | ⟨e, store⟩ <;> rfl
    rw [hnavigate]
    exact confined_bind (confined_putTexts _ id _) fun _ => confined_pure _
  | finishes s' h =>
    have hnavigate : navigate id s move = do
        modify fun a =>
          { a with store := a.store.clear id, finishedCount := a.finishedCount + 1 }
        return (⟨true, s'.viewIndex, true, some (Navigator.handOffOf s'), none⟩, s') := by
      funext a
      rw [navigate, h _ rfl]
      rfl
    rw [hnavigate]
    exact confined_bind (confined_clear id (· + 1)) fun _ => confined_pure _

/-! ### Operations -/

theorem confined_createSession (id : String) (edge : Option Edge) :
    Confined id (createSession id edge) :=
  confined_bind (confined_save id _) fun _ => confined_pure _

theorem confined_abandonSession (id : String) : Confined id (abandonSession id) :=
  confined_bind (confined_load id) fun _ => confined_clear id fun count => count

theorem confined_bindEdge (id : String) (edge : Edge) : Confined id (bindEdge id edge) :=
  confined_bind (confined_load id) fun _ =>
    confined_bind (confined_save id _) fun _ => confined_pure _

theorem confined_selectSystem (id systemId : String) : Confined id (selectSystem id systemId) := by
  unfold selectSystem
  split
  · exact confined_throw _
  · refine confined_bind (confined_load id) fun s => ?_
    refine confined_ite (confined_pure s) (confined_ite (confined_throw _) ?_)
    exact confined_bind (confined_ofExcept _ _) fun s' =>
      confined_bind (confined_save id s') fun _ => confined_pure s'

theorem confined_updateData (id : String) (patch : Members) :
    Confined id (updateData id patch) := by
  refine confined_bind (confined_load id) fun s => confined_ite (confined_throw _) ?_
  dsimp only
  rcases Installation.ofMembers .value (Json.merge s.data.members patch) with data | issues
  · exact confined_bind (confined_save id _) fun _ => confined_pure _
  · exact confined_throw _

theorem confined_advance (id : String) : Confined id (advance id) := by
  rw [advance_eq]
  exact confined_bind (confined_load id) fun s => confined_bind (confined_ofExcept _ _) fun _ =>
    confined_navigate (Navigator.does_advance s)

theorem confined_retreat (id : String) : Confined id (retreat id) :=
  confined_bind (confined_load id) fun s => confined_navigate (Navigator.does_retreat s)

theorem confined_jumpTo (id : String) (index : Int) : Confined id (jumpTo id index) :=
  confined_bind (confined_load id) fun s => confined_navigate (Navigator.does_jumpTo s index)

/-! ### The two halves of a submission -/

theorem confined_prepare (id : String) (counts : Members) (towers : TowerValues) :
    Confined id (prepare id counts towers) := by
  refine confined_bind (confined_load id) fun s => confined_bind (confined_ofExcept _ _) fun view =>
    confined_ite (confined_throw _) ?_
  split
  · exact confined_throw _
  · next edge _ =>
    refine confined_get (fun x => do
      let numbers ← ofExcept (fun e => e)
        (acceptForm s.system x.settings.fallbackDefaults counts towers)
      let session := s.withSerialNumbers numbers
      save id session
      let protocol ← ofExcept .unwritable (session.data.protocol edge.id)
      return { id, session, protocol }) (fun x => ?_) fun _ => rfl
    exact confined_bind (confined_ofExcept _ _) fun _ => confined_bind (confined_save id _) fun _ =>
      confined_bind (confined_ofExcept _ _) fun _ => confined_pure _

theorem confined_settleAccount (s : Session) (answer : Except GatewayError String) :
    Confined id (settleAccount s answer) := by
  have hcount : ∀ f : Assistant → Assistant, (∀ other a, share other (f a) = share other a) →
      Confined id (modify f : AssistantM Unit) := fun f hf =>
    confined_modify (fun x => x) (hf id) fun other _ => hf other
  rcases answer with why | protocolId
  · cases why with
    | rejected status detail =>
      exact confined_bind (hcount _ fun _ _ => rfl) fun _ => confined_pure _
    | _ => exact confined_throw _
  · exact confined_bind (hcount _ fun _ _ => rfl) fun _ => confined_pure _

theorem confined_conclude (p : Submission) (answer : Except GatewayError String) :
    Confined p.id (conclude p answer) :=
  confined_bind (confined_settleAccount p.session answer) fun x =>
    confined_bind (confined_navigate (Navigator.does_advance x.2)) fun _ => confined_pure _

/-! ### The mark -/

theorem share_mark_self (id : String) (a : Assistant) :
    share id (a.mark id) = { share id a with marked := true } := by
  have hmarked : (a.mark id).isSubmitting id = true := by
    rw [isSubmitting, Traffic.contains_mark, decide_eq_true rfl, Bool.true_or]
  rw [share, hmarked]
  rfl

theorem share_mark_of_ne {other : String} (hother : other ≠ id) (a : Assistant) :
    share other (a.mark id) = share other a := by
  have hmarked : (a.mark id).isSubmitting other = a.isSubmitting other := by
    rw [isSubmitting, Traffic.contains_mark, decide_eq_false hother, Bool.false_or]
    rfl
  rw [share, hmarked]
  rfl

theorem share_unmark_self (id : String) (a : Assistant) :
    share id (a.unmark id) = { share id a with marked := false } := by
  have hmarked : (a.unmark id).isSubmitting id = false := by
    rw [isSubmitting, Traffic.contains_unmark, decide_eq_false (not_not_intro rfl),
      Bool.false_and]
  rw [share, hmarked]
  rfl

theorem share_unmark_of_ne {other : String} (hother : other ≠ id) (a : Assistant) :
    share other (a.unmark id) = share other a := by
  have hmarked : (a.unmark id).isSubmitting other = a.isSubmitting other := by
    rw [isSubmitting, Traffic.contains_unmark, decide_eq_true hother, Bool.true_and]
    rfl
  rw [share, hmarked]
  rfl

/-- A submission that cannot be prepared takes its mark away again. -/
theorem beginSubmission_of_prepare_error {counts : Members} {towers : TowerValues}
    {e : AssistantError} {a' : Assistant} (hfree : a.isSubmitting id = false)
    (h : prepare id counts towers (a.mark id) = .error e a') :
    beginSubmission id counts towers a = .error e (a'.unmark id) := by
  rw [beginSubmission, hfree, h]
  rfl

/-- So does one that cannot be concluded. -/
theorem endSubmission_of_conclude_error {p : Submission} {answer : Except GatewayError String}
    {e : AssistantError} {a' : Assistant} (h : conclude p answer a = .error e a') :
    endSubmission p answer a = .error e (a'.unmark p.id) := by
  rw [endSubmission, h]

/-- **The first half of a submission**, its mark included. -/
theorem confined_beginSubmission (id : String) (counts : Members) (towers : TowerValues) :
    Confined id (beginSubmission id counts towers) := by
  have hprepare := confined_prepare id counts towers
  have hbusy : ∀ {a : Assistant}, a.isSubmitting id = true →
      beginSubmission id counts towers a = .error .submissionRunning a := fun h => if_pos h
  constructor
  case spares =>
    intro other hother a
    cases hfree : a.isSubmitting id with
    | true => rw [after_of_error (hbusy hfree)]
    | false =>
      rcases hresult : prepare id counts towers (a.mark id) with ⟨p, a'⟩ | ⟨e, a'⟩
      · rw [after_of_ok (beginSubmission_of_prepare hfree hresult),
          hprepare.share_of_ok hother hresult, share_mark_of_ne hother]
      · rw [after_of_error (beginSubmission_of_prepare_error hfree hresult),
          share_unmark_of_ne hother, hprepare.share_of_error hother hresult,
          share_mark_of_ne hother]
  case sees =>
    intro a b h
    have hmarks : a.isSubmitting id = b.isSubmitting id := congrArg Share.marked h
    cases hfree : a.isSubmitting id with
    | true =>
      rw [hbusy hfree, hbusy (hmarks ▸ hfree)]
      exact .error _ h
    | false =>
      have hmarked : share id (a.mark id) = share id (b.mark id) := by
        rw [share_mark_self, share_mark_self, h]
      obtain ⟨p, a', b', ha, hb, h'⟩ | ⟨e, a', b', ha, hb, h'⟩ :=
        (hprepare.sees _ _ hmarked).cases
      · rw [beginSubmission_of_prepare hfree ha, beginSubmission_of_prepare (hmarks ▸ hfree) hb]
        exact .ok p h'
      · rw [beginSubmission_of_prepare_error hfree ha,
          beginSubmission_of_prepare_error (hmarks ▸ hfree) hb]
        refine .error e ?_
        rw [share_unmark_self, share_unmark_self, h']

/-- **The second half**, which takes the mark away. -/
theorem confined_endSubmission (p : Submission) (answer : Except GatewayError String) :
    Confined p.id (endSubmission p answer) := by
  have hconclude := confined_conclude p answer
  constructor
  case spares =>
    intro other hother a
    rcases hresult : conclude p answer a with ⟨r, a'⟩ | ⟨e, a'⟩
    · rw [after_of_ok (endSubmission_of_conclude hresult), share_unmark_of_ne hother,
        hconclude.share_of_ok hother hresult]
    · rw [after_of_error (endSubmission_of_conclude_error hresult), share_unmark_of_ne hother,
        hconclude.share_of_error hother hresult]
  case sees =>
    intro a b h
    obtain ⟨r, a', b', ha, hb, h'⟩ | ⟨e, a', b', ha, hb, h'⟩ := (hconclude.sees a b h).cases
    · rw [endSubmission_of_conclude ha, endSubmission_of_conclude hb]
      refine .ok r ?_
      rw [share_unmark_self, share_unmark_self, h']
    · rw [endSubmission_of_conclude_error ha, endSubmission_of_conclude_error hb]
      refine .error e ?_
      rw [share_unmark_self, share_unmark_self, h']

end Assistant

open Assistant

/-- **Every operation is confined to its session.** -/
theorem Operation.confined (o : Operation) (id : String) : Confined id (o.perform id) := by
  cases o with
  | inspect => exact confined_map _ (confined_load id)
  | abandon => exact confined_map _ (confined_abandonSession id)
  | bindEdge edge => exact confined_map _ (confined_bindEdge id edge)
  | selectSystem systemId => exact confined_map _ (confined_selectSystem id systemId)
  | updateData patch => exact confined_map _ (confined_updateData id patch)
  | advance => exact confined_map _ (confined_advance id)
  | retreat => exact confined_map _ (confined_retreat id)
  | jumpTo index => exact confined_map _ (confined_jumpTo id index)

end Commissioning
