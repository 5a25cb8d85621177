import Commissioning.Proofs.Assistant.History
import Commissioning.Proofs.Assistant.Operation

/-!
# The assistant in traffic

While the gateway is called for one submission, other requests go on. `Commissioning.Traffic` is
the assistant together with the submissions that wait for the gateway, and a **run** takes turns
in any order (`Commissioning.Traffic.run`): operations on any sessions, first halves of
submissions, and second halves whenever an answer comes.

A run of the assistant follows the run of the ledger on the same turns, whatever the order
(`Commissioning.Traffic.run_follows`): it gives the same answers, and after it the store holds
under each identifier what the ledger has on record. Only two things are asked of the turns
(`Commissioning.Proper`): devices are such as their reader accepts, and no two sessions are
created under one identifier.
-/

namespace Commissioning

/-! ### The two halves of a submission -/

/-- A submission as its first half leaves it: of a sound session with a device, at the view for
the serial numbers. -/
structure Submission.IsReady (p : Submission) (id : String) : Prop where
  id_eq : p.id = id
  sound : p.session.Sound
  edge : p.session.edge ≠ none
  view : p.session.currentView = .ok (some .protocolSerialNumbers)

namespace Session

theorem Sound.withSerialNumbers {s : Session} (h : s.Sound) (numbers : SerialNumbers) :
    (s.withSerialNumbers numbers).Sound :=
  { h with writable := Installation.isWritable_withSerialNumbers h.writable numbers }

theorem Sound.withProtocolId {s : Session} (h : s.Sound) (id : String) :
    (s.withProtocolId id).Sound :=
  { h with writable := Installation.isWritable_withProtocolId h.writable (some id) }

theorem isReady_of_submission {s : Session} (h : s.Sound) {id : String}
    {fallback : SerialNumberDefaults} {counts : Members} {towers : TowerValues} {p : Submission}
    (hp : s.submission id fallback counts towers = .ok p) : p.IsReady id := by
  obtain ⟨hview, edge, numbers, hedge, hid, hsession⟩ := submission_eq_ok hp
  refine ⟨hid, ?_, ?_, ?_⟩ <;> rw [hsession]
  · exact h.withSerialNumbers numbers
  · intro hnone
    rw [show (s.withSerialNumbers numbers).edge = s.edge from rfl, hedge] at hnone
    cases hnone
  · exact hview

end Session

/-- The session that a submission has in hand after the answer of the gateway. -/
def Submission.inHand (p : Submission) : Except GatewayError String → Session
  | .ok protocolId => p.session.withProtocolId protocolId
  | .error _ => p.session

/-- **The end of a submission** puts the session that it has in hand on record, one view on,
whatever is there. -/
theorem Ledger.step_conclude (fallback : SerialNumberDefaults) {l : Ledger} {id : String}
    {p : Submission} (hwaiting : (l id).waiting = some p) (hp : p.IsReady id)
    {answer : Except GatewayError String} (horderly : (Act.conclude answer).Orderly) :
    (l.step fallback ⟨id, .conclude answer⟩).2 id =
      ⟨some ((p.inHand answer).movedTo (p.session.viewIndex + 1)), none⟩ := by
  have hlast := (hp.sound.viewIndex_of_serialNumbers hp.view).1
  -- There is one more view behind the one for the serial numbers, so the session goes on.
  have hlt : p.session.viewIndex + 1 < p.session.viewCount := by omega
  refine (l.step_self fallback ⟨id, .conclude answer⟩).trans ?_
  simp only [Act.onSlot, hwaiting]
  rcases answer with why | protocolId
  · cases why with
    | rejected status detail =>
      show (⟨p.session.forward.2, none⟩ : Slot) = _
      rw [Session.forward, if_pos hlt]
      rfl
    | _ => cases horderly
  · show (⟨(p.session.withProtocolId protocolId).forward.2, none⟩ : Slot) = _
    rw [Session.forward]
    exact congrArg (Slot.mk · none) (congrArg Prod.snd (if_pos hlt))

namespace Assistant

variable {id : String} {a : Assistant} {s : Session} {r : Option Session}

/-- What a refused submission leaves on record, and an accepted one. -/
def recordOf (s : Session) : Except AssistantError Submission → Session
  | .ok p => p.session
  | .error _ => s

theorem yields_prepare (h : a.store.Holds id (some s)) (counts : Members) (towers : TowerValues) :
    Yields (prepare id counts towers) id a
      (s.submission id a.settings.fallbackDefaults counts towers)
      (some (recordOf s (s.submission id a.settings.fallbackDefaults counts towers))) 0 := by
  refine yields_load_bind h ?_
  unfold Session.submission
  rcases s.currentView with e | view
  · exact yields_throw h _
  refine yields_ofExcept_ok_bind ?_
  by_cases hview : view = some .protocolSerialNumbers
  · simp only [hview, ne_eq, not_true_eq_false, if_false]
    rcases hedge : s.edge with _ | edge
    · exact yields_throw h _
    refine yields_get_bind ?_
    rcases acceptForm s.system a.settings.fallbackDefaults counts towers with e | numbers
    · exact yields_throw h _
    have hsound : (s.withSerialNumbers numbers).Sound := h.1.withSerialNumbers numbers
    obtain ⟨protocol, hprotocol⟩ := Installation.exists_protocol hsound.writable edge.id
    refine yields_ofExcept_ok_bind (yields_save_bind hsound h.edge_eq_none fun a' hheld => ?_)
    simp only [hprotocol]
    exact yields_pure hheld _
  · simp only [ne_eq, hview, not_false_eq_true, if_true]
    exact yields_throw h _

/-- Moving on at the end of a submission. -/
theorem yields_moveOn (id : String) (a : Assistant) (hs : s.Sound) (hedge : s.edge ≠ none)
    (protocolId : Option String) :
    Yields (do
        let (navigation, session) ← navigate id s Navigator.advance
        return ({ protocolId, navigation, session } : SubmissionResult)) id a
      (.ok { protocolId, navigation := s.forward.1, session := s.movedTo (s.viewIndex + 1) })
      s.forward.2 s.forward.1.finished.toNat := by
  have hmove : Yields (navigate id s Navigator.advance) id a
      (.ok (s.forward.1, s.movedTo (s.viewIndex + 1))) s.forward.2 s.forward.1.finished.toNat :=
    yields_navigate_advance hs fun he => absurd he hedge
  obtain ⟨a', hresult, hturned⟩ := hmove
  exact ⟨a', bind_of_ok hresult, hturned⟩

/-- The record that the end of a submission leaves where there was another one. -/
def recordAfter (r : Option Session) :
    Except AssistantError (SubmissionResult × Option Session) → Option Session
  | .ok (_, record) => record
  | .error _ => r

/-- **The end of a submission** depends on the session that it has in hand, and not on what is
held by then. -/
theorem yields_conclude {p : Submission} (hp : p.IsReady id) (h : a.store.Holds id r)
    (answer : Except GatewayError String) :
    Yields (conclude p answer) id a ((p.concluded answer).map Prod.fst)
      (recordAfter r (p.concluded answer))
      (finishes (((p.concluded answer).map Prod.fst).map Reply.submitted)).toNat := by
  obtain rfl := hp.id_eq
  rcases answer with why | protocolId
  · cases why with
    | rejected status detail =>
      obtain ⟨a', hresult, hturned⟩ := yields_moveOn p.id
        { a with failedCount := a.failedCount + 1 } hp.sound hp.edge none
      exact ⟨a', hresult, hturned.held, hturned.frame, hturned.busy, hturned.settings,
        hturned.finishedCount⟩
    | _ => exact ⟨a, rfl, Turned.refl h⟩
  · obtain ⟨a', hresult, hturned⟩ := yields_moveOn p.id
      { a with submittedCount := a.submittedCount + 1 } (hp.sound.withProtocolId protocolId)
      hp.edge (some protocolId)
    exact ⟨a', hresult, hturned.held, hturned.frame, hturned.busy, hturned.settings,
      hturned.finishedCount⟩

end Assistant

/-! ### Turns -/

/-- The assistant, and the submissions that wait for the gateway. -/
structure Traffic where
  /-- The assistant. -/
  assistant : Assistant
  /-- The submissions, by the identifiers of their sessions. -/
  waiting : Assoc String Submission := []

namespace Traffic

/-- The assistant with an operation done on it. -/
def serve (t : Traffic) (m : AssistantM Reply) : Outcome × Traffic :=
  match m t.assistant with
  | .ok reply a => (.ok reply, { t with assistant := a })
  | .error e a => (.error e, { t with assistant := a })

/-- The first half of a submission, which then waits. -/
def submit (t : Traffic) (id : String) (counts : Members) (towers : TowerValues) :
    Outcome × Traffic :=
  match Assistant.beginSubmission id counts towers t.assistant with
  | .ok p a => (.ok (.calling p), ⟨a, t.waiting.put id p⟩)
  | .error e a => (.error e, { t with assistant := a })

/-- The second half of the submission that waits. -/
def conclude (t : Traffic) (id : String) (answer : Except GatewayError String) :
    Outcome × Traffic :=
  match t.waiting.get? id with
  | none => (.ok .idle, t)
  | some p =>
    match Assistant.endSubmission p answer t.assistant with
    | .ok result a => (.ok (.submitted result), ⟨a, t.waiting.erase id⟩)
    | .error e a => (.error e, ⟨a, t.waiting.erase id⟩)

/-- **One turn.** -/
def step (t : Traffic) (turn : Turn) : Outcome × Traffic :=
  match turn.act with
  | .create edge => t.serve (.session <$> Assistant.createSession turn.id edge)
  | .operate o => t.serve (o.perform turn.id)
  | .submit counts towers => t.submit turn.id counts towers
  | .conclude answer => t.conclude turn.id answer

/-- **A run**: turns, one after the other. -/
def run : Traffic → List Turn → List Event × Traffic := taken step

/-- The assistant before its first turn. -/
def start (settings : Settings) (gateway : Gateway) (feed : Option Feed) (kind : StoreKind) :
    Traffic :=
  { assistant := { settings, store := .empty kind, gateway, feed } }

/-- **The assistant follows the ledger**: the store holds what is on record, and the submissions
that wait are marked. -/
structure Follows (t : Traffic) (l : Ledger) : Prop where
  held : ∀ id, t.assistant.store.Holds id (l id).session
  waiting : ∀ id, t.waiting.get? id = (l id).waiting
  busy : ∀ id, t.assistant.busy.contains id = (l id).waiting.isSome
  ready : ∀ id, ∀ p ∈ (l id).waiting, p.IsReady id

end Traffic

/-- An act with devices such as their reader accepts. -/
def Act.InBounds : Act → Prop
  | .create edge => ∀ e ∈ edge, e.InBounds
  | .operate o => o.InBounds
  | _ => True

namespace Traffic

/-- What one turn does, by the ledger. -/
structure Tracks (t t' : Traffic) (l' : Ledger) (finished : Nat) : Prop where
  follows : t'.Follows l'
  settings : t'.assistant.settings = t.assistant.settings
  finishedCount : t'.assistant.finishedCount = t.assistant.finishedCount + finished

variable {t : Traffic} {l : Ledger} {id : String} {r : Option Session}

/-- Only one session has had a turn. -/
structure Spares (id : String) (t t' : Traffic) : Prop where
  entries : ∀ other, other ≠ id → t'.assistant.store.entries other = t.assistant.store.entries other
  waiting : ∀ other, other ≠ id → t'.waiting.get? other = t.waiting.get? other
  busy : ∀ other, other ≠ id →
    t'.assistant.busy.contains other = t.assistant.busy.contains other

/-- What is on record is loaded. -/
theorem Follows.load {s : Session} (h : t.Follows l) (hs : (l id).session = some s) :
    Assistant.load id t.assistant = .ok s t.assistant := by
  have hheld := h.held id
  rw [hs] at hheld
  exact Assistant.load_of_holds hheld

/-- What can be loaded is on record. -/
theorem Follows.session_of_load {s : Session} (h : t.Follows l) {a : Assistant}
    (hload : Assistant.load id t.assistant = .ok s a) : (l id).session = some s := by
  have hheld := h.held id
  rcases hrecord : (l id).session with _ | s'
  · rw [hrecord] at hheld
    rw [Assistant.load_of_not_holds hheld] at hload
    cases hload
  · rw [h.load hrecord] at hload
    cases hload
    rfl

/-- A turn on one session replaces its slot. -/
theorem Follows.set {t' : Traffic} (h : t.Follows l) (hspares : Spares id t t') {slot : Slot}
    (hheld : t'.assistant.store.Holds id slot.session)
    (hwaiting : t'.waiting.get? id = slot.waiting)
    (hbusy : t'.assistant.busy.contains id = slot.waiting.isSome)
    (hready : ∀ p ∈ slot.waiting, p.IsReady id) : t'.Follows (l.set id slot) := by
  refine ⟨?_, ?_, ?_, ?_⟩
  all_goals
    intro other
    by_cases hother : other = id
  · rw [hother, Ledger.set_self]
    exact hheld
  · rw [l.set_of_ne hother]
    exact (h.held other).congr (hspares.entries other hother)
  · rw [hother, Ledger.set_self]
    exact hwaiting
  · rw [l.set_of_ne hother, hspares.waiting other hother]
    exact h.waiting other
  · rw [hother, Ledger.set_self]
    exact hbusy
  · rw [l.set_of_ne hother, hspares.busy other hother]
    exact h.busy other
  · rw [hother, Ledger.set_self]
    exact hready
  · rw [l.set_of_ne hother]
    exact h.ready other

/-- An operation that leaves the marks as they are. -/
theorem serve_tracks (h : t.Follows l) {m : AssistantM Reply} {outcome : Outcome} {n : Nat}
    (hm : Assistant.Yields m id t.assistant outcome r n) :
    (t.serve m).1 = outcome ∧
      Tracks t (t.serve m).2 (l.set id { l id with session := r }) n := by
  obtain ⟨a', hresult, hturned⟩ := hm
  have hserve : t.serve m = (outcome, { t with assistant := a' }) := by
    rw [serve, hresult]
    cases outcome <;> rfl
  rw [hserve]
  have hspares : Spares id t { t with assistant := a' } :=
    ⟨hturned.frame, fun _ _ => rfl, fun other _ => by rw [hturned.busy]⟩
  have hbusy : a'.busy.contains id = (l id).waiting.isSome := by
    rw [hturned.busy]
    exact h.busy id
  exact ⟨rfl, h.set hspares hturned.held (h.waiting id) hbusy (h.ready id), hturned.settings,
    hturned.finishedCount⟩

theorem contains_mark (a : Assistant) (id other : String) :
    (a.mark id).busy.contains other = (decide (other = id) || a.busy.contains other) := by
  unfold Assistant.mark
  split
  · next h =>
    by_cases hother : other = id
    · rw [hother, h, Bool.or_true]
    · simp [hother]
  · simp [Bool.or_comm]

theorem contains_unmark (a : Assistant) (id other : String) :
    (a.unmark id).busy.contains other = (decide (other ≠ id) && a.busy.contains other) := by
  rw [Bool.eq_iff_iff]
  simp [Assistant.unmark, and_comm]

/-- What the first half of a submission does to a slot where none waits. -/
def submittedTo (slot : Slot) : Except AssistantError Submission → Outcome × Slot
  | .ok p => (.ok (.calling p), ⟨some p.session, some p⟩)
  | .error e => (.error e, slot)

/-- The mark is set for the time of the preparation, and stays if it succeeds. -/
theorem submit_tracks_of_prepare (h : t.Follows l) (hwaiting : (l id).waiting = none)
    {counts : Members} {towers : TowerValues} {outcome : Except AssistantError Submission}
    (hready : ∀ p, outcome = .ok p → p.IsReady id ∧ r = some p.session)
    (herror : ∀ e, outcome = .error e → r = (l id).session)
    (hprepare : Assistant.Yields (Assistant.prepare id counts towers) id (t.assistant.mark id)
      outcome r 0) :
    (t.submit id counts towers).1 = (submittedTo (l id) outcome).1 ∧
      Tracks t (t.submit id counts towers).2 (l.set id (submittedTo (l id) outcome).2) 0 := by
  obtain ⟨a', hresult, hturned⟩ := hprepare
  have hbusy := h.busy id
  rw [hwaiting] at hbusy
  have hmarked : ∀ other, other ≠ id →
      a'.busy.contains other = t.assistant.busy.contains other := by
    intro other hother
    rw [hturned.busy, contains_mark, decide_eq_false hother, Bool.false_or]
  have hbegin : Assistant.beginSubmission id counts towers t.assistant =
      match Assistant.prepare id counts towers (t.assistant.mark id) with
      | .ok p a => .ok p a
      | .error e a => .error e (a.unmark id) := by
    rw [Assistant.beginSubmission, Assistant.isSubmitting, hbusy]
    rfl
  rw [hresult] at hbegin
  -- A submission that is refused takes the mark away again; one that begins keeps it and waits.
  rcases outcome with e | p
  · obtain rfl := herror e rfl
    have hsubmit : t.submit id counts towers =
        (.error e, { t with assistant := a'.unmark id }) := by
      rw [submit, hbegin]
      rfl
    rw [hsubmit]
    have hspares : Spares id t { t with assistant := a'.unmark id } := by
      refine ⟨hturned.frame, fun _ _ => rfl, fun other hother => ?_⟩
      rw [contains_unmark, hmarked other hother, decide_eq_true hother, Bool.true_and]
    refine ⟨rfl, h.set hspares hturned.held (h.waiting id) ?_ (h.ready id), hturned.settings,
      hturned.finishedCount⟩
    have hnone : (submittedTo (l id) (.error e)).2.waiting = none := hwaiting
    rw [contains_unmark, hnone, decide_eq_false (not_not_intro rfl), Bool.false_and]
    rfl
  · obtain ⟨hp, rfl⟩ := hready p rfl
    have hsubmit : t.submit id counts towers = (.ok (.calling p), ⟨a', t.waiting.put id p⟩) := by
      rw [submit, hbegin]
      rfl
    rw [hsubmit]
    have hspares : Spares id t ⟨a', t.waiting.put id p⟩ := by
      refine ⟨hturned.frame, fun other hother => ?_, hmarked⟩
      rw [Assoc.get?_put, if_neg (Ne.symm hother)]
    refine ⟨rfl, h.set hspares hturned.held (Assoc.get?_put_self _ _ _) ?_ ?_, hturned.settings,
      hturned.finishedCount⟩
    · rw [hturned.busy, contains_mark, decide_eq_true rfl]
      rfl
    · rintro _ ⟨⟩
      exact hp

/-- **The first half of a submission.** -/
theorem submit_tracks (h : t.Follows l) (id : String) (counts : Members) (towers : TowerValues) :
    let after := (Act.submit counts towers).onSlot t.assistant.settings.fallbackDefaults id (l id)
    (t.submit id counts towers).1 = after.1 ∧
      Tracks t (t.submit id counts towers).2 (l.set id after.2) 0 := by
  have hheld : (t.assistant.mark id).store.Holds id (l id).session := h.held id
  rcases hwaiting : (l id).waiting with _ | p
  · rcases hsession : (l id).session with _ | s
    · rw [hsession] at hheld
      have hprepare : Assistant.Yields (Assistant.prepare id counts towers) id
          (t.assistant.mark id) (.error (.sessionNotFound id)) none 0 :=
        Assistant.yields_load_bind_of_none hheld
      simp only [Act.onSlot, hwaiting, hsession]
      exact submit_tracks_of_prepare h hwaiting (by rintro p ⟨⟩) (fun _ _ => hsession.symm) hprepare
    · rw [hsession] at hheld
      have hprepare : Assistant.Yields (Assistant.prepare id counts towers) id
          (t.assistant.mark id)
          (s.submission id t.assistant.settings.fallbackDefaults counts towers)
          (some (Assistant.recordOf s
            (s.submission id t.assistant.settings.fallbackDefaults counts towers))) 0 :=
        Assistant.yields_prepare hheld counts towers
      have hslot : (Act.submit counts towers).onSlot t.assistant.settings.fallbackDefaults id
          (l id) = submittedTo (l id)
            (s.submission id t.assistant.settings.fallbackDefaults counts towers) := by
        simp only [Act.onSlot, hwaiting, hsession]
        cases s.submission id t.assistant.settings.fallbackDefaults counts towers <;> rfl
      rw [hslot]
      refine submit_tracks_of_prepare h hwaiting ?_ ?_ hprepare
      · intro p hp
        rw [hp]
        exact ⟨Session.isReady_of_submission hheld.1 hp, rfl⟩
      · intro e he
        rw [he, hsession]
        rfl
  · have hbusy := h.busy id
    rw [hwaiting] at hbusy
    have hsubmit : t.submit id counts towers = (.error .submissionRunning, t) := by
      rw [submit, Assistant.beginSubmission, Assistant.isSubmitting, hbusy]
      rfl
    simp only [Act.onSlot, hwaiting, Ledger.set_eq_self]
    rw [hsubmit]
    exact ⟨rfl, h, rfl, rfl⟩

/-- **The second half of a submission.** -/
theorem conclude_tracks (h : t.Follows l) (id : String) (answer : Except GatewayError String) :
    let after := (Act.conclude answer).onSlot t.assistant.settings.fallbackDefaults id (l id)
    (t.conclude id answer).1 = after.1 ∧
      Tracks t (t.conclude id answer).2 (l.set id after.2) (finishes after.1).toNat := by
  rcases hwaiting : (l id).waiting with _ | p
  · have hconclude : t.conclude id answer = (.ok .idle, t) := by
      rw [conclude, h.waiting id, hwaiting]
    simp only [Act.onSlot, hwaiting, Ledger.set_eq_self]
    rw [hconclude]
    exact ⟨rfl, h, rfl, rfl⟩
  · have hready : p.IsReady id := h.ready id p hwaiting
    obtain ⟨a', hresult, hturned⟩ := Assistant.yields_conclude hready (h.held id) answer
    have hspares : Spares id t ⟨a'.unmark id, t.waiting.erase id⟩ := by
      refine ⟨hturned.frame, fun other hother => ?_, fun other hother => ?_⟩
      · rw [Assoc.get?_erase, if_neg (Ne.symm hother)]
      · rw [contains_unmark, hturned.busy, decide_eq_true hother, Bool.true_and]
    have hgone : (t.waiting.erase id).get? id = none := by rw [Assoc.get?_erase, if_pos rfl]
    have hfree : (a'.unmark id).busy.contains id = false := by
      rw [contains_unmark, decide_eq_false (not_not_intro rfl), Bool.false_and]
    -- The mark is taken away whatever comes of the submission.
    have hend : Assistant.endSubmission p answer t.assistant =
        match Assistant.conclude p answer t.assistant with
        | .ok result a => .ok result (a.unmark p.id)
        | .error e a => .error e (a.unmark p.id) := rfl
    rw [hresult, hready.id_eq] at hend
    have hstep : t.conclude id answer =
        match Assistant.endSubmission p answer t.assistant with
        | .ok result a => (.ok (.submitted result), ⟨a, t.waiting.erase id⟩)
        | .error e a => (.error e, ⟨a, t.waiting.erase id⟩) := by
      rw [conclude, h.waiting id, hwaiting]
    rw [hend] at hstep
    simp only [Act.onSlot, hwaiting]
    rcases hc : p.concluded answer with e | ⟨result, record⟩
    · rw [hc] at hstep hturned
      have hconclude : t.conclude id answer =
          (.error e, ⟨a'.unmark id, t.waiting.erase id⟩) := hstep
      rw [hconclude]
      exact ⟨rfl, h.set hspares hturned.held hgone hfree (by rintro q ⟨⟩), hturned.settings,
        hturned.finishedCount⟩
    · rw [hc] at hstep hturned
      have hconclude : t.conclude id answer =
          (.ok (.submitted result), ⟨a'.unmark id, t.waiting.erase id⟩) := hstep
      rw [hconclude]
      exact ⟨rfl, h.set hspares hturned.held hgone hfree (by rintro q ⟨⟩), hturned.settings,
        hturned.finishedCount⟩

/-- **One turn of the assistant is one turn of the ledger.** -/
theorem step_tracks (h : t.Follows l) (turn : Turn) (hbounds : turn.act.InBounds)
    (hfresh : ∀ edge, turn.act = .create edge → (l turn.id).session = none) :
    let after := l.step t.assistant.settings.fallbackDefaults turn
    (t.step turn).1 = after.1 ∧ Tracks t (t.step turn).2 after.2 (finishes after.1).toNat := by
  obtain ⟨id, act⟩ := turn
  cases act with
  | create edge =>
    have hheld := h.held id
    rw [hfresh edge rfl] at hheld
    have hcreate := Assistant.yields_map (Assistant.yields_createSession hheld hbounds)
      Reply.session
    rw [Operation.map_replaced {}] at hcreate
    simp only [Ledger.step, Act.onSlot, Operation.finishes_replaced]
    exact serve_tracks h hcreate
  | operate o => exact serve_tracks h (o.perform_yields (h.held id) hbounds)
  | submit counts towers =>
    have htracks := submit_tracks h id counts towers
    have hnone : finishes ((Act.submit counts towers).onSlot
        t.assistant.settings.fallbackDefaults id (l id)).1 = false := by
      simp only [Act.onSlot]
      split
      · rfl
      · rfl
      · split <;> rfl
    rw [← Bool.toNat_false, ← hnone] at htracks
    exact htracks
  | conclude answer => exact conclude_tracks h id answer

end Traffic

/-! ### Runs -/

/-- **What is asked of the turns**: devices are such as their reader accepts, and no two sessions
are created under one identifier. -/
structure Proper (turns : List Turn) : Prop where
  inBounds : ∀ turn ∈ turns, turn.act.InBounds
  fresh : (creations turns).Nodup

theorem Proper.left {turns turns' : List Turn} (h : Proper (turns ++ turns')) : Proper turns where
  inBounds turn hturn := h.inBounds turn (List.mem_append_left _ hturn)
  fresh := by
    have hfresh := h.fresh
    rw [creations_append] at hfresh
    exact (List.nodup_append.mp hfresh).1

theorem Proper.right {turns turns' : List Turn} (h : Proper (turns ++ turns')) :
    Proper turns' where
  inBounds turn hturn := h.inBounds turn (List.mem_append_right _ hturn)
  fresh := by
    have hfresh := h.fresh
    rw [creations_append] at hfresh
    exact (List.nodup_append.mp hfresh).2.1

/-- What has been created is not created later on. -/
theorem Proper.not_mem_later {turns turns' : List Turn} (h : Proper (turns ++ turns'))
    {id : String} (hid : id ∈ creations turns) : id ∉ creations turns' := by
  have hnodup := h.fresh
  rw [creations_append] at hnodup
  exact fun hmem => (List.nodup_append.mp hnodup).2.2 id hid id hmem rfl

/-- Turns that create no session can always follow. -/
theorem Proper.extend {turns turns' : List Turn} (h : Proper turns)
    (hbounds : ∀ turn ∈ turns', turn.act.InBounds) (hnone : creations turns' = []) :
    Proper (turns ++ turns') where
  inBounds turn hturn := (List.mem_append.mp hturn).elim (h.inBounds turn) (hbounds turn)
  fresh := by
    rw [creations_append, hnone, List.append_nil]
    exact h.fresh

namespace Traffic

variable {t : Traffic} {l : Ledger}

theorem run_append (t : Traffic) (turns turns' : List Turn) : t.run (turns ++ turns') =
    ((t.run turns).1 ++ ((t.run turns).2.run turns').1, ((t.run turns).2.run turns').2) :=
  taken_append _ turns turns' t

/-- **A run of the assistant follows the run of the ledger**, from where the identifiers that are
to be created have nothing on record. -/
theorem run_tracks (turns : List Turn) : ∀ {t : Traffic} {l : Ledger}, t.Follows l →
    Proper turns → (∀ id ∈ creations turns, l id = {}) →
    let after := l.run t.assistant.settings.fallbackDefaults turns
    (t.run turns).1 = after.1 ∧ Tracks t (t.run turns).2 after.2 (finishCount after.1) := by
  induction turns with
  | nil => exact fun h _ _ => ⟨rfl, h, rfl, rfl⟩
  | cons turn turns ih =>
    intro t l h hproper hempty
    have hfresh : ∀ edge, turn.act = .create edge → (l turn.id).session = none := by
      intro edge hedge
      rw [hempty turn.id (mem_creations_of_create (List.mem_cons_self ..) hedge)]
    obtain ⟨houtcome, hstep⟩ :=
      step_tracks h turn (hproper.inBounds turn (List.mem_cons_self ..)) hfresh
    -- What is still to be created has nothing on record: no identifier is created twice, and the
    -- ledger puts nothing on record without a creation.
    have hempty' : ∀ id ∈ creations turns,
        (l.step t.assistant.settings.fallbackDefaults turn).2 id = {} := by
      intro id hid
      have hslot : l id = {} := hempty id (mem_creations_cons hid)
      by_cases hturn : id = turn.id
      · subst hturn
        have hact : ∀ edge, turn.act ≠ .create edge :=
          fun edge hedge =>
            not_mem_creations_of_nodup hproper.fresh (creation?_of_create hedge) hid
        rw [Ledger.step_self, hslot]
        exact (Ledger.onSlot_empty hact _ _).1
      · rw [Ledger.step_of_ne _ _ hturn, hslot]
    obtain ⟨hevents, hrun⟩ := ih hstep.follows (@Proper.right [turn] turns hproper) hempty'
    rw [hstep.settings] at hevents hrun
    refine ⟨?_, hrun.follows, hrun.settings.trans hstep.settings, ?_⟩
    · show (⟨turn, (t.step turn).1⟩ :: ((t.step turn).2.run turns).1 : List Event) = _
      rw [houtcome, hevents]
      rfl
    · show ((t.step turn).2.run turns).2.assistant.finishedCount = _
      rw [hrun.finishedCount, hstep.finishedCount, Nat.add_assoc,
        ← finishCount_cons ⟨turn, (l.step t.assistant.settings.fallbackDefaults turn).1⟩]
      rfl

/-- **A run from the start follows the ledger** from nothing on record. -/
theorem run_follows (settings : Settings) (gateway : Gateway) (feed : Option Feed)
    (kind : StoreKind) {turns : List Turn} (h : Proper turns) :
    let after := Ledger.empty.run settings.fallbackDefaults turns
    ((start settings gateway feed kind).run turns).1 = after.1 ∧
      ((start settings gateway feed kind).run turns).2.Follows after.2 ∧
      ((start settings gateway feed kind).run turns).2.assistant.finishedCount =
        finishCount after.1 := by
  have hstart : (start settings gateway feed kind).Follows Ledger.empty := by
    refine ⟨fun id => ?_, fun _ => rfl, fun _ => rfl, by rintro id p ⟨⟩⟩
    show (SessionStore.empty kind).entries id = []
    cases kind <;> rfl
  obtain ⟨hevents, hrun⟩ := run_tracks turns hstart h fun _ _ => rfl
  exact ⟨hevents, hrun.follows, hrun.finishedCount.trans (Nat.zero_add _)⟩

/-- A run that goes on follows the ledger that goes on. -/
theorem run_follows_later (settings : Settings) (gateway : Gateway) (feed : Option Feed)
    (kind : StoreKind) {turns later : List Turn} (h : Proper (turns ++ later)) :
    let t := ((start settings gateway feed kind).run turns).2
    let after := (Ledger.empty.run settings.fallbackDefaults turns).2.run
      settings.fallbackDefaults later
    (t.run later).1 = after.1 ∧ (t.run later).2.Follows after.2 ∧
      (t.run later).2.assistant.finishedCount =
        t.assistant.finishedCount + finishCount after.1 := by
  obtain ⟨hevents, -, hcount⟩ := run_follows settings gateway feed kind h.left
  obtain ⟨hevents', hfollows', hcount'⟩ := run_follows settings gateway feed kind h
  rw [run_append, Ledger.run_append] at hevents' hfollows' hcount'
  rw [finishCount_append] at hcount'
  rw [hevents] at hevents'
  refine ⟨List.append_cancel_left hevents', hfollows', ?_⟩
  rw [hcount, ← hcount']

/-- The next turn of a run is the next turn of the ledger. -/
theorem run_step_follows (settings : Settings) (gateway : Gateway) (feed : Option Feed)
    (kind : StoreKind) {turns : List Turn} {turn : Turn} (h : Proper (turns ++ [turn])) :
    let next := ((start settings gateway feed kind).run turns).2.step turn
    let after := (Ledger.empty.run settings.fallbackDefaults turns).2.step
      settings.fallbackDefaults turn
    next.1 = after.1 ∧ next.2.Follows after.2 := by
  obtain ⟨hevents, hfollows, -⟩ := run_follows_later settings gateway feed kind h
  exact ⟨congrArg Event.outcome (List.cons.inj hevents).1, hfollows⟩

end Traffic

/-- A session is brought to its serial numbers. -/
def approachTurns : List Turn :=
  [⟨"a", .create (some { id := "edge0" })⟩,
   ⟨"a", .operate (.selectSystem "FENECON_HOME")⟩,
   ⟨"a", .operate (.jumpTo 12)⟩]

/-- The counts on a form for serial numbers. -/
def formCounts : Members := [("numberOfTowers", .int 1), ("numberOfModulesPerTower", .int 4)]

/-- The serial numbers on a form. -/
def formTowers : TowerValues :=
  [(1, [("batteryInverter", .str "IN1234567890"), ("emsBox", .str "EMS0000001")])]

/-- The form is submitted, and the gateway is being called. -/
def submissionTurns : List Turn := approachTurns ++ [⟨"a", .submit formCounts formTowers⟩]

theorem proper_submissionTurns : Proper submissionTurns := by
  refine ⟨?_, by decide⟩
  simp only [submissionTurns, approachTurns, List.cons_append, List.nil_append,
    List.forall_mem_cons]
  refine ⟨?_, trivial, trivial, trivial, by rintro turn ⟨⟩⟩
  rintro _ ⟨⟩
  exact ⟨by decide, by decide⟩

end Commissioning
