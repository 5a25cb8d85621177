import Commissioning.Proofs.Assistant.Traffic

/-!
# What is accepted meanwhile

While a submission waits for the gateway, other operations on its session are accepted, written,
and given back. When the gateway answers, the submission writes the session that it has had in
hand since it began, and what was accepted meanwhile goes: the device, the data and the index are
those that were loaded when the submission began
(`Commissioning.Traffic.stored_after_submission`). So a change is kept if and only if it changed
nothing.

The serial numbers and the identifier of the protocol are what the submission itself writes; they
are left out of the comparison (`Commissioning.Installation.besidesSubmission`).
-/

namespace Commissioning

/-- The data, without what a submission writes. -/
def Installation.besidesSubmission (d : Installation) : Installation :=
  { d with battery := { d.battery with serialNumbers := {} }, setupProtocolId := none }

namespace Session

/-- The same device and index, and the same data besides what a submission writes. -/
structure Alike (s s' : Session) : Prop where
  edge : s.edge = s'.edge
  viewIndex : s.viewIndex = s'.viewIndex
  data : s.data.besidesSubmission = s'.data.besidesSubmission

/-- **The second session is the first one, one view on**, besides what a submission writes. -/
structure GoesOnAs (s s' : Session) : Prop where
  edge : s'.edge = s.edge
  viewIndex : s'.viewIndex = s.viewIndex + 1
  data : s'.data.besidesSubmission = s.data.besidesSubmission

variable {s₀ s s' : Session}

/-- A session goes on as another one in the only way in which this does. -/
theorem GoesOnAs.iff_alike (h : s₀.GoesOnAs s') : s.GoesOnAs s' ↔ s.Alike s₀ := by
  constructor
  · intro hs
    refine ⟨hs.edge.symm.trans h.edge, ?_, hs.data.symm.trans h.data⟩
    have hindex := hs.viewIndex
    rw [h.viewIndex] at hindex
    omega
  · intro hs
    exact ⟨h.edge.trans hs.edge.symm, by rw [h.viewIndex, hs.viewIndex],
      h.data.trans hs.data.symm⟩

end Session

/-- The session that a submission leaves goes on as the one that it began with. -/
theorem Submission.goesOnAs {p : Submission} {s : Session} {numbers : SerialNumbers}
    (hp : p.session = s.withSerialNumbers numbers) (answer : Except GatewayError String) :
    s.GoesOnAs ((p.inHand answer).movedTo (p.session.viewIndex + 1)) := by
  rcases answer with why | protocolId
  · show s.GoesOnAs (p.session.movedTo (p.session.viewIndex + 1))
    rw [hp]
    exact ⟨rfl, rfl, rfl⟩
  · show s.GoesOnAs ((p.session.withProtocolId protocolId).movedTo (p.session.viewIndex + 1))
    rw [hp]
    exact ⟨rfl, rfl, rfl⟩

/-- **The session that the operations accepted since the submission began have left.** -/
def Submission.acceptedSince (p : Submission) (events : List Event) : Session :=
  (lastReturned? p.id events).getD p.session

/-! ### While a submission waits -/

/-- A submission waits, and what is on record is what has been accepted since. -/
structure Slot.Awaits (p : Submission) (events : List Event) (slot : Slot) : Prop where
  waiting : slot.waiting = some p
  session : ∀ s ∈ slot.session, p.acceptedSince events = s

namespace Slot.Awaits

variable {p : Submission} {events : List Event} {event : Event} {slot : Slot}

theorem of_ne (h : slot.Awaits p events) (hne : event.turn.id ≠ p.id) :
    slot.Awaits p (events ++ [event]) := by
  refine ⟨h.waiting, fun s hs => ?_⟩
  rw [Submission.acceptedSince, lastReturned?_concat_of_ne hne]
  exact h.session s hs

theorem of_silent (h : slot.Awaits p events) (hid : event.turn.id = p.id)
    (hsilent : returned? event.outcome = none) : slot.Awaits p (events ++ [event]) := by
  refine ⟨h.waiting, fun s hs => ?_⟩
  rw [Submission.acceptedSince, lastReturned?_concat_of_eq hid, hsilent, Option.none_or]
  exact h.session s hs

theorem of_returned (hid : event.turn.id = p.id) {s : Session}
    (hreturned : returned? event.outcome = some s) :
    Slot.Awaits p (events ++ [event]) ⟨some s, some p⟩ := by
  refine ⟨rfl, ?_⟩
  rintro _ ⟨⟩
  rw [Submission.acceptedSince, lastReturned?_concat_of_eq hid, hreturned]
  rfl

/-- **Whatever is done meanwhile**, the submission goes on waiting. -/
theorem onSlot (h : slot.Awaits p events) (fallback : SerialNumberDefaults) {act : Act}
    (hcreate : ∀ edge, act ≠ .create edge) (hconclude : ¬act.IsConclusion) :
    (act.onSlot fallback p.id slot).2.Awaits p
      (events ++ [⟨⟨p.id, act⟩, (act.onSlot fallback p.id slot).1⟩]) := by
  obtain ⟨session, waiting⟩ := slot
  obtain rfl : waiting = some p := h.waiting
  cases act with
  | create edge => exact absurd rfl (hcreate edge)
  | operate o =>
    rcases session with _ | s
    · exact h.of_silent rfl rfl
    · have heffect := o.effect s
      show Slot.Awaits p (events ++ [⟨⟨p.id, .operate o⟩, (o.onSession s).1⟩])
        ⟨(o.onSession s).2, some p⟩
      generalize o.onSession s = after at heffect ⊢
      cases heffect with
      | refused e => exact h.of_silent rfl rfl
      | kept hreturned _ _ => exact of_returned rfl hreturned
      | closed _ => exact ⟨rfl, by rintro s' ⟨⟩⟩
  | submit counts towers => exact h.of_silent rfl rfl
  | conclude answer => exact absurd trivial hconclude

end Slot.Awaits

/-- What comes of a submission that begins. -/
theorem Act.onSlot_submit {fallback : SerialNumberDefaults} {id : String} {slot : Slot}
    {counts : Members} {towers : TowerValues} {p : Submission}
    (h : ((Act.submit counts towers).onSlot fallback id slot).1 = .ok (.calling p)) :
    (∃ s, slot.session = some s ∧ s.submission id fallback counts towers = .ok p) ∧
      ((Act.submit counts towers).onSlot fallback id slot).2 = ⟨some p.session, some p⟩ := by
  obtain ⟨session, waiting⟩ := slot
  rcases waiting with _ | q
  · rcases session with _ | s
    · cases h
    · rcases hp : s.submission id fallback counts towers with e | q
      · simp only [onSlot, hp] at h
        cases h
      · simp only [onSlot, hp] at h ⊢
        cases h
        exact ⟨⟨s, rfl, hp⟩, rfl⟩
  · cases h

/-- **Through all that is done meanwhile**, what is on record is what was accepted last. -/
theorem Ledger.run_awaits (fallback : SerialNumberDefaults) {l : Ledger} {p : Submission}
    {turns : List Turn} (h : l p.id = ⟨some p.session, some p⟩) (hfresh : p.id ∉ creations turns)
    (hturns : ∀ turn ∈ turns, turn.id = p.id → ¬turn.act.IsConclusion) :
    ((l.run fallback turns).2 p.id).Awaits p (l.run fallback turns).1 := by
  have hstart : (l p.id).Awaits p [] := by
    rw [h]
    refine ⟨rfl, ?_⟩
    rintro _ ⟨⟩
    rfl
  refine run_preserves (P := fun events slot => slot.Awaits p events)
    (A := fun act => (∀ edge, act ≠ .create edge) ∧ ¬act.IsConclusion) ?_ ?_ turns [] hstart ?_
  · rintro events slot act hslot ⟨hcreate, hconclude⟩
    exact hslot.onSlot fallback hcreate hconclude
  · intro events slot event hslot hne
    exact hslot.of_ne hne
  · intro turn hturn hid
    exact ⟨ne_create_of_not_mem hfresh turn hturn hid, hturns turn hturn hid⟩

namespace Traffic

section Start

variable (settings : Settings) (gateway : Gateway) (feed : Option Feed) (kind : StoreKind)

/-- What there is once a submission has begun. -/
theorem begun_submission {before : List Turn} {id : String} {counts : Members}
    {towers : TowerValues} {p : Submission}
    (hproper : Proper (before ++ [⟨id, .submit counts towers⟩]))
    (hbegun : (((start settings gateway feed kind).run before).2.step
      ⟨id, .submit counts towers⟩).1 = .ok (.calling p)) :
    p.IsReady id ∧
      (Ledger.empty.run settings.fallbackDefaults
        (before ++ [⟨id, .submit counts towers⟩])).2 id = ⟨some p.session, some p⟩ ∧
      ∃ s numbers, ((Ledger.empty.run settings.fallbackDefaults before).2 id).session = some s ∧
        p.session = s.withSerialNumbers numbers := by
  obtain ⟨houtcome, hheld⟩ := run_step_follows settings gateway feed kind hproper
  rw [houtcome] at hbegun
  obtain ⟨⟨s, hs, hsubmission⟩, hslot⟩ := Act.onSlot_submit hbegun
  obtain ⟨-, edge, numbers, -, -, hsession⟩ := Session.submission_eq_ok hsubmission
  refine ⟨?_, ?_, s, numbers, hs, hsession⟩
  · refine hheld.ready id p ?_
    rw [Ledger.step_self, hslot]
    rfl
  · rw [Ledger.run_append]
    exact (Ledger.step_self _ _ _).trans hslot

/-- **What is stored after a submission** goes on from the session that was loaded when it began,
whatever was done meanwhile. It goes on from what was accepted meanwhile if and only if this is
like the session that was loaded. -/
theorem stored_after_submission {before window : List Turn} {id : String} {counts : Members}
    {towers : TowerValues} {p : Submission} {answer : Except GatewayError String}
    (hproper : Proper (before ++ [⟨id, .submit counts towers⟩] ++ window))
    (hbegun : (((start settings gateway feed kind).run before).2.step
      ⟨id, .submit counts towers⟩).1 = .ok (.calling p))
    (hwindow : ∀ turn ∈ window, turn.id = id → ¬turn.act.IsConclusion)
    (horderly : (Act.conclude answer).Orderly) :
    let begun := ((start settings gateway feed kind).run before).2
    let meanwhile := ((start settings gateway feed kind).run
      (before ++ [⟨id, .submit counts towers⟩])).2.run window
    let ended := (meanwhile.2.step ⟨id, .conclude answer⟩).2
    ∃ loaded stored,
      Assistant.load id begun.assistant = .ok loaded begun.assistant ∧
      Assistant.load id ended.assistant = .ok stored ended.assistant ∧
      loaded.GoesOnAs stored ∧
      (meanwhile.2.assistant.store.has id = true →
        Assistant.load id meanwhile.2.assistant =
          .ok (p.acceptedSince meanwhile.1) meanwhile.2.assistant) ∧
      ((p.acceptedSince meanwhile.1).GoesOnAs stored ↔
        (p.acceptedSince meanwhile.1).Alike loaded) := by
  intro begun meanwhile ended
  obtain ⟨-, hfollows, -⟩ := run_follows settings gateway feed kind hproper.left.left
  obtain ⟨hready, hrecord, s, numbers, hs, hsession⟩ :=
    begun_submission settings gateway feed kind hproper.left hbegun
  obtain rfl := hready.id_eq
  -- It waits, and what is accepted is put on record.
  have hcreated : p.id ∈ creations (before ++ [⟨p.id, .submit counts towers⟩]) :=
    Ledger.mem_creations_of_ne (by rw [hrecord]; rintro ⟨⟩)
  obtain ⟨hevents, hmeanwhile, -⟩ := run_follows_later settings gateway feed kind hproper
  have hawaits := Ledger.run_awaits settings.fallbackDefaults hrecord
    (hproper.not_mem_later hcreated) hwindow
  rw [← hevents] at hawaits
  -- At the end it puts its own session on record.
  have hlast : Proper (before ++ [⟨p.id, .submit counts towers⟩] ++ window ++
      [⟨p.id, .conclude answer⟩]) := hproper.extend (by simp [Act.InBounds]) rfl
  obtain ⟨-, hended⟩ := run_step_follows settings gateway feed kind hlast
  rw [run_append, Ledger.run_append] at hended
  have hstored := hended.load
    (congrArg Slot.session (Ledger.step_conclude _ hawaits.waiting hready horderly))
  have hgoes := Submission.goesOnAs hsession answer
  refine ⟨s, _, hfollows.load hs, hstored, hgoes, fun hhas => ?_, hgoes.iff_alike⟩
  rw [(hmeanwhile.held p.id).has] at hhas
  obtain ⟨s', hs'⟩ := Option.isSome_iff_exists.mp hhas
  rw [hawaits.session s' hs']
  exact hmeanwhile.load hs'

end Start

/-- The submission of an outcome, if one begins. -/
def calling? : Outcome → Option Submission
  | .ok (.calling p) => some p
  | _ => none

theorem eq_calling_of_isSome {outcome : Outcome} (h : (calling? outcome).isSome = true) :
    ∃ p, outcome = .ok (.calling p) := by
  unfold calling? at h
  split at h
  · exact ⟨_, rfl⟩
  · cases h

/-- Another device is bound while serial numbers are submitted, and is not kept. -/
theorem stored_after_submission_bound :
    let meanwhile := (((start {} default none .memory).run
      (approachTurns ++ [⟨"a", .submit formCounts formTowers⟩])).2.run
        [⟨"a", .operate (.bindEdge { id := "edge1" })⟩]).2
    let ended := (meanwhile.step ⟨"a", .conclude (.ok "P1")⟩).2
    ∃ accepted stored, Assistant.load "a" meanwhile.assistant = .ok accepted meanwhile.assistant ∧
      accepted.edge = some { id := "edge1" } ∧
      Assistant.load "a" ended.assistant = .ok stored ended.assistant ∧
      stored.edge = some { id := "edge0" } := by
  have hbegun : Proper (approachTurns ++ [⟨"a", .submit formCounts formTowers⟩]) :=
    proper_submissionTurns
  have hproper : Proper (approachTurns ++ [⟨"a", .submit formCounts formTowers⟩] ++
      [⟨"a", .operate (.bindEdge { id := "edge1" })⟩]) := by
    refine hbegun.extend ?_ rfl
    simp only [List.forall_mem_cons]
    exact ⟨⟨by decide, by decide⟩, by rintro turn ⟨⟩⟩
  obtain ⟨houtcome, -⟩ := run_step_follows {} default none .memory hbegun
  have hcalling : (calling? ((Ledger.empty.run ({} : Settings).fallbackDefaults
      approachTurns).2.step ({} : Settings).fallbackDefaults
        ⟨"a", .submit formCounts formTowers⟩).1).isSome = true := by decide +kernel
  obtain ⟨p, hp⟩ := eq_calling_of_isSome hcalling
  obtain ⟨loaded, stored, hloaded, hstored, hgoes, -, -⟩ :=
    stored_after_submission {} default none .memory hproper (houtcome.trans hp)
      (by simp [Act.IsConclusion]) (show (Act.conclude (.ok "P1")).Orderly from trivial)
  obtain ⟨-, hbefore, -⟩ := run_follows {} default none .memory hbegun.left
  have hedge : ((Ledger.empty.run ({} : Settings).fallbackDefaults approachTurns).2
      "a").session.map Session.edge = some (some { id := "edge0" }) := by decide +kernel
  rw [hbefore.session_of_load hloaded] at hedge
  obtain ⟨-, hmeanwhile, -⟩ := run_follows_later {} default none .memory hproper
  have hbound : (((Ledger.empty.run ({} : Settings).fallbackDefaults (approachTurns ++
      [⟨"a", .submit formCounts formTowers⟩])).2.run ({} : Settings).fallbackDefaults
        [⟨"a", .operate (.bindEdge { id := "edge1" })⟩]).2 "a").session.map Session.edge =
          some (some { id := "edge1" }) := by decide +kernel
  obtain ⟨accepted, haccepted, hedge'⟩ := Option.map_eq_some_iff.mp hbound
  exact ⟨accepted, stored, hmeanwhile.load haccepted, hedge', hstored,
    hgoes.edge.trans (Option.some.inj hedge)⟩

end Traffic

end Commissioning
