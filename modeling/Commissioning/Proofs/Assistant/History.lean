import Commissioning.Proofs.Assistant.Ledger

/-!
# What has happened to a session

The events of a run tell of every identifier whether a session was created under it
(`Commissioning.IsCreated`), whether it was removed or finished (`Commissioning.IsClosed`), and
which session was given back last (`Commissioning.lastReturned?`). Where no act overlaps a
submission of its session, this is what the ledger has on record
(`Commissioning.Ledger.run_recorded`): a session that is created and not closed, and in the form
in which it was given back last. One that was created by half (`Commissioning.IsHalfCreated`) has
not been given back by its creation; until it is, it is a fresh session without a device
(`Commissioning.IsLeft`).

An operation on a session has one of three effects (`Commissioning.Effect`): it is refused, it
leaves the session that it gives back, or it closes the session. All that is said about runs
follows from these.

Where nothing is on record and no session is created, nothing comes to be on record
(`Commissioning.Ledger.run_empty`). A system that has been chosen stays
(`Commissioning.Ledger.run_staysWith`), also where acts overlap submissions.
-/

namespace Commissioning

/-! ### Creations -/

/-- The identifier that a turn creates a session under. -/
def Turn.creation? (turn : Turn) : Option String :=
  match turn.act with
  | .create _ => some turn.id
  | _ => none

/-- The identifiers that sessions are created under. -/
def creations (turns : List Turn) : List String := turns.filterMap Turn.creation?

theorem creation?_eq_some {turn : Turn} {id : String} (h : turn.creation? = some id) :
    id = turn.id ∧ ∃ edge, turn.act = .create edge := by
  obtain ⟨id', act⟩ := turn
  cases act with
  | create edge => exact ⟨(Option.some.inj h).symm, edge, rfl⟩
  | _ => cases h

theorem creations_append (turns turns' : List Turn) :
    creations (turns ++ turns') = creations turns ++ creations turns' :=
  List.filterMap_append

theorem creations_cons (turn : Turn) (turns : List Turn) :
    creations (turn :: turns) = turn.creation?.toList ++ creations turns := by
  rw [creations, List.filterMap_cons]
  cases turn.creation? <;> rfl

theorem creation?_of_create {turn : Turn} {edge : Option Edge} (h : turn.act = .create edge) :
    turn.creation? = some turn.id := by
  rw [Turn.creation?, h]

theorem mem_creations_of_create {turn : Turn} {turns : List Turn} {edge : Option Edge}
    (hturn : turn ∈ turns) (h : turn.act = .create edge) : turn.id ∈ creations turns :=
  List.mem_filterMap.mpr ⟨turn, hturn, creation?_of_create h⟩

theorem mem_creations_cons {turn : Turn} {turns : List Turn} {id : String}
    (h : id ∈ creations turns) : id ∈ creations (turn :: turns) := by
  rw [creations_cons]
  exact List.mem_append_right _ h

/-- Turns that create no session under an identifier. -/
theorem ne_create_of_not_mem {id : String} {turns : List Turn} (h : id ∉ creations turns) :
    ∀ turn ∈ turns, turn.id = id → ∀ edge, turn.act ≠ .create edge := by
  rintro turn hturn rfl edge hedge
  exact h (mem_creations_of_create hturn hedge)

/-- What one turn creates is not created by the turns after it. -/
theorem not_mem_creations_of_nodup {turn : Turn} {turns : List Turn}
    (h : (creations (turn :: turns)).Nodup) {id : String} (hid : turn.creation? = some id) :
    id ∉ creations turns := by
  rw [creations_cons, hid] at h
  exact (List.nodup_cons.mp h).1

theorem nodup_creations_of_cons {turn : Turn} {turns : List Turn}
    (h : (creations (turn :: turns)).Nodup) : (creations turns).Nodup := by
  rw [creations_cons] at h
  exact (List.nodup_append.mp h).2.1

/-! ### What events tell -/

/-- The session that an act gives back. -/
def returned? : Outcome → Option Session
  | .ok (.session s) => some s
  | .ok (.moved _ s) => some s
  | .ok (.submitted result) => some result.session
  | _ => none

/-- Whether an act has removed or finished its session. -/
def closes : Outcome → Bool
  | .ok .removed => true
  | outcome => finishes outcome

/-- How many sessions have been finished. -/
def finishCount (events : List Event) : Nat := events.countP fun event => finishes event.outcome

/-- A session has been created under the identifier, if only by half. -/
def IsCreated (id : String) (events : List Event) : Prop :=
  ∃ event ∈ events, event.turn.creation? = some id

/-- A session has been created under the identifier by half: its creation has failed. -/
def IsHalfCreated (id : String) (events : List Event) : Prop :=
  ∃ event ∈ events, event.turn.creation? = some id ∧ ∃ e, event.outcome = .error e

/-- The session of the identifier has been removed or finished. -/
def IsClosed (id : String) (events : List Event) : Prop :=
  ∃ event ∈ events, event.turn.id = id ∧ closes event.outcome = true

/-- **The session that the last successful operation gave back** for an identifier. -/
def lastReturned? (id : String) (events : List Event) : Option Session :=
  events.reverse.findSome? fun event =>
    if event.turn.id = id then returned? event.outcome else none

/-- **The session is as it was left**: as it was given back last, or fresh and without a device if
it was created by half and has not been given back. -/
def IsLeft (id : String) (events : List Event) (s : Session) : Prop :=
  lastReturned? id events = some s ∨
    IsHalfCreated id events ∧ lastReturned? id events = none ∧ s = {}

theorem finishCount_cons (event : Event) (events : List Event) :
    finishCount (event :: events) = (finishes event.outcome).toNat + finishCount events := by
  rw [finishCount, List.countP_cons, Nat.add_comm]
  cases finishes event.outcome <;> rfl

theorem finishCount_append (events events' : List Event) :
    finishCount (events ++ events') = finishCount events + finishCount events' :=
  List.countP_append

/-- A record that is replaced is not closed. -/
theorem closes_replaced (s : Session) (x : Except AssistantError Session) :
    closes (Operation.replaced s x).1 = false := by
  cases x <;> rfl

theorem finishes_of_closes_eq_false {outcome : Outcome} (h : closes outcome = false) :
    finishes outcome = false := by
  unfold closes at h
  split at h
  · cases h
  · exact h

section Concat

variable {id : String} {events : List Event} {event : Event}

theorem isCreated_concat :
    IsCreated id (events ++ [event]) ↔
      IsCreated id events ∨ event.turn.creation? = some id := by
  simp [IsCreated, or_and_right, exists_or]

theorem isClosed_concat :
    IsClosed id (events ++ [event]) ↔
      IsClosed id events ∨ event.turn.id = id ∧ closes event.outcome = true := by
  simp [IsClosed, or_and_right, exists_or]

theorem lastReturned?_concat_of_eq (h : event.turn.id = id) :
    lastReturned? id (events ++ [event]) =
      (returned? event.outcome).or (lastReturned? id events) := by
  rw [lastReturned?, List.reverse_concat, List.findSome?_cons, if_pos h]
  cases returned? event.outcome <;> rfl

theorem lastReturned?_concat_of_ne (h : event.turn.id ≠ id) :
    lastReturned? id (events ++ [event]) = lastReturned? id events := by
  rw [lastReturned?, List.reverse_concat, List.findSome?_cons, if_neg h]
  rfl

theorem lastReturned?_concat_of_silent (h : event.turn.id = id → returned? event.outcome = none) :
    lastReturned? id (events ++ [event]) = lastReturned? id events := by
  by_cases hid : event.turn.id = id
  · rw [lastReturned?_concat_of_eq hid, h hid, Option.none_or]
  · exact lastReturned?_concat_of_ne hid

theorem IsHalfCreated.concat (h : IsHalfCreated id events) :
    IsHalfCreated id (events ++ [event]) := by
  obtain ⟨creation, hmem, hcreation⟩ := h
  exact ⟨creation, List.mem_append_left _ hmem, hcreation⟩

theorem IsLeft.concat {s : Session} (h : IsLeft id events s)
    (hsilent : event.turn.id = id → returned? event.outcome = none) :
    IsLeft id (events ++ [event]) s := by
  rw [IsLeft, lastReturned?_concat_of_silent hsilent]
  exact h.imp_right fun hhalf => ⟨hhalf.1.concat, hhalf.2⟩

end Concat

/-! ### Turns, one after the other -/

section Taken

variable {σ : Type} (step : σ → Turn → Outcome × σ)

theorem taken_append (turns turns' : List Turn) : ∀ state : σ, taken step state (turns ++ turns') =
    ((taken step state turns).1 ++ (taken step (taken step state turns).2 turns').1,
      (taken step (taken step state turns).2 turns').2) := by
  induction turns with
  | nil => exact fun _ => rfl
  | cons turn turns ih =>
    intro state
    rw [List.cons_append, taken, ih]
    rfl

theorem isCreated_taken_iff {id : String} (turns : List Turn) : ∀ state : σ,
    IsCreated id (taken step state turns).1 ↔ id ∈ creations turns := by
  induction turns with
  | nil => simp [taken, IsCreated, creations]
  | cons turn turns ih =>
    intro state
    have hcons : IsCreated id (taken step state (turn :: turns)).1 ↔
        turn.creation? = some id ∨ IsCreated id (taken step (step state turn).2 turns).1 := by
      simp [taken, IsCreated]
    rw [hcons, ih, creations_cons, List.mem_append]
    simp

end Taken

/-! ### Creations by half -/

/-- The turn is to create a session under the identifier for a device with a torn text. -/
def Turn.IsTornCreation (id : String) (turn : Turn) : Prop :=
  turn.id = id ∧ ∃ edge, turn.act = .create (some edge) ∧ ¬edge.IsWhole

theorem Session.created_eq_error_iff {edge : Option Edge} :
    (∃ e, created edge = .error e) ↔ ∃ e, edge = some e ∧ ¬e.IsWhole := by
  rcases edge with _ | edge
  · simp [created]
  · rcases ht : edge.torn? with _ | t
    · simp [created, bound, Edge.IsWhole, ht]
    · simp [created, bound, Edge.IsWhole, ht]

/-- One turn creates a session by half exactly if it is to create one for such a device. -/
theorem Ledger.isHalfCreated_step_iff (fallback : SerialNumberDefaults) (l : Ledger) {id : String}
    (turn : Turn) : IsHalfCreated id [⟨turn, (l.step fallback turn).1⟩] ↔
      turn.IsTornCreation id := by
  obtain ⟨id', act⟩ := turn
  cases act with
  | create edge =>
    have houtcome : (∃ e, (l.step fallback ⟨id', .create edge⟩).1 = .error e) ↔
        ∃ e, Session.created edge = .error e := by
      show (∃ e, (Operation.replaced {} (Session.created edge)).1 = .error e) ↔ _
      cases Session.created edge <;> simp [Operation.replaced]
    simp [IsHalfCreated, Turn.creation?, Turn.IsTornCreation, houtcome,
      Session.created_eq_error_iff]
  | _ => simp [IsHalfCreated, Turn.creation?, Turn.IsTornCreation]

/-- **A session is created by half** exactly if it is created for a device with a torn text. -/
theorem Ledger.isHalfCreated_run_iff {fallback : SerialNumberDefaults} {id : String}
    (turns : List Turn) : ∀ l : Ledger,
      IsHalfCreated id (l.run fallback turns).1 ↔ ∃ turn ∈ turns, turn.IsTornCreation id := by
  induction turns with
  | nil => simp [run, taken, IsHalfCreated]
  | cons turn turns ih =>
    intro l
    have hcons : IsHalfCreated id (l.run fallback (turn :: turns)).1 ↔
        IsHalfCreated id [⟨turn, (l.step fallback turn).1⟩] ∨
          IsHalfCreated id ((l.step fallback turn).2.run fallback turns).1 := by
      simp [run, taken, IsHalfCreated]
    rw [hcons, isHalfCreated_step_iff, ih, List.exists_mem_cons_iff]

/-! ### The effect of an operation -/

/-- **What an operation does to a session**: it is refused, it leaves the session that it gives
back, or it closes the session. A system that has been chosen stays. -/
inductive Effect (s : Session) : Outcome × Option Session → Prop where
  /-- The operation is refused. -/
  | refused (e : AssistantError) : Effect s (.error e, some s)
  /-- There is a session afterwards, and it is given back. -/
  | kept {outcome : Outcome} {s' : Session} (hreturned : returned? outcome = some s')
      (hopen : closes outcome = false)
      (hsystem : s.system.isGeneral = false → s'.system = s.system) :
      Effect s (outcome, some s')
  /-- There is no session afterwards. -/
  | closed {outcome : Outcome} (hclosed : closes outcome = true) : Effect s (outcome, none)

namespace Effect

variable {s : Session}

theorem replaced {x : Except AssistantError Session}
    (h : ∀ s', x = .ok s' → s.system.isGeneral = false → s'.system = s.system) :
    Effect s (Operation.replaced s x) := by
  rcases x with e | s'
  · exact .refused e
  · exact .kept rfl rfl (h s' rfl)

/-- The effect of moving on with a session in hand that has the same system. -/
theorem forward {s' : Session} {outcome : Outcome} (hsystem : s'.system = s.system)
    (hreturned : returned? outcome = some (s'.movedTo (s'.viewIndex + 1)))
    (hcloses : closes outcome = s'.forward.1.finished) : Effect s (outcome, s'.forward.2) := by
  unfold Session.forward at hcloses ⊢
  by_cases hlt : s'.viewIndex + 1 < s'.viewCount
  · rw [if_pos hlt] at hcloses ⊢
    exact .kept hreturned hcloses fun _ => hsystem
  · rw [if_neg hlt] at hcloses ⊢
    exact .closed hcloses

end Effect

namespace Session

/-- A system that has been chosen is not replaced. -/
theorem system_selected {s s' : Session} {system : StorageSystem}
    (h : s.selected system = .ok s') (hsystem : s.system.isGeneral = false) :
    s'.system = s.system := by
  unfold selected at h
  by_cases hsame : s.system = system
  · rw [if_pos hsame] at h
    rw [← Except.ok.inj h]
  · rw [if_neg hsame, hsystem] at h
    cases h

theorem system_withProtocolId (s : Session) (protocolId : String) :
    (s.withProtocolId protocolId).system = s.system := rfl

/-- What a submission is made of. -/
theorem submission_eq_ok {s : Session} {id : String} {fallback : SerialNumberDefaults}
    {counts : Members} {towers : TowerValues} {p : Submission}
    (hp : s.submission id fallback counts towers = .ok p) :
    s.currentView = .ok (some .protocolSerialNumbers) ∧ ∃ edge numbers,
      s.edge = some edge ∧ p.id = id ∧ p.session = s.withSerialNumbers numbers := by
  unfold submission at hp
  split at hp
  · cases hp
  next view hv =>
  split at hp
  · cases hp
  next hview =>
  split at hp
  · cases hp
  next edge hedge =>
  split at hp
  · cases hp
  next numbers _ =>
  split at hp
  · cases hp
  · obtain rfl := Except.ok.inj hp
    exact ⟨by rw [hv, Decidable.not_not.mp hview], edge, numbers, hedge, rfl, rfl⟩

end Session

/-- **Every operation has one of the effects.** -/
theorem Operation.effect (s : Session) (o : Operation) : Effect s (o.onSession s) := by
  cases o with
  | inspect => exact .kept rfl rfl fun _ => rfl
  | abandon => exact .closed rfl
  | bindEdge edge =>
    refine .replaced fun s' h _ => ?_
    rw [Session.bound] at h
    split at h
    · cases h
    · rw [← Except.ok.inj h]
  | selectSystem systemId =>
    rw [onSession]
    rcases selectable? systemId with _ | system
    · exact .refused _
    · exact .replaced fun s' h hsystem => Session.system_selected h hsystem
  | updateData patch =>
    refine .replaced fun s' h _ => ?_
    rcases hpatched : s.patched patch with e | data
    · rw [hpatched] at h
      cases h
    · rw [hpatched] at h
      rw [← Except.ok.inj h]
  | advance =>
    rw [onSession]
    rcases s.completed with e | ⟨⟩
    · exact .refused e
    · exact .forward rfl rfl rfl
  | retreat =>
    rw [onSession]
    split
    · exact .kept rfl rfl fun _ => rfl
    · exact .refused _
  | jumpTo index =>
    rw [onSession]
    split
    · exact .kept rfl rfl fun _ => rfl
    · rcases hrejected : Navigator.rejectedAt s index with e | result
      · exact .refused _
      · exact .kept rfl (Navigator.finished_of_rejectedAt hrejected) fun _ => rfl

/-- An answer of the gateway, or a failure that is orderly. -/
def Act.Orderly : Act → Prop
  | .conclude (.ok _) => True
  | .conclude (.error (.rejected ..)) => True
  | .conclude _ => False
  | _ => True

/-- After an orderly answer a submission comes to its end. -/
theorem Submission.exists_concluded (p : Submission) {answer : Except GatewayError String}
    (h : (Act.conclude answer).Orderly) : ∃ result record,
      p.concluded answer = .ok (result, record) := by
  rcases answer with why | protocolId
  · cases why with
    | rejected status detail => exact ⟨_, _, rfl⟩
    | _ => cases h
  · exact ⟨_, _, rfl⟩

/-- The end of a submission has one of the effects on the session that it has in hand. -/
theorem Submission.effect {p : Submission} {answer : Except GatewayError String}
    {result : SubmissionResult} {record : Option Session}
    (h : p.concluded answer = .ok (result, record)) :
    Effect p.session (.ok (.submitted result), record) := by
  rcases answer with why | protocolId
  · cases why with
    | rejected status detail =>
      cases h
      exact .forward rfl rfl rfl
    | _ => cases h
  · cases h
    exact .forward (Session.system_withProtocolId _ _) rfl rfl

/-! ### What is recorded -/

/-- Whether an act is the answer to a submission. -/
def Act.IsConclusion : Act → Prop
  | .conclude _ => True
  | _ => False

instance : DecidablePred Act.IsConclusion
  | .conclude _ => isTrue trivial
  | .create _ | .operate _ | .submit _ _ => isFalse id

/-- **What is on record is what the events tell.** While a submission waits, its session is on
record as the submission has it in hand. -/
structure Recorded (id : String) (events : List Event) (slot : Slot) : Prop where
  session : slot.session ≠ none ↔ IsCreated id events ∧ ¬IsClosed id events
  closed : IsClosed id events → IsCreated id events
  silent : ¬IsCreated id events → lastReturned? id events = none
  left : slot.waiting = none → ∀ s ∈ slot.session, IsLeft id events s
  submitted : ∀ p ∈ slot.waiting, slot.session = some p.session

theorem Recorded.nil (id : String) : Recorded id [] {} where
  session := by simp [IsCreated]
  closed := by simp [IsClosed]
  silent _ := rfl
  left := by rintro - s ⟨⟩
  submitted := by rintro p ⟨⟩

namespace Recorded

variable {id : String} {events : List Event} {event : Event} {slot slot' : Slot}

theorem session_eq_none (h : Recorded id events slot) (hnone : ¬IsCreated id events) :
    slot.session = none :=
  Decidable.not_not.mp fun hsome => hnone (h.session.mp hsome).1

theorem waiting_eq_none (h : Recorded id events slot) (hnone : slot.session = none) :
    slot.waiting = none := by
  rcases hwaiting : slot.waiting with _ | p
  · rfl
  · rw [h.submitted p hwaiting] at hnone
    cases hnone

/-- An event of another session. -/
theorem of_ne (h : Recorded id events slot) (hne : event.turn.id ≠ id) :
    Recorded id (events ++ [event]) slot := by
  have hcreated : IsCreated id (events ++ [event]) ↔ IsCreated id events := by
    rw [isCreated_concat]
    exact or_iff_left fun hcreation => hne (creation?_eq_some hcreation).1.symm
  have hclosed : IsClosed id (events ++ [event]) ↔ IsClosed id events := by
    rw [isClosed_concat]
    exact or_iff_left fun hclosing => hne hclosing.1
  refine ⟨?_, ?_, ?_, fun hwaiting s hs => ?_, h.submitted⟩
  · rw [hcreated, hclosed]
    exact h.session
  · rw [hcreated, hclosed]
    exact h.closed
  · rw [hcreated, lastReturned?_concat_of_ne hne]
    exact h.silent
  · exact (h.left hwaiting s hs).concat fun hid => absurd hid hne

/-- An event that neither creates nor closes the session. -/
theorem of_open (h : Recorded id events slot) (hcreation : event.turn.creation? = none)
    (hopen : closes event.outcome = false) (hsome : slot'.session ≠ none ↔ slot.session ≠ none)
    (hsilent : slot.session = none → returned? event.outcome = none)
    (hleft : slot'.waiting = none → ∀ s ∈ slot'.session, IsLeft id (events ++ [event]) s)
    (hsubmitted : ∀ p ∈ slot'.waiting, slot'.session = some p.session) :
    Recorded id (events ++ [event]) slot' := by
  have hcreated : IsCreated id (events ++ [event]) ↔ IsCreated id events := by
    rw [isCreated_concat, hcreation]
    exact or_iff_left (by rintro ⟨⟩)
  have hclosed : IsClosed id (events ++ [event]) ↔ IsClosed id events := by
    rw [isClosed_concat, hopen]
    exact or_iff_left (by rintro ⟨-, ⟨⟩⟩)
  refine ⟨?_, ?_, fun hnone => ?_, hleft, hsubmitted⟩
  · rw [hcreated, hclosed, hsome]
    exact h.session
  · rw [hcreated, hclosed]
    exact h.closed
  · rw [hcreated] at hnone
    have hsession : slot.session = none := h.session_eq_none hnone
    rw [lastReturned?_concat_of_silent fun _ => hsilent hsession]
    exact h.silent hnone

/-- An act that is refused, or that gives back nothing. -/
theorem of_silent (h : Recorded id events slot) (hcreation : event.turn.creation? = none)
    (hsilent : returned? event.outcome = none) (hopen : closes event.outcome = false) :
    Recorded id (events ++ [event]) slot :=
  h.of_open hcreation hopen Iff.rfl (fun _ => hsilent)
    (fun hwaiting s hs => (h.left hwaiting s hs).concat fun _ => hsilent) h.submitted

/-- An act with an effect on the session on record. -/
theorem of_effect (h : Recorded id events slot) (hid : event.turn.id = id)
    (hcreation : event.turn.creation? = none) {s : Session} (hs : slot.session = some s)
    {record : Option Session} (heffect : Effect s (event.outcome, record))
    (hlast : ∀ e, event.outcome = .error e → slot.waiting = none) :
    Recorded id (events ++ [event]) ⟨record, none⟩ := by
  have hsome : slot.session ≠ none := by
    rw [hs]
    rintro ⟨⟩
  obtain ⟨turn, outcome⟩ := event
  cases heffect with
  | refused e =>
    -- What is refused leaves the slot as it is, and no submission waits in it.
    have hslot : slot = ⟨some s, none⟩ := by
      rw [← hs, ← hlast e rfl]
    rw [← hslot]
    exact h.of_silent hcreation rfl rfl
  | @kept _ s' hreturned hopen _ =>
    refine h.of_open hcreation hopen (by simp [hs]) (fun hnone => absurd hnone hsome)
      (fun _ s'' hs'' => Or.inl ?_) (by rintro p ⟨⟩)
    rw [lastReturned?_concat_of_eq hid, hreturned, Option.some_or]
    exact hs''
  | closed hclosed =>
    have hcreated : IsCreated id (events ++ [⟨turn, outcome⟩]) :=
      isCreated_concat.mpr (Or.inl (h.session.mp hsome).1)
    have hnow : IsClosed id (events ++ [⟨turn, outcome⟩]) :=
      isClosed_concat.mpr (Or.inr ⟨hid, hclosed⟩)
    exact ⟨⟨fun hnone => absurd rfl hnone, fun hopen => absurd hnow hopen.2⟩, fun _ => hcreated,
      fun hnone => absurd hcreated hnone, by rintro - s ⟨⟩, by rintro p ⟨⟩⟩

/-- The creation of a session that has not been created before, whether it succeeds or fails. -/
theorem create (h : Recorded id events slot) (hfresh : ¬IsCreated id events)
    (edge : Option Edge) (created : Except AssistantError Session) :
    Recorded id (events ++ [⟨⟨id, .create edge⟩, (Operation.replaced {} created).1⟩])
      { slot with session := (Operation.replaced {} created).2 } := by
  have hnone : slot.session = none := h.session_eq_none hfresh
  have hopen : ¬IsClosed id
      (events ++ [⟨⟨id, .create edge⟩, (Operation.replaced {} created).1⟩]) := by
    rw [isClosed_concat]
    rintro (hclosed | ⟨-, hclosed⟩)
    · exact hfresh (h.closed hclosed)
    · rw [closes_replaced] at hclosed
      cases hclosed
  have hcreated : IsCreated id
      (events ++ [⟨⟨id, .create edge⟩, (Operation.replaced {} created).1⟩]) :=
    isCreated_concat.mpr (Or.inr rfl)
  refine ⟨⟨fun _ => ⟨hcreated, hopen⟩, fun _ => ?_⟩, fun _ => hcreated,
    fun hnone => absurd hcreated hnone, fun _ s hs => ?_, ?_⟩
  · cases created <;> rintro ⟨⟩
  · rcases created with e | s'
    · -- Nothing was given back for the identifier before, since there was no session.
      obtain rfl : {} = s := Option.some.inj hs
      have hlast := h.silent hfresh
      refine Or.inr ⟨⟨_, List.mem_concat_self, rfl, e, rfl⟩, ?_, rfl⟩
      rw [lastReturned?_concat_of_silent fun _ => rfl, hlast]
    · obtain rfl : s' = s := Option.some.inj hs
      exact Or.inl (lastReturned?_concat_of_eq rfl)
  · rw [h.waiting_eq_none hnone]
    rintro p ⟨⟩

/-- **One turn records what happens in it**, if it overlaps no submission. -/
theorem step (h : Recorded id events slot) (fallback : SerialNumberDefaults) (act : Act)
    (hfresh : ∀ edge, act = .create edge → ¬IsCreated id events)
    (hapart : slot.waiting ≠ none → act.IsConclusion) (horderly : act.Orderly) :
    Recorded id (events ++ [⟨⟨id, act⟩, (act.onSlot fallback id slot).1⟩])
      (act.onSlot fallback id slot).2 := by
  obtain ⟨session, waiting⟩ := slot
  cases act with
  | create edge => exact h.create (hfresh edge rfl) edge (Session.created edge)
  | operate o =>
    obtain rfl : waiting = none := Decidable.not_not.mp fun hne => hapart hne
    rcases session with _ | s
    · exact h.of_silent rfl rfl rfl
    · exact h.of_effect rfl rfl rfl (o.effect s) fun _ _ => rfl
  | submit counts towers =>
    obtain rfl : waiting = none := Decidable.not_not.mp fun hne => hapart hne
    rcases session with _ | s
    · exact h.of_silent rfl rfl rfl
    · rcases hp : s.submission id fallback counts towers with e | p
      · simp only [Act.onSlot, hp]
        exact h.of_silent rfl rfl rfl
      · simp only [Act.onSlot, hp]
        -- The submission has the session in hand that it has put on record.
        refine h.of_open rfl rfl (by simp) (by rintro ⟨⟩) (by rintro ⟨⟩) ?_
        rintro _ ⟨⟩
        rfl
  | conclude answer =>
    rcases waiting with _ | p
    · exact h.of_silent rfl rfl rfl
    · obtain ⟨result, record, hconcluded⟩ := p.exists_concluded horderly
      simp only [Act.onSlot, hconcluded]
      exact h.of_effect rfl rfl (h.submitted p rfl) (Submission.effect hconcluded)
        (by rintro e ⟨⟩)

end Recorded

/-- No turn overlaps a submission of its session. -/
def Ledger.Apart (fallback : SerialNumberDefaults) (l : Ledger) (turns : List Turn) : Prop :=
  ∀ before turn after, turns = before ++ turn :: after →
    ((l.run fallback before).2 turn.id).waiting ≠ none → turn.act.IsConclusion

namespace Ledger

variable {fallback : SerialNumberDefaults} {l : Ledger}

theorem run_append (turns turns' : List Turn) : l.run fallback (turns ++ turns') =
    ((l.run fallback turns).1 ++ ((l.run fallback turns).2.run fallback turns').1,
      ((l.run fallback turns).2.run fallback turns').2) :=
  taken_append _ turns turns' l

theorem apart_nil (l : Ledger) : l.Apart fallback [] := by
  intro before turn after hturns
  cases before <;> cases hturns

theorem apart_cons_iff {turn : Turn} {turns : List Turn} : l.Apart fallback (turn :: turns) ↔
    ((l turn.id).waiting ≠ none → turn.act.IsConclusion) ∧
      (l.step fallback turn).2.Apart fallback turns := by
  constructor
  · intro h
    refine ⟨h [] turn turns rfl, fun before turn' after hturns => ?_⟩
    exact h (turn :: before) turn' after (congrArg (turn :: ·) hturns)
  · rintro ⟨h, htail⟩ (_ | ⟨turn', before⟩) turn'' after hturns
    · cases hturns
      exact h
    · cases hturns
      exact htail before turn'' after rfl

instance decidableApart : ∀ (l : Ledger) (turns : List Turn), Decidable (l.Apart fallback turns)
  | l, [] => isTrue (apart_nil l)
  | l, turn :: turns =>
    have := decidableApart (l.step fallback turn).2 turns
    decidable_of_iff _ apart_cons_iff.symm

/-- **What is on record after a run is what the events tell**, if no act overlaps a submission of
its session, the gateway fails in an orderly way only, and no identifier is used twice. -/
theorem run_recorded (turns : List Turn) : ∀ {l : Ledger} {events : List Event},
    (∀ id, Recorded id events (l id)) → (creations turns).Nodup →
    (∀ id ∈ creations turns, ¬IsCreated id events) → l.Apart fallback turns →
    (∀ turn ∈ turns, turn.act.Orderly) →
    ∀ id, Recorded id (events ++ (l.run fallback turns).1) ((l.run fallback turns).2 id) := by
  induction turns with
  | nil =>
    intro l events h _ _ _ _ id
    rw [show (l.run fallback []).1 = [] from rfl, List.append_nil]
    exact h id
  | cons turn turns ih =>
    intro l events h hnodup hfresh hapart horderly id
    obtain ⟨hfirst, htail⟩ := apart_cons_iff.mp hapart
    -- The invariant is on all identifiers at once: the turn changes one slot, and its event is one
    -- of another session for the others.
    have hstep : ∀ id, Recorded id (events ++ [⟨turn, (l.step fallback turn).1⟩])
        ((l.step fallback turn).2 id) := by
      intro id
      by_cases hid : turn.id = id
      · subst hid
        rw [step_self]
        have hmem : turn ∈ turn :: turns := List.mem_cons_self ..
        exact (h turn.id).step fallback turn.act
          (fun edge hedge => hfresh turn.id (mem_creations_of_create hmem hedge))
          hfirst (horderly turn hmem)
      · rw [step_of_ne fallback l (Ne.symm hid)]
        exact (h id).of_ne hid
    have hlater : ∀ id ∈ creations turns,
        ¬IsCreated id (events ++ [⟨turn, (l.step fallback turn).1⟩]) := by
      intro id hid
      rw [isCreated_concat]
      rintro (hcreated | hcreation)
      · exact hfresh id (mem_creations_cons hid) hcreated
      · exact not_mem_creations_of_nodup hnodup hcreation hid
    have hrun := ih hstep (nodup_creations_of_cons hnodup) hlater htail
      (fun turn' hturn' => horderly turn' (List.mem_cons_of_mem _ hturn')) id
    rw [List.append_assoc] at hrun
    exact hrun

/-! ### What holds of a slot throughout -/

/-- **A run preserves what every act on a slot preserves**, of the slot and of the events so far,
as long as it does not depend on the events of other sessions. -/
theorem run_preserves {id : String} {P : List Event → Slot → Prop} {A : Act → Prop}
    (hown : ∀ events slot act, P events slot → A act →
      P (events ++ [⟨⟨id, act⟩, (act.onSlot fallback id slot).1⟩]) (act.onSlot fallback id slot).2)
    (hother : ∀ events slot event, P events slot → event.turn.id ≠ id →
      P (events ++ [event]) slot)
    (turns : List Turn) : ∀ (events : List Event) {l : Ledger}, P events (l id) →
      (∀ turn ∈ turns, turn.id = id → A turn.act) →
      P (events ++ (l.run fallback turns).1) ((l.run fallback turns).2 id) := by
  induction turns with
  | nil =>
    intro events l h _
    rw [show (l.run fallback []).1 = [] from rfl, List.append_nil]
    exact h
  | cons turn turns ih =>
    intro events l h hacts
    have hturn : P (events ++ [⟨turn, (l.step fallback turn).1⟩])
        ((l.step fallback turn).2 id) := by
      by_cases hid : turn.id = id
      · have hact := hacts turn (List.mem_cons_self ..) hid
        subst hid
        rw [step_self]
        exact hown events (l turn.id) turn.act h hact
      · rw [step_of_ne fallback l (Ne.symm hid)]
        exact hother events (l id) _ h hid
    have hrun := ih _ hturn fun turn' hturn' => hacts turn' (List.mem_cons_of_mem _ hturn')
    rw [List.append_assoc] at hrun
    exact hrun

/-- An act on an empty slot leaves it empty, and closes nothing. -/
theorem onSlot_empty {act : Act} (hact : ∀ edge, act ≠ .create edge)
    (fallback : SerialNumberDefaults) (id : String) :
    (act.onSlot fallback id {}).2 = {} ∧ closes (act.onSlot fallback id {}).1 = false := by
  cases act with
  | create edge => exact absurd rfl (hact edge)
  | operate o => exact ⟨rfl, rfl⟩
  | submit counts towers => exact ⟨rfl, rfl⟩
  | conclude answer => exact ⟨rfl, rfl⟩

/-- **Nothing comes from nothing**: where nothing is on record and no session is created, there
is nothing on record afterwards, and no session has been closed. -/
theorem run_empty {id : String} {turns : List Turn} (h : l id = {}) (hid : id ∉ creations turns) :
    (l.run fallback turns).2 id = {} ∧
      ∀ event ∈ (l.run fallback turns).1, event.turn.id = id → closes event.outcome = false := by
  refine run_preserves (A := fun act => ∀ edge, act ≠ .create edge)
    (P := fun events slot =>
      slot = {} ∧ ∀ event ∈ events, event.turn.id = id → closes event.outcome = false)
    ?_ ?_ turns [] ⟨h, by rintro event ⟨⟩⟩ (ne_create_of_not_mem hid)
  · rintro events _ act ⟨rfl, hevents⟩ hact
    obtain ⟨hslot, hopen⟩ := onSlot_empty hact fallback id
    exact ⟨hslot, List.forall_mem_append.mpr ⟨hevents, by simpa using hopen⟩⟩
  · rintro events slot event ⟨hslot, hevents⟩ hne
    exact ⟨hslot, List.forall_mem_append.mpr ⟨hevents, by simp [hne]⟩⟩

/-- What is on record has been created. -/
theorem mem_creations_of_ne {id : String} {turns : List Turn}
    (h : (empty.run fallback turns).2 id ≠ {}) : id ∈ creations turns := by
  rw [← Decidable.not_not (p := id ∈ creations turns)]
  exact fun hid => h (run_empty rfl hid).1

end Ledger

/-! ### The system -/

/-- **The session has the system**, on record and in hand. -/
structure Slot.StaysWith (system : StorageSystem) (slot : Slot) : Prop where
  session : ∀ s ∈ slot.session, s.system = system
  waiting : ∀ p ∈ slot.waiting, p.session.system = system

theorem Effect.system {s : Session} {outcome : Outcome} {record : Option Session}
    (h : Effect s (outcome, record)) (hsystem : s.system.isGeneral = false) :
    ∀ s' ∈ record, s'.system = s.system := by
  cases h with
  | refused e =>
    rintro _ ⟨⟩
    rfl
  | kept _ _ hkept =>
    rintro _ ⟨⟩
    exact hkept hsystem
  | closed _ => rintro _ ⟨⟩

/-- **A system that has been chosen stays**, whatever is done. -/
theorem Slot.StaysWith.onSlot {system : StorageSystem} {slot : Slot} (h : slot.StaysWith system)
    (hsystem : system.isGeneral = false) {act : Act} (hact : ∀ edge, act ≠ .create edge)
    (fallback : SerialNumberDefaults) (id : String) :
    (act.onSlot fallback id slot).2.StaysWith system := by
  obtain ⟨session, waiting⟩ := slot
  cases act with
  | create edge => exact absurd rfl (hact edge)
  | operate o =>
    refine ⟨?_, h.waiting⟩
    rcases session with _ | s
    · exact h.session
    · obtain rfl := h.session s rfl
      exact (o.effect s).system hsystem
  | submit counts towers =>
    rcases waiting with _ | p
    · rcases session with _ | s
      · exact h
      · rcases hp : s.submission id fallback counts towers with e | p
        · simp only [Act.onSlot, hp]
          exact h
        · simp only [Act.onSlot, hp]
          -- A submission takes over the session but for its serial numbers.
          obtain ⟨-, edge, numbers, -, -, hp⟩ := Session.submission_eq_ok hp
          have hkept : p.session.system = system := by
            rw [hp]
            exact h.session s rfl
          constructor
          · rintro _ ⟨⟩
            exact hkept
          · rintro _ ⟨⟩
            exact hkept
    · exact h
  | conclude answer =>
    rcases waiting with _ | p
    · exact h
    · obtain rfl := h.waiting p rfl
      rcases hconcluded : p.concluded answer with e | ⟨result, record⟩
      · simp only [Act.onSlot, hconcluded]
        exact ⟨h.session, by rintro q ⟨⟩⟩
      · simp only [Act.onSlot, hconcluded]
        exact ⟨(Submission.effect hconcluded).system hsystem, by rintro q ⟨⟩⟩

/-- **A system that has been chosen stays** through a run. -/
theorem Ledger.run_staysWith {fallback : SerialNumberDefaults} {l : Ledger}
    {system : StorageSystem} (hsystem : system.isGeneral = false) {id : String}
    {turns : List Turn} (h : (l id).StaysWith system) (hid : id ∉ creations turns) :
    ((l.run fallback turns).2 id).StaysWith system := by
  refine run_preserves (A := fun act => ∀ edge, act ≠ .create edge)
    (P := fun _ slot => slot.StaysWith system) ?_ (fun _ _ _ hslot _ => hslot) turns [] h
    (ne_create_of_not_mem hid)
  intro _ slot act hslot hact
  exact hslot.onSlot hsystem hact fallback id

end Commissioning
