import Commissioning.Assistant.Submission
import Commissioning.Assistant.Wizard
import Commissioning.Proofs.Installation.Document
import Commissioning.Proofs.Session.Navigator

/-!
# The ledger

The assistant keeps sessions as texts. The **ledger** (`Commissioning.Ledger`) is what it would
be without them: for each identifier one record, the session itself, and beside it the
submission of the session that waits for the gateway, if there is one
(`Commissioning.Slot`). Nothing is written, read, validated or replaced by a default here; an
operation takes the record and gives it back (`Commissioning.Act.onSlot`). Of the texts there is
left that some of them cannot be made: data with a whole number of too many digits are refused,
and so is a device with a torn text (`Commissioning.Session.bound`). A session that is to be
created for such a device is on record afterwards all the same, without the device.

What is asked of the assistant is a `Commissioning.Act` on the session of an identifier: the
creation of a session, an operation on it (`Commissioning.Operation`), and the two halves of
a submission.
-/

namespace Commissioning

/-! ### What is asked, and what comes of it -/

/-- An operation on a session, besides the submission of its serial numbers. -/
inductive Operation where
  /-- What is the session? -/
  | inspect
  /-- Remove the session. -/
  | abandon
  /-- Bind a device to the session. -/
  | bindEdge (edge : Edge)
  /-- Choose the system. -/
  | selectSystem (systemId : String)
  /-- Lay a patch over the data. -/
  | updateData (patch : Members)
  /-- Leave the view for the next one. -/
  | advance
  /-- Go back to the view before. -/
  | retreat
  /-- Go to the view at an index. -/
  | jumpTo (index : Int)

/-- What is asked of the assistant about the session of an identifier. -/
inductive Act where
  /-- Create the session. -/
  | create (edge : Option Edge)
  /-- Do something with the session. -/
  | operate (operation : Operation)
  /-- Begin to submit serial numbers. -/
  | submit (counts : Members) (towers : TowerValues)
  /-- Take what the gateway has answered to the submission. -/
  | conclude (answer : Except GatewayError String)

/-- What comes of an act that is not refused. -/
inductive Reply where
  /-- The session. -/
  | session (s : Session)
  /-- The session is removed. -/
  | removed
  /-- The answer to a move, and the session afterwards. -/
  | moved (result : NavigationResult) (s : Session)
  /-- The gateway is being called. -/
  | calling (submission : Submission)
  /-- What comes of a submission. -/
  | submitted (result : SubmissionResult)
  /-- No submission was waiting for the answer. -/
  | idle
deriving Inhabited

/-- What comes of an act. -/
abbrev Outcome := Except AssistantError Reply

/-- An act on the session of an identifier. -/
structure Turn where
  /-- The identifier. -/
  id : String
  /-- The act. -/
  act : Act

/-- A turn that has been taken. -/
structure Event where
  /-- The turn. -/
  turn : Turn
  /-- What came of it. -/
  outcome : Outcome

/-- Whether an act has finished its session. -/
def finishes : Outcome → Bool
  | .ok (.moved result _) => result.finished
  | .ok (.submitted result) => result.navigation.finished
  | _ => false

/-! ### Operations on a record -/

instance (d : Installation) : Decidable d.IsWritable := inferInstanceAs (Decidable (_ = true))

namespace Session

/-- The answer to moving on, and the session on record afterwards: none past the last view. -/
def forward (s : Session) : NavigationResult × Option Session :=
  if s.viewIndex + 1 < s.viewCount then
    (Navigator.madeTo (s.viewIndex + 1), some (s.movedTo (s.viewIndex + 1)))
  else (Navigator.finishedAt s, none)

/-- The session with a device bound to it, unless a text of the device is torn. -/
def bound (s : Session) (edge : Edge) : Except AssistantError Session :=
  match edge.torn? with
  | some t => .error (.unwritable (.torn t))
  | none => .ok { s with edge := some edge }

/-- A session that has just been created. -/
def created : Option Edge → Except AssistantError Session
  | some edge => bound {} edge
  | none => .ok {}

/-- The data with a patch laid over them. -/
def patched (s : Session) (patch : Members) : Except AssistantError Installation :=
  if Assistant.patchLimit < (Json.obj patch).height then .error .patchTooDeep
  else match Installation.ofMembers .value (Json.merge s.data.members patch) with
    | .valid data =>
      if data.IsWritable then .ok data else .error (.unwritable .tooManyDigits)
    | .invalid issues =>
      .error (.invalidData issues (.obj (Json.merge s.data.members patch)))

/-- The session with the system of an identifier chosen. -/
def selected (s : Session) (system : StorageSystem) : Except AssistantError Session :=
  if s.system = system then .ok s
  else if !s.system.isGeneral then .error (.alreadySelected s.system)
  else (Assistant.withSystem s system).mapError .noView

/-- Whether the data of the view are in order. -/
def completed (s : Session) : Except AssistantError Unit := do
  let view ← s.currentView.mapError .noView
  match ← (checkStep view s.system s.data).mapError .unwritable with
  | [] => return ()
  | complaints => throw (.invalidFields complaints)

/-- The submission of the serial numbers of a session. -/
def submission (s : Session) (id : String) (fallback : SerialNumberDefaults) (counts : Members)
    (towers : TowerValues) : Except AssistantError Submission :=
  match s.currentView with
  | .error e => .error (.noView e)
  | .ok view =>
    if view ≠ some .protocolSerialNumbers then .error (.mismatch .notSerialNumbers)
    else match s.edge with
      | none => .error (.mismatch .noDevice)
      | some edge =>
        match Assistant.acceptForm s.system fallback counts towers with
        | .error e => .error e
        | .ok numbers =>
          match (s.withSerialNumbers numbers).data.protocol edge.id with
          | .error e => .error (.unwritable e)
          | .ok protocol => .ok { id, session := s.withSerialNumbers numbers, protocol }

end Session

/-- The system of an identifier that can be chosen. -/
def selectable? (systemId : String) : Option StorageSystem :=
  (StorageSystem.ofId? systemId).filter (!·.isGeneral)

namespace Operation

/-- Why an operation is refused where there is no session. -/
def absence (id : String) : Operation → AssistantError
  | .selectSystem systemId =>
    match selectable? systemId with
    | none => .unknownSystem systemId
    | some _ => .sessionNotFound id
  | _ => .sessionNotFound id

/-- What comes of a record that is replaced unless there is an error. -/
def replaced (s : Session) : Except AssistantError Session → Outcome × Option Session
  | .ok s' => (.ok (.session s'), some s')
  | .error e => (.error e, some s)

/-- **An operation on a session.** -/
def onSession (s : Session) : Operation → Outcome × Option Session
  | .inspect => (.ok (.session s), some s)
  | .abandon => (.ok .removed, none)
  | .bindEdge edge => replaced s (s.bound edge)
  | .selectSystem systemId =>
    match selectable? systemId with
    | none => (.error (.unknownSystem systemId), some s)
    | some system => replaced s (s.selected system)
  | .updateData patch => replaced s ((s.patched patch).map fun data => { s with data })
  | .advance =>
    match s.completed with
    | .error e => (.error e, some s)
    | .ok () => (.ok (.moved s.forward.1 (s.movedTo (s.viewIndex + 1))), s.forward.2)
  | .retreat =>
    if 0 < s.viewIndex then
      (.ok (.moved (Navigator.madeTo (s.viewIndex - 1)) (s.movedTo (s.viewIndex - 1))),
        some (s.movedTo (s.viewIndex - 1)))
    else (.error (.navigation (.outOfBounds (s.viewIndex - 1) s.viewCount)), some s)
  | .jumpTo index =>
    if 0 ≤ index ∧ index < s.viewCount then
      (.ok (.moved (Navigator.madeTo index) (s.movedTo index)), some (s.movedTo index))
    else match Navigator.rejectedAt s index with
      | .ok result => (.ok (.moved result s), some s)
      | .error e => (.error (.navigation e), some s)

/-- An operation on what is on record. -/
def onRecord (id : String) (o : Operation) : Option Session → Outcome × Option Session
  | none => (.error (o.absence id), none)
  | some s => o.onSession s

end Operation

/-! ### Acts on a slot -/

/-- What is on record under an identifier. -/
structure Slot where
  /-- The session. -/
  session : Option Session := none
  /-- The submission of it that waits for the gateway. -/
  waiting : Option Submission := none
deriving Inhabited

namespace Submission

/-- The identifier of the protocol and the session, once the gateway has answered. -/
def settled (p : Submission) :
    Except GatewayError String → Except AssistantError (Option String × Session)
  | .ok protocolId => .ok (some protocolId, p.session.withProtocolId protocolId)
  | .error (.rejected ..) => .ok (none, p.session)
  | .error why => .error (.gateway why)

/-- What comes of a submission with the answer of the gateway, and the session on record
afterwards; an error if the gateway fails in no orderly way. -/
def concluded (p : Submission) (answer : Except GatewayError String) :
    Except AssistantError (SubmissionResult × Option Session) :=
  (p.settled answer).map fun (protocolId, s) =>
    ({ protocolId, navigation := s.forward.1, session := s.movedTo (s.viewIndex + 1) },
      s.forward.2)

end Submission

namespace Act

/-- **An act on a slot.** -/
def onSlot (fallback : SerialNumberDefaults) (id : String) (slot : Slot) : Act → Outcome × Slot
  | .create edge =>
    ((Operation.replaced {} (Session.created edge)).1,
      { slot with session := (Operation.replaced {} (Session.created edge)).2 })
  | .operate o =>
    ((o.onRecord id slot.session).1, { slot with session := (o.onRecord id slot.session).2 })
  | .submit counts towers =>
    match slot.waiting, slot.session with
    | some _, _ => (.error .submissionRunning, slot)
    | none, none => (.error (.sessionNotFound id), slot)
    | none, some s =>
      match s.submission id fallback counts towers with
      | .error e => (.error e, slot)
      | .ok p => (.ok (.calling p), ⟨some p.session, some p⟩)
  | .conclude answer =>
    match slot.waiting with
    | none => (.ok .idle, slot)
    | some p =>
      match p.concluded answer with
      | .error e => (.error e, { slot with waiting := none })
      | .ok (result, record) => (.ok (.submitted result), ⟨record, none⟩)

end Act

/-! ### Runs -/

/-- Turns taken one after the other: what came of each, and the state at the end. -/
def taken {σ : Type} (step : σ → Turn → Outcome × σ) : σ → List Turn → List Event × σ
  | state, [] => ([], state)
  | state, turn :: turns =>
    (⟨turn, (step state turn).1⟩ :: (taken step (step state turn).2 turns).1,
      (taken step (step state turn).2 turns).2)

/-- A record for each identifier. -/
abbrev Ledger := String → Slot

namespace Ledger

/-- The ledger with nothing in it. -/
def empty : Ledger := fun _ => {}

/-- The ledger with a slot replaced. -/
def set (l : Ledger) (id : String) (slot : Slot) : Ledger :=
  fun other => if other = id then slot else l other

/-- One turn. -/
def step (fallback : SerialNumberDefaults) (l : Ledger) (turn : Turn) : Outcome × Ledger :=
  ((turn.act.onSlot fallback turn.id (l turn.id)).1,
    l.set turn.id (turn.act.onSlot fallback turn.id (l turn.id)).2)

/-- **A run of the ledger.** -/
def run (fallback : SerialNumberDefaults) : Ledger → List Turn → List Event × Ledger :=
  taken (step fallback)

@[simp] theorem set_self (l : Ledger) (id : String) (slot : Slot) : l.set id slot id = slot :=
  if_pos rfl

theorem set_of_ne (l : Ledger) {id other : String} (h : other ≠ id) (slot : Slot) :
    l.set id slot other = l other := if_neg h

theorem step_self (fallback : SerialNumberDefaults) (l : Ledger) (turn : Turn) :
    (l.step fallback turn).2 turn.id = (turn.act.onSlot fallback turn.id (l turn.id)).2 :=
  l.set_self turn.id _

theorem step_of_ne (fallback : SerialNumberDefaults) (l : Ledger) {turn : Turn} {other : String}
    (h : other ≠ turn.id) : (l.step fallback turn).2 other = l other :=
  l.set_of_ne h _

@[simp] theorem set_eq_self (l : Ledger) (id : String) : l.set id (l id) = l := by
  funext other
  by_cases hother : other = id
  · rw [hother, set_self]
  · rw [l.set_of_ne hother]

end Ledger

end Commissioning
