import Commissioning.Assistant.Basic
import Commissioning.Live.Defaults
import Commissioning.Protocol.Assembly
import Commissioning.SerialNumber.Collect

/-!
# Submitting serial numbers

A submission has two halves. `Commissioning.Assistant.beginSubmission` checks the form,
keeps the serial numbers and leaves a setup protocol to be archived; while the gateway is
called, other operations go on. `Commissioning.Assistant.endSubmission` takes what the
gateway has answered and moves the wizard on, with the session that the first half had
in hand. The wizard moves on also when the gateway fails in an orderly way.

From the one to the other the session is marked, and a second submission of it is
refused; when either half fails, the mark goes.
-/

namespace Commissioning

/-- A submission for which the gateway is being called. -/
structure Submission where
  /-- The identifier of the session. -/
  id : String
  /-- The session, with its serial numbers. -/
  session : Session
  /-- The setup protocol. -/
  protocol : SetupProtocol
deriving Inhabited

/-- What comes of a submission. -/
structure SubmissionResult where
  /-- The identifier of the archived protocol, if it was archived. -/
  protocolId : Option String
  /-- The move of the wizard. -/
  navigation : NavigationResult
  /-- The session afterwards. -/
  session : Session
deriving Inhabited

namespace SubmissionResult

/-- Whether the protocol was archived. -/
def succeeded (r : SubmissionResult) : Bool := r.protocolId.isSome

/-- The level of the message to the user. -/
def level (r : SubmissionResult) : String := if r.succeeded then "success" else "danger"

/-- The message to the user. -/
def message (r : SubmissionResult) : String :=
  if r.succeeded then "Das Protokoll wurde erfolgreich versendet."
  else "Fehler beim Versenden des Protokolls."

end SubmissionResult

namespace Session

/-- The session with its serial numbers. -/
def withSerialNumbers (s : Session) (numbers : SerialNumbers) : Session :=
  { s with data := { s.data with battery := { s.data.battery with serialNumbers := numbers } } }

/-- The session with the identifier of its archived protocol. -/
def withProtocolId (s : Session) (id : String) : Session :=
  { s with data := { s.data with setupProtocolId := some id } }

end Session

namespace Assistant

/-! ### The first half -/

/-- The serial numbers of a form, if nothing is wrong with it. -/
def acceptForm (system : StorageSystem) (fallback : SerialNumberDefaults) (counts : Members)
    (towers : TowerValues) : Except AssistantError SerialNumbers := do
  let fields := system.countFields fallback.towers fallback.modules
  match ← (checkSettings fields counts).mapError .unwritable with
  | [] =>
    let (towerCount, moduleCount) ← (settingsCounts counts).mapError .counts
    let schema := system.serialNumberSchema
      { towers := towerCount, modules := moduleCount, source := .input }
    match ← (schema.collect towers).mapError .unwritable with
    | (numbers, []) => return numbers
    | (_, complaints) => throw (.invalidFields complaints)
  | complaints => throw (.invalidFields complaints)

/-- Checks the form, keeps the serial numbers, and assembles the protocol. -/
def prepare (id : String) (counts : Members) (towers : TowerValues) : AssistantM Submission := do
  let session ← load id
  let view ← ofExcept .noView session.currentView
  if view ≠ some .protocolSerialNumbers then throw (.mismatch .notSerialNumbers)
  else match session.edge with
    | none => throw (.mismatch .noDevice)
    | some edge =>
      let fallback := (← get).settings.fallbackDefaults
      let numbers ← ofExcept (fun e => e) (acceptForm session.system fallback counts towers)
      let session := session.withSerialNumbers numbers
      save id session
      let protocol ← ofExcept .unwritable (session.data.protocol edge.id)
      return { id, session, protocol }

/-- **Begins a submission.** -/
def beginSubmission (id : String) (counts : Members) (towers : TowerValues) :
    AssistantM Submission := fun a =>
  if a.isSubmitting id then .error .submissionRunning a
  else match prepare id counts towers (a.mark id) with
    | .ok s a => .ok s a
    | .error e a => .error e (a.unmark id)

/-! ### The second half -/

/-- Takes the answer of the gateway into account. -/
def settleAccount (session : Session) :
    Except GatewayError String → AssistantM (Option String × Session)
  | .ok protocolId => do
    modify fun a => { a with submittedCount := a.submittedCount + 1 }
    return (some protocolId, session.withProtocolId protocolId)
  | .error (.rejected ..) => do
    modify fun a => { a with failedCount := a.failedCount + 1 }
    return (none, session)
  | .error why => throw (.gateway why)

/-- Takes the answer of the gateway into account and moves the wizard on. -/
def conclude (s : Submission) (answer : Except GatewayError String) :
    AssistantM SubmissionResult := do
  let (protocolId, session) ← settleAccount s.session answer
  let (navigation, session) ← navigate s.id session Navigator.advance
  return { protocolId, navigation, session }

/-- **Ends a submission** with the answer of the gateway. -/
def endSubmission (s : Submission) (answer : Except GatewayError String) :
    AssistantM SubmissionResult := fun a =>
  match conclude s answer a with
  | .ok r a => .ok r (a.unmark s.id)
  | .error e a => .error e (a.unmark s.id)

end Assistant

end Commissioning
