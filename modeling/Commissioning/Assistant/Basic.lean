import Commissioning.Gateway.Basic
import Commissioning.Live.Feed
import Commissioning.SerialNumber.Collect
import Commissioning.Session.Navigator

/-!
# The assistant

The assistant (`Commissioning.Assistant`) keeps all sessions in one store, knows which of
them are being submitted, and counts what has been submitted and finished. An operation
on it (`Commissioning.AssistantM`) loads a session by its identifier, does its work, and
writes the session back; what it has written before it fails stays written.
-/

namespace Commissioning

/-- The assistant. -/
structure Assistant where
  /-- Its settings. -/
  settings : Settings
  /-- Where it keeps sessions. -/
  store : SessionStore
  /-- Where it archives protocols. -/
  gateway : Gateway
  /-- Where it asks devices, if it can. -/
  feed : Option Feed := none
  /-- The sessions that are being submitted. -/
  busy : List String := []
  /-- How many submissions have succeeded. -/
  submittedCount : Nat := 0
  /-- How many submissions have failed. -/
  failedCount : Nat := 0
  /-- How many sessions have been finished. -/
  finishedCount : Nat := 0
deriving Inhabited

/-- Why the wizard is in the wrong place for an operation. -/
inductive Mismatch where
  /-- The serial numbers are not what is asked for now. -/
  | notSerialNumbers
  /-- There is no device. -/
  | noDevice
  /-- There is no system. -/
  | noSystem
deriving DecidableEq, Repr

/-- The wording of a mismatch. -/
def Mismatch.message : Mismatch → String
  | .notSerialNumbers => "serial numbers can only be submitted on the serial number view"
  | .noDevice => "no device is bound to this installation session"
  | .noSystem => "no installation system selected"

/-- Why an operation of the assistant fails. -/
inductive AssistantError where
  /-- There is no session of the identifier. -/
  | sessionNotFound (id : String)
  /-- There is no system of the identifier that could be chosen. -/
  | unknownSystem (id : String)
  /-- The session has another system already. -/
  | alreadySelected (system : StorageSystem)
  /-- The wizard is in the wrong place. -/
  | mismatch (why : Mismatch)
  /-- The session is being submitted. -/
  | submissionRunning
  /-- A patch has too many levels. -/
  | patchTooDeep
  /-- There are complaints about fields. -/
  | invalidFields (complaints : Complaints)
  /-- The data would not be in order any more: the issues of a document. -/
  | invalidData (issues : List Issue) (document : Json)
  /-- A move of the wizard fails. -/
  | navigation (why : NavigationError)
  /-- There is no view where the wizard stands. -/
  | noView (why : ViewError)
  /-- The entries of the session are refused. -/
  | unreadable (why : LoadError)
  /-- A number cannot be written. -/
  | unwritable (why : NumberError)
  /-- The counts cannot be read. -/
  | counts (why : CountError)
  /-- The gateway fails in no orderly way. -/
  | gateway (why : GatewayError)
  /-- The live feed fails. -/
  | feed (why : FeedError)

/-- The wording of an error. -/
def AssistantError.message : AssistantError → String
  | .sessionNotFound id => s!"installation session {id} not found"
  | .unknownSystem id => s!"unknown installation system {id}"
  | .alreadySelected system =>
    s!"installation system {system.id} is already selected for this session"
  | .mismatch why => why.message
  | .submissionRunning => "a setup protocol submission is already running"
  | .patchTooDeep => "maximum recursion depth exceeded"
  | .invalidFields complaints => s!"{complaints.length} field(s) invalid"
  | .invalidData .. => ""
  | .navigation why => why.message
  | .noView why => why.message
  | .unreadable why => why.message
  | .unwritable why => why.message
  | .counts why => why.message
  | .gateway why => why.message
  | .feed why => why.message

/-- An operation of the assistant; what has been done before an error stays done. -/
abbrev AssistantM := EStateM AssistantError Assistant

namespace Assistant

/-- A result that does not depend on the state. -/
def ofExcept {ε α : Type} (wrap : ε → AssistantError) : Except ε α → AssistantM α
  | .ok a => pure a
  | .error e => throw (wrap e)

/-- The session of an identifier. -/
def load (id : String) : AssistantM Session := do
  let store := (← get).store
  if store.has id then ofExcept .unreadable (Session.load (store.entries id))
  else throw (.sessionNotFound id)

/-- Writes a session back. -/
def save (id : String) (session : Session) : AssistantM Unit := fun a =>
  match session.save id a.store with
  | .ok () store => .ok () { a with store }
  | .error e store => .error (.unwritable e) { a with store }

/-- Makes a move of the wizard with a session in hand. -/
def navigate (id : String) (session : Session) (move : Navigator.Move) :
    AssistantM (NavigationResult × Session) := fun a =>
  match move { session, id, store := a.store } with
  | .ok result n =>
    .ok (result, n.session)
      { a with store := n.store, finishedCount := a.finishedCount + n.handOffs.length }
  | .error e n =>
    .error (.navigation e)
      { a with store := n.store, finishedCount := a.finishedCount + n.handOffs.length }

/-- Whether a session is being submitted. -/
def isSubmitting (a : Assistant) (id : String) : Bool := a.busy.contains id

/-- The assistant with a session marked as being submitted. -/
def mark (a : Assistant) (id : String) : Assistant :=
  { a with busy := if a.busy.contains id then a.busy else a.busy ++ [id] }

/-- The assistant with a session not marked any more. -/
def unmark (a : Assistant) (id : String) : Assistant :=
  { a with busy := a.busy.filter (· != id) }

/-- What is reported about the assistant. -/
def status (a : Assistant) : Members :=
  [("session_store", .str a.store.label), ("submissions_running", .int a.busy.length),
   ("submitted_count", .int a.submittedCount), ("failed_submissions_count", .int a.failedCount),
   ("finished_count", .int a.finishedCount)]

end Assistant

end Commissioning
