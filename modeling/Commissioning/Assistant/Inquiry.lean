import Commissioning.Assistant.Basic
import Commissioning.Live.Defaults
import Commissioning.Protocol.Assembly
import Commissioning.StorageSystem.Payload

/-!
# Inquiries about a session

What can be asked about a session without changing it: the session itself, the form for
its serial numbers, a preview of its setup protocol, the settings of the app, and the
cell metrics of its device. Two of them ask the device, which changes the live feed for
as long as it takes.
-/

namespace Commissioning

namespace Installation

/-- The serial number of the inverter, if it is known. -/
def inverterSerial? (d : Installation) : Option String :=
  (d.battery.serialNumbers.tower1.find? fun n =>
    n.label == inverterLabel && n.value.any (· != "")).bind SerialNumber.value

end Installation

namespace SerialNumberDefaults

/-- The proposed counts with a serial number of the inverter, if there was none. -/
def orInverter (d : SerialNumberDefaults) (inverter : Option String) : SerialNumberDefaults :=
  match d.inverter with
  | some _ => d
  | none => { d with inverter }

end SerialNumberDefaults

namespace Session

/-- **The form for the serial numbers of a session**, given proposed counts. What the
device does not know, the session may. -/
def form (s : Session) (proposed : SerialNumberDefaults) : SerialNumberSchema :=
  s.system.serialNumberSchema (proposed.orInverter s.data.inverterSerial?)

end Session

namespace Assistant

/-- **The session of an identifier.** -/
def session (id : String) : AssistantM Session := load id

/-- Puts a question to a device. -/
def ask (broker : Broker) (q : LiveQuestion) (edgeId : Option String) : AssistantM LiveAnswer :=
  fun a =>
    match a.feed with
    | none => .ok .unavailable a
    | some feed => match q.ask (some (Feed.await broker [])) edgeId feed with
      | .ok answer feed => .ok answer { a with feed := some feed }
      | .error e feed => .error (.feed e) { a with feed := some feed }

/-- The counts to propose: those of the request if it has both. -/
def proposedCounts (broker : Broker) (s : Session) (towers modules : Option Int) :
    AssistantM SerialNumberDefaults := do
  match towers, modules with
  | some towers, some modules => return { towers, modules, source := .input }
  | _, _ =>
    let answer ← ask broker .counts s.edgeId?
    ofExcept .unwritable (answer.toDefaults (← get).settings)

/-- **The form for the serial numbers of a session.** -/
def serialNumberForm (broker : Broker) (id : String) (towers modules : Option Int) :
    AssistantM SerialNumberSchema := do
  let s ← load id
  return s.form (← proposedCounts broker s towers modules)

/-- **A preview of the setup protocol of a session.** -/
def previewProtocol (id : String) : AssistantM SetupProtocol := do
  let s ← load id
  ofExcept .unwritable (s.data.protocol (s.edgeId?.getD ""))

/-- **The settings of the app for a session**; the way of feeding in is that of the data
unless another is given. -/
def appPayload (id : String) (country : SafetyCountry) (setting : Option FeedInSetting) :
    AssistantM AppPayload := do
  let s ← load id
  if s.system.isGeneral then throw (.mismatch .noSystem)
  else
    return s.system.payload s.data country
      (setting.getD s.data.batteryInverter.feedInLimitation.feedInSetting)

/-- **The cell metrics of the device of a session.** -/
def cellMetrics (broker : Broker) (id : String) : AssistantM CellMetrics := do
  let s ← load id
  return (← ask broker .cells s.edgeId?).toMetrics

end Assistant

end Commissioning
