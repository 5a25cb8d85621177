import Commissioning.Installation.Battery
import Commissioning.Installation.Contact
import Commissioning.Installation.Grid
import Commissioning.Installation.Photovoltaics

/-!
# The installation

Everything that the wizard collects about one installation
(`Commissioning.Installation`). Every member may be missing from a document: a missing
one has the value of a fresh installation.
-/

namespace Commissioning

/-- The collected data of an installation. -/
structure Installation where
  /-- Who it is for. -/
  customer : Customer := {}
  /-- Where it stands. -/
  location : Location := {}
  /-- Its photovoltaic part. -/
  pv : Photovoltaics := {}
  /-- Its battery. -/
  battery : Battery := {}
  /-- The inverter of its battery. -/
  batteryInverter : BatteryInverter := {}
  /-- The fuse between its meter and the grid. -/
  lineSideMeterFuse : LineSideMeterFuse := {}
  /-- The identifier of its archived setup protocol. -/
  setupProtocolId : Option String := none
deriving DecidableEq, Inhabited

namespace Installation

/-- Reads an installation off the members of an object. -/
def ofMembers (channel : Channel) (ms : Members) : Checked Installation :=
  Installation.mk <$> Intake.member "customer" Customer.intake {} ms
    <*> Intake.member "location" Location.intake {} ms
    <*> Intake.member "pv" (Photovoltaics.intake channel) {} ms
    <*> Intake.member "battery" Battery.intake {} ms
    <*> Intake.member "battery_inverter" BatteryInverter.intake {} ms
    <*> Intake.member "line_side_meter_fuse" LineSideMeterFuse.intake {} ms
    <*> Intake.member "setup_protocol_id" (Intake.optional Intake.text) none ms

/-- Reads an installation. -/
def intake (channel : Channel) : Intake Installation :=
  Intake.record "InstallationData" (ofMembers channel)

/-- The members of an installation as a document. -/
def members (d : Installation) : Members :=
  [("customer", d.customer.toJson), ("location", d.location.toJson), ("pv", d.pv.toJson),
   ("battery", d.battery.toJson), ("battery_inverter", d.batteryInverter.toJson),
   ("line_side_meter_fuse", d.lineSideMeterFuse.toJson),
   ("setup_protocol_id", Json.ofOptionStr d.setupProtocolId)]

/-- An installation as a document. -/
def toJson (d : Installation) : Json := .obj d.members

end Installation

end Commissioning
