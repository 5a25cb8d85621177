import Commissioning.Intake.Basic

/-!
# The battery

What is kept in reserve for a power cut, and the serial numbers of the components, tower
by tower. There are three towers in the records, whatever the system allows.
-/

namespace Commissioning

/-- The reserve for a power cut. -/
structure EmergencyReserve where
  /-- Whether a reserve is kept. -/
  isEnabled : Bool := false
  /-- The reserve in percent of the capacity. -/
  value : Int := 20
deriving DecidableEq, Repr, Inhabited

namespace EmergencyReserve

/-- Reads a reserve off the members of an object. -/
def ofMembers (ms : Members) : Checked EmergencyReserve :=
  EmergencyReserve.mk <$> Intake.member "is_enabled" Intake.flag false ms
    <*> Intake.member "value" (Intake.integerWithin 0 100) 20 ms

/-- Reads a reserve. -/
def intake : Intake EmergencyReserve := Intake.record "EmergencyReserve" ofMembers

/-- A reserve as a document. -/
def toJson (r : EmergencyReserve) : Json :=
  .obj [("is_enabled", .bool r.isEnabled), ("value", .int r.value)]

end EmergencyReserve

/-- The serial number of a component. -/
structure SerialNumber where
  /-- The name of the component. -/
  label : String
  /-- The serial number, if it is known. -/
  value : Option String := none
deriving DecidableEq, Repr, Inhabited

namespace SerialNumber

/-- Reads a serial number off the members of an object. -/
def ofMembers (ms : Members) : Checked SerialNumber :=
  SerialNumber.mk <$> Intake.required "label" Intake.text ms
    <*> Intake.member "value" (Intake.optional Intake.text) none ms

/-- Reads a serial number. -/
def intake : Intake SerialNumber := Intake.record "SerialNumberEntry" ofMembers

/-- A serial number as a document. -/
def toJson (s : SerialNumber) : Json :=
  .obj [("label", .str s.label), ("value", Json.ofOptionStr s.value)]

end SerialNumber

/-- The serial numbers of all components. -/
structure SerialNumbers where
  /-- The components of the first tower. -/
  tower1 : List SerialNumber := []
  /-- The components of the second tower. -/
  tower2 : List SerialNumber := []
  /-- The components of the third tower. -/
  tower3 : List SerialNumber := []
deriving DecidableEq, Repr, Inhabited

namespace SerialNumbers

/-- Reads the serial numbers off the members of an object. -/
def ofMembers (ms : Members) : Checked SerialNumbers :=
  SerialNumbers.mk <$> Intake.member "tower1" (Intake.list SerialNumber.intake) [] ms
    <*> Intake.member "tower2" (Intake.list SerialNumber.intake) [] ms
    <*> Intake.member "tower3" (Intake.list SerialNumber.intake) [] ms

/-- Reads the serial numbers. -/
def intake : Intake SerialNumbers := Intake.record "SerialNumbers" ofMembers

/-- The serial numbers as a document. -/
def toJson (s : SerialNumbers) : Json :=
  .obj [("tower1", .arr (s.tower1.map SerialNumber.toJson)),
    ("tower2", .arr (s.tower2.map SerialNumber.toJson)),
    ("tower3", .arr (s.tower3.map SerialNumber.toJson))]

end SerialNumbers

/-- The battery of an installation. -/
structure Battery where
  /-- The reserve for a power cut. -/
  emergencyReserve : EmergencyReserve := {}
  /-- The serial numbers of the components. -/
  serialNumbers : SerialNumbers := {}
deriving DecidableEq, Repr, Inhabited

namespace Battery

/-- Reads a battery off the members of an object. -/
def ofMembers (ms : Members) : Checked Battery :=
  Battery.mk <$> Intake.member "emergency_reserve" EmergencyReserve.intake {} ms
    <*> Intake.member "serial_numbers" SerialNumbers.intake {} ms

/-- Reads a battery. -/
def intake : Intake Battery := Intake.record "Battery" ofMembers

/-- A battery as a document. -/
def toJson (b : Battery) : Json :=
  .obj [("emergency_reserve", b.emergencyReserve.toJson),
    ("serial_numbers", b.serialNumbers.toJson)]

end Battery

end Commissioning
