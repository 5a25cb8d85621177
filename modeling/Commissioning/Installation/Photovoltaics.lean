import Commissioning.Installation.Choice

/-!
# Photovoltaics

The strings of modules that the inverter itself converts (`Commissioning.DcString`), of
which a fresh installation has two, and the producers that feed in on the AC side and
have a meter of their own (`Commissioning.AcProducer`), of which it has none. The peak
power is a double, so the readers are told where the document comes from.
-/

namespace Commissioning

/-- A string of modules on the DC side. -/
structure DcString where
  /-- Whether the string exists. -/
  isSelected : Bool := false
  /-- The name of the string. -/
  name : String := ""
  /-- Its peak power. -/
  value : Option Binary64 := none
  /-- The direction it faces. -/
  orientation : String := ""
  /-- The type of its modules. -/
  moduleType : String := ""
  /-- How many modules it has. -/
  modulesPerString : Option Int := none
deriving DecidableEq, Inhabited

namespace DcString

/-- Reads a string off the members of an object. -/
def ofMembers (channel : Channel) (ms : Members) : Checked DcString :=
  DcString.mk <$> Intake.member "is_selected" Intake.flag false ms
    <*> Intake.member "alias" Intake.text "" ms
    <*> Intake.member "value" (Intake.optional (Intake.float channel)) none ms
    <*> Intake.member "orientation" Intake.text "" ms
    <*> Intake.member "module_type" Intake.text "" ms
    <*> Intake.member "modules_per_string" (Intake.optional Intake.integer) none ms

/-- Reads a string. -/
def intake (channel : Channel) : Intake DcString := Intake.record "DcPv" (ofMembers channel)

/-- A string as a document. -/
def toJson (s : DcString) : Json :=
  .obj [("is_selected", .bool s.isSelected), ("alias", .str s.name),
    ("value", Json.ofOptionFloat s.value), ("orientation", .str s.orientation),
    ("module_type", .str s.moduleType),
    ("modules_per_string", Json.ofOptionInt s.modulesPerString)]

end DcString

/-- A producer on the AC side. -/
structure AcProducer where
  /-- The name of the producer. -/
  name : String := ""
  /-- Its peak power. -/
  value : Option Binary64 := none
  /-- The direction it faces. -/
  orientation : String := ""
  /-- The type of its modules. -/
  moduleType : String := ""
  /-- How many modules it has. -/
  modulesPerString : Option Int := none
  /-- The meter that counts its production. -/
  meterType : Meter := .socomec
  /-- The address of the meter on the bus. -/
  modbusAddress : Option Int := none
deriving DecidableEq, Inhabited

namespace AcProducer

/-- Reads a producer off the members of an object. -/
def ofMembers (channel : Channel) (ms : Members) : Checked AcProducer :=
  AcProducer.mk <$> Intake.member "alias" Intake.text "" ms
    <*> Intake.member "value" (Intake.optional (Intake.float channel)) none ms
    <*> Intake.member "orientation" Intake.text "" ms
    <*> Intake.member "module_type" Intake.text "" ms
    <*> Intake.member "modules_per_string" (Intake.optional Intake.integer) none ms
    <*> Intake.member "meter_type" Meter.intake .socomec ms
    <*> Intake.member "modbus_communication_address" (Intake.optional Intake.integer) none ms

/-- Reads a producer. -/
def intake (channel : Channel) : Intake AcProducer := Intake.record "AcPv" (ofMembers channel)

/-- A producer as a document. -/
def toJson (p : AcProducer) : Json :=
  .obj [("alias", .str p.name), ("value", Json.ofOptionFloat p.value),
    ("orientation", .str p.orientation), ("module_type", .str p.moduleType),
    ("modules_per_string", Json.ofOptionInt p.modulesPerString),
    ("meter_type", p.meterType.toJson),
    ("modbus_communication_address", Json.ofOptionInt p.modbusAddress)]

end AcProducer

/-- The photovoltaic part of an installation. -/
structure Photovoltaics where
  /-- The strings on the DC side. -/
  dc : List DcString := [{}, {}]
  /-- The producers on the AC side. -/
  ac : List AcProducer := []
deriving DecidableEq, Inhabited

namespace Photovoltaics

/-- Reads the photovoltaic part off the members of an object. -/
def ofMembers (channel : Channel) (ms : Members) : Checked Photovoltaics :=
  Photovoltaics.mk <$> Intake.member "dc" (Intake.list (DcString.intake channel)) [{}, {}] ms
    <*> Intake.member "ac" (Intake.list (AcProducer.intake channel)) [] ms

/-- Reads the photovoltaic part. -/
def intake (channel : Channel) : Intake Photovoltaics := Intake.record "Pv" (ofMembers channel)

/-- The photovoltaic part as a document. -/
def toJson (p : Photovoltaics) : Json :=
  .obj [("dc", .arr (p.dc.map DcString.toJson)), ("ac", .arr (p.ac.map AcProducer.toJson))]

end Photovoltaics

end Commissioning
