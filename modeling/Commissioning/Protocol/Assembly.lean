import Commissioning.Installation.Basic
import Commissioning.Number.Conversion
import Commissioning.Protocol.Basic
import Commissioning.SerialNumber.Collect

/-!
# Assembling the setup protocol

`Commissioning.Installation.protocol` makes the setup protocol of an installation and a
device. The items come in a fixed order of headings: the reserve, the fuse, the strings
that are selected, the limitation of feeding in, the producers, the device. A string or a
producer is named by its place, counted from one, so that unselected strings leave gaps
in the numbering.

A number is written as `Commissioning.Json.amountText` says: an absent one is empty, and
a whole one has no fraction. This fails only on a whole number with too many digits.
-/

namespace Commissioning

namespace Json

/-- A number as the text of an item. -/
def amountText : Json → Except NumberError String
  | .null => .ok ""
  | .bool b => .ok (if b then "true" else "false")
  | .float x => (Number.ofBinary64 x).text
  | j => j.display

end Json

namespace Contact

/-- The contact fields in a protocol. -/
def toProtocol (c : Contact) (company : Option ProtocolCompany) : ProtocolContact :=
  { firstName := c.firstName, lastName := c.lastName, email := c.email, phone := c.phone,
    address := ⟨c.street, c.city, c.zip, c.country⟩, company }

end Contact

namespace Customer

/-- The customer in a protocol; the company only if the customer is one. -/
def toProtocol (c : Customer) : ProtocolContact :=
  c.contact.toProtocol (if c.isCorporateClient then some ⟨c.companyName⟩ else none)

end Customer

namespace Location

/-- The location in a protocol, unless it is where the customer is. -/
def toProtocol? (l : Location) : Option ProtocolContact :=
  if l.isEqualToCustomerData then none else some (l.contact.toProtocol (some ⟨l.companyName⟩))

end Location

/-! ### Items -/

namespace EmergencyReserve

/-- The heading of the reserve. -/
def category : String := "Angaben zu Notstrom"

/-- The items of the reserve. -/
def items (r : EmergencyReserve) : Except NumberError (List ProtocolItem) := do
  if r.isEnabled then
    let value ← Json.amountText (.int r.value)
    return [⟨category, "Notstrom?", "ja"⟩, ⟨category, "Notstromreserve [%]", value⟩]
  else return [⟨category, "Notstrom?", "nein"⟩]

end EmergencyReserve

namespace LineSideMeterFuse

/-- The item of the fuse. -/
def items (f : LineSideMeterFuse) : Except NumberError (List ProtocolItem) := do
  let value ← Json.amountText (Json.ofOptionInt f.rating?)
  return [⟨"Zählervorsicherung", "Wert [A]", value⟩]

end LineSideMeterFuse

namespace DcString

/-- The heading of the strings. -/
def category : String := "DC-PV-Installation"

/-- The items of the string at a place; none if it is not selected. -/
def items (s : DcString) (number : Nat) : Except NumberError (List ProtocolItem) := do
  if s.isSelected then
    let value ← Json.amountText (Json.ofOptionFloat s.value)
    let modules ← Json.amountText (Json.ofOptionInt s.modulesPerString)
    return [⟨category, s!"Alias MPPT{number}", s.name⟩,
      ⟨category, s!"Wert MPPT{number} [Wp]", value⟩,
      ⟨category, s!"Ausrichtung MPPT{number}", s.orientation⟩,
      ⟨category, s!"Modultyp MPPT{number}", s.moduleType⟩,
      ⟨category, s!"Modulanzahl MPPT{number}", modules⟩]
  else return []

end DcString

namespace FeedInLimitation

/-- The heading of feeding in. -/
def category : String := "Dynamische Begrenzung der Einspeisung"

/-- The items of feeding in; the power factor only if it is fixed. -/
def items (l : FeedInLimitation) : Except NumberError (List ProtocolItem) := do
  let power ← Json.amountText (Json.ofOptionInt l.maximumFeedInPower)
  return [⟨category, "Maximale Einspeiseleistung [W]", power⟩,
      ⟨category, "Typ", l.feedInSetting.name⟩] ++
    if l.feedInSetting = .fixedPowerFactor then
      [⟨category, "Cos φ Festwert", l.fixedPowerFactor.getD ""⟩]
    else []

end FeedInLimitation

namespace AcProducer

/-- The heading of the producers. -/
def category : String := "Zusätzliche AC-Erzeuger"

/-- The items of the producer at a place. -/
def items (p : AcProducer) (number : Nat) : Except NumberError (List ProtocolItem) := do
  let value ← Json.amountText (Json.ofOptionFloat p.value)
  let modules ← Json.amountText (Json.ofOptionInt p.modulesPerString)
  let address ← Json.amountText (Json.ofOptionInt p.modbusAddress)
  return [⟨category, s!"Alias AC{number}", p.name⟩,
    ⟨category, s!"Wert AC{number} [Wp]", value⟩,
    ⟨category, s!"Ausrichtung AC{number}", p.orientation⟩,
    ⟨category, s!"Modultyp AC{number}", p.moduleType⟩,
    ⟨category, s!"Modulanzahl AC{number}", modules⟩,
    ⟨category, s!"Zählertyp AC{number}", p.meterType.label⟩,
    ⟨category, s!"Modbus Kommunikationsadresse AC{number}", address⟩]

end AcProducer

/-- The items of the members of a list, each by its place, the first of which has the
given number. -/
def itemsFrom {α : Type} (items : α → Nat → Except NumberError (List ProtocolItem)) :
    Nat → List α → Except NumberError (List ProtocolItem)
  | _, [] => return []
  | number, a :: rest => do
    let these ← items a number
    let others ← itemsFrom items (number + 1) rest
    return these ++ others

/-! ### Lots -/

namespace Tower

/-- The heading of the lots of a tower. -/
def lotCategory : Tower → String
  | first => "Speichersystemkomponenten"
  | second => "Batterieturm 2"
  | third => "Batterieturm 3"

end Tower

namespace SerialNumber

/-- The lot of a serial number; none if the number is not known. -/
def lot? (s : SerialNumber) (t : Tower) : Option ProtocolLot :=
  match s.value with
  | some value =>
    if value == "" then none else some ⟨t.lotCategory, s!"{s.label} Seriennummer", value⟩
  | none => none

end SerialNumber

namespace SerialNumbers

/-- **The lots of the serial numbers**, tower by tower. -/
def lots (s : SerialNumbers) : List ProtocolLot :=
  Tower.all.flatMap fun t => (s.ofTower t).filterMap (·.lot? t)

end SerialNumbers

/-! ### The protocol -/

namespace Installation

/-- The items of an installation on a device. -/
def items (d : Installation) (edgeId : String) : Except NumberError (List ProtocolItem) := do
  let reserve ← d.battery.emergencyReserve.items
  let fuse ← d.lineSideMeterFuse.items
  let strings ← itemsFrom DcString.items 1 d.pv.dc
  let feedIn ← d.batteryInverter.feedInLimitation.items
  let producers ← itemsFrom AcProducer.items 1 d.pv.ac
  return reserve ++ fuse ++ strings ++ feedIn ++ producers ++ [⟨"FEMS", "FEMS Nummer", edgeId⟩]

/-- **The setup protocol of an installation** on a device. -/
def protocol (d : Installation) (edgeId : String) : Except NumberError SetupProtocol := do
  let items ← d.items edgeId
  return { edgeId, customer := d.customer.toProtocol, location := d.location.toProtocol?, items,
           lots := d.battery.serialNumbers.lots }

end Installation

end Commissioning
