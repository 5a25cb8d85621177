import Commissioning.Intake.Basic
import Commissioning.Protocol.Basic

/-!
# Reading setup protocols

A setup protocol can be read back from a document. The serial number of a lot goes by two
names: that under which it is transmitted, and that under which it is kept. The first
one counts where both are there (`Commissioning.Intake.requiredAs`).
-/

namespace Commissioning

namespace Intake

/-- A member of a record that must be there under one of two names, the first of which
counts before the second. -/
def requiredAs {α : Type} (name other : String) (read : Intake α) (ms : Members) : Checked α :=
  if ms.has name || !ms.has other then required name read ms else required other read ms

end Intake

namespace ProtocolAddress

/-- Reads an address. -/
def intake : Intake ProtocolAddress :=
  Intake.record "ProtocolAddress" fun ms =>
    ProtocolAddress.mk <$> Intake.required "street" Intake.text ms
      <*> Intake.required "city" Intake.text ms
      <*> Intake.required "zip" Intake.text ms
      <*> Intake.required "country" Intake.text ms

end ProtocolAddress

namespace ProtocolCompany

/-- Reads a company. -/
def intake : Intake ProtocolCompany :=
  Intake.record "ProtocolCompany" fun ms =>
    ProtocolCompany.mk <$> Intake.member "name" (Intake.optional Intake.text) none ms

end ProtocolCompany

namespace ProtocolContact

/-- Reads a contact. -/
def intake : Intake ProtocolContact :=
  Intake.record "ProtocolContact" fun ms =>
    ProtocolContact.mk <$> Intake.required "firstname" Intake.text ms
      <*> Intake.required "lastname" Intake.text ms
      <*> Intake.required "email" Intake.text ms
      <*> Intake.required "phone" Intake.text ms
      <*> Intake.required "address" ProtocolAddress.intake ms
      <*> Intake.member "company" (Intake.optional ProtocolCompany.intake) none ms

end ProtocolContact

namespace ProtocolItem

/-- Reads an item. -/
def intake : Intake ProtocolItem :=
  Intake.record "ProtocolItem" fun ms =>
    ProtocolItem.mk <$> Intake.required "category" Intake.text ms
      <*> Intake.required "name" Intake.text ms
      <*> Intake.required "value" Intake.text ms

end ProtocolItem

namespace ProtocolLot

/-- Reads a lot. -/
def intake : Intake ProtocolLot :=
  Intake.record "ProtocolLot" fun ms =>
    ProtocolLot.mk <$> Intake.required "category" Intake.text ms
      <*> Intake.required "name" Intake.text ms
      <*> Intake.requiredAs "serialNumber" "serial_number" Intake.text ms

end ProtocolLot

namespace SetupProtocol

/-- Reads the reference to a device. -/
def deviceIntake : Intake String :=
  Intake.record "ProtocolFems" fun ms => Intake.required "id" Intake.text ms

/-- **Reads a setup protocol.** -/
def intake : Intake SetupProtocol :=
  Intake.record "SetupProtocol" fun ms =>
    SetupProtocol.mk <$> Intake.required "fems" deviceIntake ms
      <*> Intake.required "customer" ProtocolContact.intake ms
      <*> Intake.member "location" (Intake.optional ProtocolContact.intake) none ms
      <*> Intake.member "items" (Intake.list ProtocolItem.intake) [] ms
      <*> Intake.member "lots" (Intake.list ProtocolLot.intake) [] ms

end SetupProtocol

end Commissioning
