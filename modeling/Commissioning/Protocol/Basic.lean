import Commissioning.Json.Basic

/-!
# Setup protocols

The document that is archived when an installation is finished
(`Commissioning.SetupProtocol`): the device, the customer, where the installation stands
if that is not where the customer is, a flat list of items, and a lot for every component
with a serial number.

`Commissioning.SetupProtocol.toJson` is its transmitted form. What is absent is left
out of it rather than written as absent; the name of a company is an object of its own,
which is empty when the company has no name.
-/

namespace Commissioning

/-- A member of an object, left out if its value is absent. -/
def optionalMember (name : String) : Option Json → Members
  | some value => [(name, value)]
  | none => []

/-- An address in a protocol. -/
structure ProtocolAddress where
  /-- Street and house number. -/
  street : String
  /-- Town. -/
  city : String
  /-- Postal code. -/
  zip : String
  /-- Code of the country. -/
  country : String
deriving DecidableEq, Repr, Inhabited

namespace ProtocolAddress

/-- An address as transmitted. -/
def toJson (a : ProtocolAddress) : Json :=
  .obj [("street", .str a.street), ("city", .str a.city), ("zip", .str a.zip),
    ("country", .str a.country)]

end ProtocolAddress

/-- A company in a protocol. -/
structure ProtocolCompany where
  /-- Its name. -/
  name : Option String := none
deriving DecidableEq, Repr, Inhabited

namespace ProtocolCompany

/-- A company as transmitted. -/
def toJson (c : ProtocolCompany) : Json := .obj (optionalMember "name" (c.name.map .str))

end ProtocolCompany

/-- A person or a company in a protocol. -/
structure ProtocolContact where
  /-- First name. -/
  firstName : String
  /-- Last name. -/
  lastName : String
  /-- Mail address. -/
  email : String
  /-- Telephone number. -/
  phone : String
  /-- Address. -/
  address : ProtocolAddress
  /-- The company, if there is one. -/
  company : Option ProtocolCompany := none
deriving DecidableEq, Repr, Inhabited

namespace ProtocolContact

/-- A contact as transmitted. -/
def toJson (c : ProtocolContact) : Json :=
  .obj ([("firstname", .str c.firstName), ("lastname", .str c.lastName),
    ("email", .str c.email), ("phone", .str c.phone), ("address", c.address.toJson)] ++
    optionalMember "company" (c.company.map ProtocolCompany.toJson))

end ProtocolContact

/-- A line of a protocol. -/
structure ProtocolItem where
  /-- The heading under which it stands. -/
  category : String
  /-- What it says something about. -/
  name : String
  /-- What it says. -/
  value : String
deriving DecidableEq, Repr, Inhabited

namespace ProtocolItem

/-- An item as transmitted. -/
def toJson (i : ProtocolItem) : Json :=
  .obj [("category", .str i.category), ("name", .str i.name), ("value", .str i.value)]

end ProtocolItem

/-- A component with a serial number. -/
structure ProtocolLot where
  /-- The heading under which it stands. -/
  category : String
  /-- The name of the number. -/
  name : String
  /-- The number. -/
  serialNumber : String
deriving DecidableEq, Repr, Inhabited

namespace ProtocolLot

/-- A lot as transmitted. -/
def toJson (l : ProtocolLot) : Json :=
  .obj [("category", .str l.category), ("name", .str l.name),
    ("serialNumber", .str l.serialNumber)]

end ProtocolLot

/-- **A setup protocol.** -/
structure SetupProtocol where
  /-- The identifier of the device. -/
  edgeId : String
  /-- The customer. -/
  customer : ProtocolContact
  /-- Where the installation stands, if not where the customer is. -/
  location : Option ProtocolContact := none
  /-- The items in order. -/
  items : List ProtocolItem := []
  /-- The lots in order. -/
  lots : List ProtocolLot := []
deriving DecidableEq, Repr, Inhabited

namespace SetupProtocol

/-- **A protocol as transmitted.** -/
def toJson (p : SetupProtocol) : Json :=
  .obj ([("fems", .obj [("id", .str p.edgeId)]), ("customer", p.customer.toJson)] ++
    optionalMember "location" (p.location.map ProtocolContact.toJson) ++
    [("items", .arr (p.items.map ProtocolItem.toJson)),
     ("lots", .arr (p.lots.map ProtocolLot.toJson))])

end SetupProtocol

end Commissioning
