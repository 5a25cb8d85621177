import Commissioning.Intake.Basic

/-!
# The device

The device of the customer that is being set up, as its owner's account lists it.

Of its texts only the identifier is examined when a device is read. The others may be torn
(`Commissioning.LooseText`), and then the device cannot be written: there are no bytes for a
torn text.
-/

namespace Commissioning

/-- A device. -/
structure Edge where
  /-- The identifier of the device, of one to 64 characters. -/
  id : String
  /-- A comment. -/
  comment : LooseText := ""
  /-- The type of the product. -/
  productType : LooseText := ""
  /-- The version of its software. -/
  version : LooseText := ""
  /-- The role of the installer on the device. -/
  role : LooseText := "guest"
  /-- Whether the device is online. -/
  isOnline : Bool := false
deriving DecidableEq, Repr, Inhabited

namespace Edge

/-- Reads a device off the members of an object. -/
def ofMembers (ms : Members) : Checked Edge :=
  Edge.mk <$> Intake.required "id" (Intake.textWithin 1 64) ms
    <*> Intake.member "comment" Intake.looseText "" ms
    <*> Intake.member "producttype" Intake.looseText "" ms
    <*> Intake.member "version" Intake.looseText "" ms
    <*> Intake.member "role" Intake.looseText "guest" ms
    <*> Intake.member "is_online" Intake.flag false ms

/-- Reads a device. -/
def intake : Intake Edge := Intake.record "EdgeData" ofMembers

/-- A device as a document. -/
def toJson (e : Edge) : Json :=
  .obj [("id", .str e.id), ("comment", e.comment.toJson),
    ("producttype", e.productType.toJson), ("version", e.version.toJson),
    ("role", e.role.toJson), ("is_online", .bool e.isOnline)]

/-- The texts that may be torn, in the order in which a device is written. -/
def looseTexts (e : Edge) : List LooseText := [e.comment, e.productType, e.version, e.role]

/-- The first torn text. -/
def torn? (e : Edge) : Option TornText := e.looseTexts.findSome? LooseText.torn?

end Edge

end Commissioning
