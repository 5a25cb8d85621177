import Commissioning.Intake.Basic

/-!
# The customer and the location

Who the installation is for and where it stands. Both have the same contact fields
(`Commissioning.Contact`); the customer may be a company, and the location may simply
be where the customer is.

Here and in the modules beside this one, a record `R` comes with
`R.intake`, which reads it from a document and fills in what is missing, and with
`R.toJson`, which writes it back with all its members in order.
-/

namespace Commissioning

/-- The contact fields of a customer or a location. -/
structure Contact where
  /-- First name. -/
  firstName : String := ""
  /-- Last name. -/
  lastName : String := ""
  /-- Street and house number. -/
  street : String := ""
  /-- Postal code. -/
  zip : String := ""
  /-- Town. -/
  city : String := ""
  /-- Code of the country. -/
  country : String := "de"
  /-- Mail address. -/
  email : String := ""
  /-- Telephone number. -/
  phone : String := ""
deriving DecidableEq, Repr, Inhabited

namespace Contact

/-- Reads the contact fields off the members of an object. -/
def ofMembers (ms : Members) : Checked Contact :=
  Contact.mk <$> Intake.member "first_name" Intake.text "" ms
    <*> Intake.member "last_name" Intake.text "" ms
    <*> Intake.member "street" Intake.text "" ms
    <*> Intake.member "zip" Intake.text "" ms
    <*> Intake.member "city" Intake.text "" ms
    <*> Intake.member "country" Intake.text "de" ms
    <*> Intake.member "email" Intake.text "" ms
    <*> Intake.member "phone" Intake.text "" ms

/-- The contact fields as members of an object. -/
def members (c : Contact) : Members :=
  [("first_name", .str c.firstName), ("last_name", .str c.lastName), ("street", .str c.street),
   ("zip", .str c.zip), ("city", .str c.city), ("country", .str c.country),
   ("email", .str c.email), ("phone", .str c.phone)]

end Contact

/-- Who the installation is for. -/
structure Customer where
  /-- Whether the customer is a company. -/
  isCorporateClient : Bool := false
  /-- The name of the company. -/
  companyName : Option String := none
  /-- The contact fields. -/
  contact : Contact := {}
deriving DecidableEq, Repr, Inhabited

namespace Customer

/-- Reads a customer off the members of an object. -/
def ofMembers (ms : Members) : Checked Customer :=
  Customer.mk <$> Intake.member "is_corporate_client" Intake.flag false ms
    <*> Intake.member "company_name" (Intake.optional Intake.text) none ms
    <*> Contact.ofMembers ms

/-- Reads a customer. -/
def intake : Intake Customer := Intake.record "Customer" ofMembers

/-- A customer as a document. -/
def toJson (c : Customer) : Json :=
  .obj (("is_corporate_client", .bool c.isCorporateClient) ::
    ("company_name", Json.ofOptionStr c.companyName) :: c.contact.members)

end Customer

/-- Where the installation stands. -/
structure Location where
  /-- Whether it stands where the customer is; then the other fields do not count. -/
  isEqualToCustomerData : Bool := true
  /-- The name of a company at the location. -/
  companyName : Option String := none
  /-- The contact fields. -/
  contact : Contact := {}
deriving DecidableEq, Repr, Inhabited

namespace Location

/-- Reads a location off the members of an object. -/
def ofMembers (ms : Members) : Checked Location :=
  Location.mk <$> Intake.member "is_equal_to_customer_data" Intake.flag true ms
    <*> Intake.member "company_name" (Intake.optional Intake.text) none ms
    <*> Contact.ofMembers ms

/-- Reads a location. -/
def intake : Intake Location := Intake.record "Location" ofMembers

/-- A location as a document. -/
def toJson (l : Location) : Json :=
  .obj (("is_equal_to_customer_data", .bool l.isEqualToCustomerData) ::
    ("company_name", Json.ofOptionStr l.companyName) :: l.contact.members)

end Location

end Commissioning
