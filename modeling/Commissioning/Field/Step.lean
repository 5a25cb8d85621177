import Commissioning.Field.Basic
import Commissioning.Installation.Basic
import Commissioning.StorageSystem.Basic

/-!
# Checking a step

Before the wizard leaves a view, it checks what the view has collected. Each view has a
list of form fields (`Commissioning.stepFields`), and each of them says by a path where
its value stands in the document of the installation. A field may have a guard: it is
checked only while the value at another path is as the guard says.

`Commissioning.checkStep` gives the complaints of a view in the order of its fields,
each under the path of its field.
-/

namespace Commissioning

namespace Json

/-- The value that a path leads to. -/
def at? : Json → List Step → Option Json
  | j, [] => some j
  | .arr items, .index n :: path =>
    if n < 0 then none else match items[n.toNat]? with
      | some j => at? j path
      | none => none
  | .obj members, .field name :: path => match Assoc.get? members name with
    | some j => at? j path
    | none => none
  | _, _ => none

@[simp] theorem at?_nil (j : Json) : j.at? [] = some j := by cases j <;> rfl

/-- A path is followed part by part. -/
theorem at?_append (j : Json) (p q : List Step) :
    j.at? (p ++ q) = (j.at? p).bind fun k => k.at? q := by
  induction p generalizing j with
  | nil => simp
  | cons step rest ih =>
    cases j with
    | arr items =>
      cases step with
      | field name => rfl
      | index n =>
        simp only [List.cons_append, at?]
        split
        · rfl
        · split <;> simp_all
    | obj members =>
      cases step with
      | index n => rfl
      | field name =>
        simp only [List.cons_append, at?]
        split <;> simp_all
    | _ => cases step <;> rfl

end Json

/-- A step as part of an identifier. -/
def Step.text : Step → String
  | .field name => name
  | .index n => toString n

/-- A field of a view. -/
structure StepField where
  /-- What is demanded of the value. -/
  field : Field
  /-- Where the value stands. -/
  path : List Step
  /-- Where the value stands that switches the field on. -/
  guardPath : Option (List Step) := none
  /-- What that value must be. -/
  guardValue : Json := .bool true
deriving Inhabited

namespace StepField

/-- The identifier of a field: its path with points between the steps. -/
def id (f : StepField) : String := ".".intercalate (f.path.map Step.text)

/-- Whether a field counts for a document. -/
def isOn (f : StepField) (document : Json) : Bool :=
  match f.guardPath with
  | none => true
  | some path => match document.at? path with
    | some value => value.alike f.guardValue
    | none => false

/-- The complaint about the value of a field in a document. -/
def check (f : StepField) (document : Json) : Except NumberError (Option Complaint) :=
  if f.isOn document then f.field.check ((document.at? f.path).getD .null)
  else return none

end StepField

/-! ### The fields of the views -/

/-- The codes of the countries with their names. -/
def countries : List (String × String) :=
  [("de", "Deutschland"), ("at", "Österreich"), ("ch", "Schweiz")]

/-- One or more characters that are neither an at sign nor a blank. -/
def addressPart : Pattern.Part := ⟨.oneOf true [.single '@', .blank], .some⟩

/-- A mail address: a name, an at sign, and a domain with a point in it. -/
def emailPattern : Pattern :=
  ⟨[addressPart, ⟨.literal '@', .once⟩, addressPart, ⟨.literal '.', .once⟩, addressPart]⟩

/-- A postal code: four or five digits. -/
def zipPattern : Pattern := ⟨[⟨.oneOf false [.range '0' '9'], .between 4 5⟩]⟩

/-- The contact fields as a form: key, label, pattern, options. -/
def contactForm : List Field :=
  [{ key := "first_name", label := "Vorname", required := true },
   { key := "last_name", label := "Nachname", required := true },
   { key := "street", label := "Straße", required := true },
   { key := "zip", label := "PLZ", required := true, pattern := some zipPattern },
   { key := "city", label := "Ort", required := true },
   { key := "country", label := "Land", required := true,
     options := some (countries.map fun c => .str c.1) },
   { key := "email", label := "E-Mail", required := true, pattern := some emailPattern },
   { key := "phone", label := "Telefonnummer", required := true }]

/-- The contact fields of a member of the installation. -/
def contactFields (member : String) (guardPath : Option (List Step)) (guardValue : Json) :
    List StepField :=
  contactForm.map fun f => ⟨f, [.field member, .field f.key], guardPath, guardValue⟩

/-- The fields of the customer. -/
def customerFields : List StepField :=
  contactFields "customer" none (.bool true) ++
    [{ field := { key := "company_name", label := "Firmenname", required := true },
       path := [.field "customer", .field "company_name"],
       guardPath := some [.field "customer", .field "is_corporate_client"] }]

/-- The fields of the location. -/
def locationFields : List StepField :=
  contactFields "location" (some [.field "location", .field "is_equal_to_customer_data"])
    (.bool false)

/-- The fields of the reserve for a power cut. -/
def reserveFields : List StepField :=
  [{ field :=
       { key := "value", label := "Notstromreserve [%]", valueType := .number, required := true,
         minimum := some (.int 5), maximum := some (.int 100) },
     path := [.field "battery", .field "emergency_reserve", .field "value"],
     guardPath := some [.field "battery", .field "emergency_reserve", .field "is_enabled"] }]

/-- The fields of the fuse. -/
def fuseFields : List StepField :=
  [{ field :=
       { key := "fixed_value", label := "Wert [A]", valueType := .number, required := true,
         options := some (fuseRatings.map .int) },
     path := [.field "line_side_meter_fuse", .field "fixed_value"] },
   { field :=
       { key := "other_value", label := "Eigener Wert [A]", valueType := .number,
         required := true, minimum := some (.int 1), maximum := some (.int 1000) },
     path := [.field "line_side_meter_fuse", .field "other_value"],
     guardPath := some [.field "line_side_meter_fuse", .field "fixed_value"],
     guardValue := .int otherRating }]

/-- The fields of the string at an index. -/
def stringFields (index : Nat) : List StepField :=
  let base : List Step := [.field "pv", .field "dc", .index index]
  let guardPath := some (base ++ [.field "is_selected"])
  [{ field := { key := "alias", label := s!"Alias MPPT{index + 1}", required := true },
     path := base ++ [.field "alias"], guardPath },
   { field :=
       { key := "value", label := s!"Wert MPPT{index + 1} [Wp]", valueType := .number,
         required := true, minimum := some (.int 1) },
     path := base ++ [.field "value"], guardPath },
   { field :=
       { key := "modules_per_string", label := s!"Modulanzahl MPPT{index + 1}",
         valueType := .number, minimum := some (.int 1), maximum := some (.int 100) },
     path := base ++ [.field "modules_per_string"], guardPath }]

/-- The fields of the producer at an index. -/
def producerFields (index : Nat) : List StepField :=
  let base : List Step := [.field "pv", .field "ac", .index index]
  [{ field := { key := "alias", label := s!"Alias AC{index + 1}", required := true },
     path := base ++ [.field "alias"] },
   { field :=
       { key := "value", label := s!"Wert AC{index + 1} [Wp]", valueType := .number,
         required := true, minimum := some (.int 1) },
     path := base ++ [.field "value"] },
   { field :=
       { key := "modbus_communication_address",
         label := s!"Modbus Kommunikationsadresse AC{index + 1}", valueType := .number,
         required := true, minimum := some (.int 1), maximum := some (.int 247) },
     path := base ++ [.field "modbus_communication_address"] }]

/-- The fields of feeding in. -/
def feedInFields : List StepField :=
  let base : List Step := [.field "battery_inverter", .field "dynamic_feed_in_limitation"]
  [{ field :=
       { key := "maximum_feed_in_power", label := "Maximale Einspeiseleistung [W]",
         valueType := .number, required := true, minimum := some (.int 0) },
     path := base ++ [.field "maximum_feed_in_power"] },
   { field := { key := "fixed_power_factor", label := "Cos φ Festwert", required := true },
     path := base ++ [.field "fixed_power_factor"],
     guardPath := some (base ++ [.field "feed_in_setting"]),
     guardValue := FeedInSetting.fixedPowerFactor.toJson }]

/-- **The fields of a view**, for a system and the data collected so far. -/
def stepFields (view : Option View) (system : StorageSystem) (d : Installation) : List StepField :=
  match view with
  | some .protocolCustomer => customerFields
  | some .protocolSystem => locationFields
  | some .configurationEmergencyReserve => reserveFields
  | some .configurationLineSideMeterFuse => fuseFields
  | some .protocolPv => (List.range (min d.pv.dc.length system.maxMppt)).flatMap stringFields
  | some .protocolAdditionalAcProducers => (List.range d.pv.ac.length).flatMap producerFields
  | some .protocolFeedInLimitation => feedInFields
  | _ => []

/-! ### Complaints -/

/-- Complaints under the names of the fields that they are about. -/
abbrev Complaints := List (String × Complaint)

/-- The complaints of some fields about a document. -/
def checkFields : List StepField → Json → Except NumberError Complaints
  | [], _ => return []
  | f :: fs, document => do
    let complaint ← f.check document
    let rest ← checkFields fs document
    match complaint with
    | some c => return (f.id, c) :: rest
    | none => return rest

/-- **The complaints about the data of a view.** -/
def checkStep (view : Option View) (system : StorageSystem) (d : Installation) :
    Except NumberError Complaints :=
  checkFields (stepFields view system d) d.toJson

end Commissioning
