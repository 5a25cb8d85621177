import Commissioning.Field.Step
import Commissioning.SerialNumber.Schema

/-!
# Collecting serial numbers

What is done with a filled-in form. The counts are checked and read
(`Commissioning.checkSettings`, `Commissioning.settingsCounts`); then each field of each
tower gives one serial number and at most one complaint
(`Commissioning.SerialNumberSchema.collect`). A field that was left out of a request has
the value that it was shown with.
-/

namespace Commissioning

namespace SerialNumbers

/-- The serial numbers of a tower. -/
def ofTower (s : SerialNumbers) : Tower → List SerialNumber
  | .first => s.tower1
  | .second => s.tower2
  | .third => s.tower3

/-- The serial numbers with those of one tower replaced. -/
def setTower (s : SerialNumbers) (entries : List SerialNumber) : Tower → SerialNumbers
  | .first => { s with tower1 := entries }
  | .second => { s with tower2 := entries }
  | .third => { s with tower3 := entries }

end SerialNumbers

/-! ### The counts -/

/-- The complaints about the values of some fields. -/
def checkSettings : List Field → Members → Except NumberError Complaints
  | [], _ => return []
  | f :: fs, values => do
    let complaint ← f.check ((values.get? f.key).getD .null)
    let rest ← checkSettings fs values
    match complaint with
    | some c => return (f.key, c) :: rest
    | none => return rest

/-- Why counts cannot be read. -/
inductive CountError where
  /-- A count is missing. -/
  | missing (key : String)
  /-- A count is no whole number. -/
  | unreadable (why : NumberError)
deriving DecidableEq, Repr

/-- The wording of an error. -/
def CountError.message : CountError → String
  | .missing key => Text.quoted key
  | .unreadable why => why.message

/-- The whole part of the number under a key. -/
def countOf (values : Members) (key : String) : Except CountError Int :=
  match values.get? key with
  | none => .error (.missing key)
  | some value => ((value.toBinary64).bind Binary64.toInt).mapError .unreadable

/-- **The two counts**: of towers, and of modules in a tower. -/
def settingsCounts (values : Members) : Except CountError (Int × Int) := do
  let towers ← countOf values "numberOfTowers"
  let modules ← countOf values "numberOfModulesPerTower"
  return (towers, modules)

/-! ### The serial numbers -/

/-- The values of a filled-in form, tower by tower. -/
abbrev TowerValues := Assoc Int Members

/-- What a field gives: a serial number, and a complaint about its value. -/
def collectField (f : Field) (values : Members) :
    Except NumberError (SerialNumber × Option Complaint) := do
  let value := (values.get? f.key).getD f.default
  let complaint ← f.check value
  match ← f.coerce value with
  | .null => return (⟨f.label, none⟩, complaint)
  | kept => return (⟨f.label, some (← kept.display)⟩, complaint)

/-- What the fields of a tower give. -/
def collectTower (t : Tower) : List Field → Members →
    Except NumberError (List SerialNumber × Complaints)
  | [], _ => return ([], [])
  | f :: fs, values => do
    let (entry, complaint) ← collectField f values
    let (entries, complaints) ← collectTower t fs values
    match complaint with
    | some c => return (entry :: entries, (s!"tower{t.number}.{f.key}", c) :: complaints)
    | none => return (entry :: entries, complaints)

/-- What the fields of several towers give. -/
def collectTowers : List (Tower × List Field) → TowerValues →
    Except NumberError (SerialNumbers × Complaints)
  | [], _ => return ({}, [])
  | (t, fs) :: rest, values => do
    let (entries, complaints) ← collectTower t fs ((values.get? t.number).getD [])
    let (others, more) ← collectTowers rest values
    return (others.setTower entries t, complaints ++ more)

/-- **The serial numbers of a filled-in form**, and the complaints about it. -/
def SerialNumberSchema.collect (schema : SerialNumberSchema) (values : TowerValues) :
    Except NumberError (SerialNumbers × Complaints) :=
  collectTowers schema.towers values

end Commissioning
