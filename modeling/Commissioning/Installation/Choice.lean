import Commissioning.Intake.Basic

/-!
# Choices of an installation

The three closed choices: how the inverter reacts to the grid when it feeds in, whose
safety rules apply, and which meter counts the production of an AC producer. Each is
known by a name, which is what requests and stored entries hold.
-/

namespace Commissioning

/-- How feeding in is adjusted to the grid. -/
inductive FeedInSetting where
  /-- Not decided. -/
  | undefined
  /-- Reactive power by voltage. -/
  | quEnableCurve
  /-- Active power by voltage. -/
  | puEnableCurve
  /-- A fixed power factor. -/
  | fixedPowerFactor
deriving DecidableEq, Repr, Inhabited

namespace FeedInSetting

/-- The name of a setting. -/
def name : FeedInSetting → String
  | undefined => "UNDEFINED"
  | quEnableCurve => "QU_ENABLE_CURVE"
  | puEnableCurve => "PU_ENABLE_CURVE"
  | fixedPowerFactor => "FIXED_POWER_FACTOR"

/-- All settings. -/
def all : List FeedInSetting := [undefined, quEnableCurve, puEnableCurve, fixedPowerFactor]

/-- The settings by name. -/
def choices : List (String × FeedInSetting) := all.map fun a => (a.name, a)

/-- The setting of a name. -/
def ofName? (name : String) : Option FeedInSetting := Assoc.get? choices name

/-- Reads a setting. -/
def intake : Intake FeedInSetting := Intake.choice choices

/-- A setting as a document. -/
def toJson (a : FeedInSetting) : Json := .str a.name

@[simp] theorem ofName?_name (a : FeedInSetting) : ofName? a.name = some a := by
  cases a <;> decide

@[simp] theorem intake_toJson (a : FeedInSetting) : intake a.toJson = .valid a := by
  have h : Assoc.get? choices a.name = some a := ofName?_name a
  simp [intake, toJson, Intake.choice, h]

end FeedInSetting

/-- The country whose safety rules apply. -/
inductive SafetyCountry where
  /-- Germany. -/
  | germany
  /-- Austria. -/
  | austria
  /-- Switzerland. -/
  | switzerland
deriving DecidableEq, Repr, Inhabited

namespace SafetyCountry

/-- The name of a country. -/
def name : SafetyCountry → String
  | germany => "GERMANY"
  | austria => "AUSTRIA"
  | switzerland => "SWITZERLAND"

/-- All countries. -/
def all : List SafetyCountry := [germany, austria, switzerland]

/-- The countries by name. -/
def choices : List (String × SafetyCountry) := all.map fun a => (a.name, a)

/-- The country of a name. -/
def ofName? (name : String) : Option SafetyCountry := Assoc.get? choices name

/-- Reads a country. -/
def intake : Intake SafetyCountry := Intake.choice choices

/-- A country as a document. -/
def toJson (a : SafetyCountry) : Json := .str a.name

@[simp] theorem ofName?_name (a : SafetyCountry) : ofName? a.name = some a := by
  cases a <;> decide

@[simp] theorem intake_toJson (a : SafetyCountry) : intake a.toJson = .valid a := by
  have h : Assoc.get? choices a.name = some a := ofName?_name a
  simp [intake, toJson, Intake.choice, h]

end SafetyCountry

/-- The make of a meter. -/
inductive Meter where
  /-- A meter by Socomec. -/
  | socomec
  /-- A meter by KDK. -/
  | kdk
deriving DecidableEq, Repr, Inhabited

namespace Meter

/-- The name of a meter. -/
def name : Meter → String
  | socomec => "SOCOMEC"
  | kdk => "KDK"

/-- The label of a meter in documents. -/
def label : Meter → String
  | socomec => "Socomec"
  | kdk => "KDK"

/-- The name of a meter in the settings of the app. -/
def appType : Meter → String
  | socomec => "SOCOMEC"
  | kdk => "KDK"

/-- All meters. -/
def all : List Meter := [socomec, kdk]

/-- The meters by name. -/
def choices : List (String × Meter) := all.map fun a => (a.name, a)

/-- The meter of a name. -/
def ofName? (name : String) : Option Meter := Assoc.get? choices name

/-- Reads a meter. -/
def intake : Intake Meter := Intake.choice choices

/-- A meter as a document. -/
def toJson (a : Meter) : Json := .str a.name

@[simp] theorem ofName?_name (a : Meter) : ofName? a.name = some a := by
  cases a <;> decide

@[simp] theorem intake_toJson (a : Meter) : intake a.toJson = .valid a := by
  have h : Assoc.get? choices a.name = some a := ofName?_name a
  simp [intake, toJson, Intake.choice, h]

end Meter

end Commissioning
