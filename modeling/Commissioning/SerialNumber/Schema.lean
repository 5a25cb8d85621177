import Commissioning.Field.Basic
import Commissioning.StorageSystem.Basic

/-!
# The form for serial numbers

The form asks for the number of towers and of battery modules in a tower, and then, tower
by tower, for the serial number of each component. How many there are follows from
counts that a device, a request or the settings propose
(`Commissioning.SerialNumberDefaults`). Whatever they propose is first brought within the
bounds of the system (`Commissioning.SerialNumberDefaults.clamp`), so that the form is
well formed for all counts.

There are at most three towers with serial numbers, also where a system allows more.
-/

namespace Commissioning

/-- A tower of the battery. -/
inductive Tower where
  /-- The tower with the inverter and the energy management. -/
  | first
  /-- The tower with the parallel box. -/
  | second
  /-- The tower with the extension box. -/
  | third
deriving DecidableEq, Repr, Inhabited

namespace Tower

/-- All towers in order. -/
def all : List Tower := [first, second, third]

/-- The number of a tower. -/
def number : Tower → Int
  | first => 1
  | second => 2
  | third => 3

/-- The tower of a number. -/
def ofNumber? (n : Int) : Option Tower := all.find? fun t => t.number == n

/-- The complaint about a number that no tower has. -/
def unsupportedText (n : Int) : String := s!"unsupported tower number {n}"

end Tower

/-- Where proposed counts come from. -/
inductive DefaultsSource where
  /-- The device. -/
  | live
  /-- The settings. -/
  | fallback
  /-- A request. -/
  | input
deriving DecidableEq, Repr, Inhabited

namespace DefaultsSource

/-- The name of a source. -/
def name : DefaultsSource → String
  | live => "live"
  | fallback => "fallback"
  | input => "input"

/-- The source of a name. -/
def ofName? (name : String) : Option DefaultsSource :=
  [live, fallback, input].find? fun s => s.name == name

end DefaultsSource

/-- Proposed counts, and the serial number of the inverter if it is known. -/
structure SerialNumberDefaults where
  /-- The number of towers. -/
  towers : Int
  /-- The number of modules in a tower. -/
  modules : Int
  /-- The serial number of the inverter. -/
  inverter : Option String := none
  /-- Where the counts come from. -/
  source : DefaultsSource := .fallback
deriving DecidableEq, Repr, Inhabited

/-- A number brought between two bounds. -/
def clampInt (least most n : Int) : Int := min (max n least) most

namespace StorageSystem

/-- The greatest number of towers with serial numbers. -/
def maxSerialNumberTowers (s : StorageSystem) : Nat := min Tower.all.length s.maxTowers

end StorageSystem

namespace SerialNumberDefaults

/-- **The proposed counts within the bounds of a system.** -/
def clamp (d : SerialNumberDefaults) (s : StorageSystem) : SerialNumberDefaults :=
  { d with
    towers := clampInt 1 s.maxSerialNumberTowers d.towers
    modules := clampInt s.minModulesPerTower s.maxModulesPerTower d.modules }

end SerialNumberDefaults

/-! ### Fields -/

/-- A serial number: ten to twenty letters and digits. -/
def serialNumberPattern : Pattern :=
  ⟨[⟨.oneOf false [.range '0' '9', .range 'A' 'Z', .range 'a' 'z'], .between 10 20⟩]⟩

/-- The complaint about a text that is no serial number. -/
def serialNumberMessage : String := "Bitte eine gültige Seriennummer eingeben."

/-- The serial number with which the box of the battery management is shown. -/
def defaultBmsBox : String := "519100001009"

/-- The serial number with which a battery module is shown. -/
def defaultModule : String := "519110001210"

/-- The label of the inverter, under which its serial number is also kept. -/
def inverterLabel : String := "Home - Wechselrichter"

/-- A field for the serial number of a component. -/
def serialField (key label : String) (default : Json) : Field :=
  { key, label, required := true, default, pattern := some serialNumberPattern,
    patternMessage := some serialNumberMessage }

namespace StorageSystem

/-- The fields for the two counts. -/
def countFields (s : StorageSystem) (towers modules : Int) : List Field :=
  [{ key := "numberOfTowers", label := "Anzahl Türme", valueType := .number, required := true,
     default := .int towers, minimum := some (.int 1),
     maximum := some (.int s.maxSerialNumberTowers) },
   { key := "numberOfModulesPerTower", label := "Anzahl Module pro Turm", valueType := .number,
     required := true, default := .int modules, minimum := some (.int s.minModulesPerTower),
     maximum := some (.int s.maxModulesPerTower) }]

/-- The fields for the boxes of a tower. -/
def boxFields (s : StorageSystem) (inverter : Option String) : Tower → List Field
  | .first =>
    [{ key := "batteryInverter", label := inverterLabel, required := true,
       default := Json.ofOptionStr inverter },
     serialField "emsBox" s.emsBoxLabel .null]
  | .second => [serialField "parallelBox" "Home - Parallel Box" .null]
  | .third => [serialField "extensionBox" "Home - Extension Box" .null]

/-- The field for the battery module of a number. -/
def moduleField (number : Nat) : Field :=
  serialField s!"module{number}" s!"Home - Batteriemodul {number}" (.str defaultModule)

/-- The fields of a tower: its boxes, the box of the battery management, its modules. -/
def towerFields (s : StorageSystem) (t : Tower) (modules : Int) (inverter : Option String) :
    List Field :=
  s.boxFields inverter t ++
    serialField "bmsBox" "Home - BMS Box & Sockel" (.str defaultBmsBox) ::
    (List.range' 1 modules.toNat).map moduleField

/-- The fields of the tower of a number. A number that no tower has is complained about. -/
def numberedFields (s : StorageSystem) (number modules : Int) (inverter : Option String) :
    Except String (List Field) :=
  match Tower.ofNumber? number with
  | some t => return s.towerFields t modules inverter
  | none => throw (Tower.unsupportedText number)

/-- The fields of towers that are asked for by number, from one up to a proposed count. -/
def numberedTowers (s : StorageSystem) (d : SerialNumberDefaults) :
    Except String (List (Int × List Field)) :=
  ((List.range' 1 d.towers.toNat).map Int.ofNat).mapM fun number => do
    return (number, ← s.numberedFields number d.modules d.inverter)

end StorageSystem

/-- The form for serial numbers. -/
structure SerialNumberSchema where
  /-- The fields for the counts. -/
  settings : List Field
  /-- The fields of each tower. -/
  towers : List (Tower × List Field)
  /-- The counts, within the bounds of the system. -/
  defaults : SerialNumberDefaults
deriving Inhabited

namespace StorageSystem

/-- **The form for a system and proposed counts.** -/
def serialNumberSchema (s : StorageSystem) (proposed : SerialNumberDefaults) : SerialNumberSchema :=
  let d := proposed.clamp s
  { settings := s.countFields d.towers d.modules
    towers := (Tower.all.take d.towers.toNat).map fun t =>
      (t, s.towerFields t d.modules d.inverter)
    defaults := d }

end StorageSystem

end Commissioning
