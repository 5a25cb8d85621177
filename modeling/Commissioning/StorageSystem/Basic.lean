import Commissioning.StorageSystem.View

/-!
# Storage systems

The systems that can be commissioned. A fresh session has the general system, which
shows the first views only; the others are chosen by their identifier and decide which
views follow, how large the battery may be and how many strings the inverter takes.
-/

namespace Commissioning

/-- A storage system. -/
inductive StorageSystem where
  /-- Not chosen yet. -/
  | general
  /-- FENECON Home. -/
  | home
  /-- FENECON Home 20. -/
  | home20
  /-- FENECON Home 30. -/
  | home30
deriving DecidableEq, Repr, Inhabited

namespace StorageSystem

/-- The identifier of a system. -/
def id : StorageSystem → String
  | general => "GENERAL"
  | home => "FENECON_HOME"
  | home20 => "FENECON_HOME_20"
  | home30 => "FENECON_HOME_30"

/-- All systems, the general one first. -/
def all : List StorageSystem := [general, home, home20, home30]

/-- The system of an identifier. -/
def ofId? (id : String) : Option StorageSystem := all.find? fun s => s.id == id

/-- Whether a system is the general one. -/
def isGeneral (s : StorageSystem) : Bool := s == general

/-- The systems that can be chosen. -/
def selectable : List StorageSystem := all.filter fun s => !s.isGeneral

/-- The name of a system. -/
def label : StorageSystem → String
  | general => "Allgemein"
  | home => "FENECON Home"
  | home20 => "FENECON Home 20"
  | home30 => "FENECON Home 30"

/-- The app that is installed for a system. -/
def appId : StorageSystem → String
  | general => ""
  | home => "App.FENECON.Home"
  | home20 => "App.FENECON.Home.20"
  | home30 => "App.FENECON.Home.30"

/-- The name under which the app is installed. -/
def appAlias : StorageSystem → String
  | general => ""
  | s => s.label

/-- The name of the box of the energy management in the list of components. -/
def emsBoxLabel : StorageSystem → String
  | general => "EMS Box"
  | home => "Home - EMS Box"
  | home20 | home30 => "Home 20 & 30 - EMS Box"

/-- The least number of battery modules in a tower. -/
def minModulesPerTower : StorageSystem → Nat
  | general | home => 4
  | home20 | home30 => 5

/-- The greatest number of battery modules in a tower. -/
def maxModulesPerTower : StorageSystem → Nat
  | general | home => 10
  | home20 | home30 => 15

/-- The greatest number of towers. -/
def maxTowers : StorageSystem → Nat
  | general | home => 3
  | home20 | home30 => 5

/-- The greatest number of strings. -/
def maxPvStrings : StorageSystem → Nat
  | general | home => 2
  | home20 => 4
  | home30 => 6

/-- The number of inputs for strings. -/
def maxMppt : StorageSystem → Nat
  | general | home | home20 => 2
  | home30 => 3

/-- The views of a system in order. -/
def views : StorageSystem → List View
  | general => [.preInstallation, .preInstallationUpdate, .configurationSystem]
  | home =>
    [.preInstallation, .preInstallationUpdate, .configurationSystem, .protocolInstaller,
     .protocolCustomer, .protocolSystem, .configurationEmergencyReserve, .protocolPv,
     .protocolAdditionalAcProducers, .protocolFeedInLimitation, .configurationSummary,
     .configurationExecute, .protocolSerialNumbers, .completion]
  | home20 | home30 =>
    [.preInstallation, .preInstallationUpdate, .configurationSystem,
     .configurationSystemVariant, .protocolInstaller, .protocolCustomer, .protocolSystem,
     .configurationEmergencyReserve, .configurationEnergyFlowMeter,
     .configurationLineSideMeterFuse, .configurationMpptSelection, .protocolPv,
     .protocolFeedInLimitation, .configurationSummary, .configurationExecute,
     .protocolSerialNumbers, .completion]

/-- The number of views. -/
def viewCount (s : StorageSystem) : Nat := s.views.length

/-- Where a view stands among the views of a system. -/
def indexOf? (s : StorageSystem) (v : View) : Option Nat := s.views.idxOf? v

theorem viewCount_pos (s : StorageSystem) : 0 < s.viewCount := by cases s <;> decide

@[simp] theorem ofId?_id (s : StorageSystem) : ofId? s.id = some s := by cases s <;> decide

end StorageSystem

end Commissioning
