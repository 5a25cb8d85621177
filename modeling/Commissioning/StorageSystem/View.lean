/-!
# Views

The pages of the wizard. A system shows some of them in an order of its own.
-/

namespace Commissioning

/-- A page of the wizard. -/
inductive View where
  /-- What to prepare. -/
  | preInstallation
  /-- The software of the device is brought up to date. -/
  | preInstallationUpdate
  /-- The system is chosen. -/
  | configurationSystem
  /-- The variant of the system is chosen. -/
  | configurationSystemVariant
  /-- Who installs. -/
  | protocolInstaller
  /-- Who the installation is for. -/
  | protocolCustomer
  /-- Where it stands. -/
  | protocolSystem
  /-- The reserve for a power cut. -/
  | configurationEmergencyReserve
  /-- The meter at the grid. -/
  | configurationEnergyFlowMeter
  /-- The fuse between the meter and the grid. -/
  | configurationLineSideMeterFuse
  /-- Which inputs of the inverter are used. -/
  | configurationMpptSelection
  /-- The strings on the DC side. -/
  | protocolPv
  /-- The producers on the AC side. -/
  | protocolAdditionalAcProducers
  /-- How feeding in is limited. -/
  | protocolFeedInLimitation
  /-- All that has been entered. -/
  | configurationSummary
  /-- The device is configured. -/
  | configurationExecute
  /-- The serial numbers of the components. -/
  | protocolSerialNumbers
  /-- The end. -/
  | completion
deriving DecidableEq, Repr, Inhabited

namespace View

/-- The name of a view. -/
def name : View → String
  | preInstallation => "pre_installation"
  | preInstallationUpdate => "pre_installation_update"
  | configurationSystem => "configuration_system"
  | configurationSystemVariant => "configuration_system_variant"
  | protocolInstaller => "protocol_installer"
  | protocolCustomer => "protocol_customer"
  | protocolSystem => "protocol_system"
  | configurationEmergencyReserve => "configuration_emergency_reserve"
  | configurationEnergyFlowMeter => "configuration_energy_flow_meter"
  | configurationLineSideMeterFuse => "configuration_line_side_meter_fuse"
  | configurationMpptSelection => "configuration_mppt_selection"
  | protocolPv => "protocol_pv"
  | protocolAdditionalAcProducers => "protocol_additional_ac_producers"
  | protocolFeedInLimitation => "protocol_feed_in_limitation"
  | configurationSummary => "configuration_summary"
  | configurationExecute => "configuration_execute"
  | protocolSerialNumbers => "protocol_serial_numbers"
  | completion => "completion"

/-- All views. -/
def all : List View :=
  [preInstallation, preInstallationUpdate, configurationSystem, configurationSystemVariant,
   protocolInstaller, protocolCustomer, protocolSystem, configurationEmergencyReserve,
   configurationEnergyFlowMeter, configurationLineSideMeterFuse, configurationMpptSelection,
   protocolPv, protocolAdditionalAcProducers, protocolFeedInLimitation, configurationSummary,
   configurationExecute, protocolSerialNumbers, completion]

/-- The view of a name. -/
def ofName? (name : String) : Option View := all.find? fun v => v.name == name

theorem mem_all (v : View) : v ∈ all := by cases v <;> decide

end View

end Commissioning
