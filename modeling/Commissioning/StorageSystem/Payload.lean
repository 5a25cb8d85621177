import Commissioning.Installation.Basic
import Commissioning.StorageSystem.Basic

/-!
# The settings of the app

What the app on the device is told when it is installed: a set of properties that the
data of the installation, the country and the way of feeding in determine
(`Commissioning.StorageSystem.payload`). The systems share most properties; they differ in the
names of the flags for the strings, in where these flags stand, and in whether there is a fuse.
-/

namespace Commissioning

/-- What is sent to install the app. -/
structure AppPayload where
  /-- The app. -/
  appId : String
  /-- The name under which it is installed. -/
  label : String
  /-- Its properties. -/
  properties : Members

namespace Installation

/-- The properties of the reserve for a power cut. -/
def reserveProperties (d : Installation) : Members :=
  let reserve := d.battery.emergencyReserve
  [("HAS_EMERGENCY_RESERVE", .bool reserve.isEnabled),
   ("EMERGENCY_RESERVE_ENABLED", .bool reserve.isEnabled)] ++
  if reserve.isEnabled then [("EMERGENCY_RESERVE_SOC", .int reserve.value)] else []

/-- The properties of the meter of the first producer on the AC side. -/
def meterProperties (d : Installation) : Members :=
  match d.pv.ac with
  | [] => [("HAS_AC_METER", .bool false)]
  | p :: _ => [("HAS_AC_METER", .bool true), ("AC_METER_TYPE", .str p.meterType.appType)]

/-- The properties of feeding in. -/
def feedInProperties (d : Installation) (setting : FeedInSetting) : Members :=
  let limitation := d.batteryInverter.feedInLimitation
  [("FEED_IN_TYPE", .str "DYNAMIC_LIMITATION"), ("FEED_IN_SETTING", setting.toJson),
   ("MAX_FEED_IN_POWER", .int (limitation.maximumFeedInPower.getD 0))]

/-- The string at a place, counted from one, if it exists and is selected. -/
def selectedString? (d : Installation) (number : Nat) : Option DcString :=
  (d.pv.dc[number - 1]?).filter (·.isSelected)

/-- The flag of the string at a place and, if it is selected, its name. -/
def stringProperties (d : Installation) (flag caption : Nat → String) (number : Nat) : Members :=
  match d.selectedString? number with
  | some s => [(flag number, .bool true), (caption number, .str s.name)]
  | none => [(flag number, .bool false)]

/-- The flags of the strings at the first places. -/
def allStringProperties (d : Installation) (count : Nat) (flag caption : Nat → String) :
    Members :=
  (List.range' 1 count).flatMap (d.stringProperties flag caption)

end Installation

namespace StorageSystem

/-- The name of the flag of a string. -/
def stringFlag (s : StorageSystem) (number : Nat) : String :=
  match s with
  | home => s!"HAS_DC_PV{number}"
  | _ => s!"HAS_MPPT_{number}"

/-- The name of the property with the name of a string. -/
def stringAlias (s : StorageSystem) (number : Nat) : String :=
  match s with
  | home => s!"DC_PV{number}_ALIAS"
  | _ => s!"ALIAS_MPPT_{number}"

/-- The properties of the fuse, of the systems that have one. -/
def fuseProperties (s : StorageSystem) (d : Installation) : Members :=
  match s with
  | home20 | home30 => [("LINE_SIDE_METER_FUSE", Json.ofOptionInt d.lineSideMeterFuse.rating?)]
  | _ => []

/-- The properties that have nothing to do with the strings. -/
def fixedProperties (s : StorageSystem) (d : Installation) (country : SafetyCountry)
    (setting : FeedInSetting) : Members :=
  ("SAFETY_COUNTRY", country.toJson) :: s.fuseProperties d ++ d.feedInProperties setting ++
    d.meterProperties ++ d.reserveProperties ++ [("SHADOW_MANAGEMENT_DISABLED", .bool false)]

/-- The flags of all strings of a system, and the names of those that are selected. -/
def stringTable (s : StorageSystem) (d : Installation) : Members :=
  d.allStringProperties s.maxMppt s.stringFlag s.stringAlias

/-- The properties of the app of a system. The strings of the smallest system stand in front of
the reserve, those of the larger ones behind everything else. -/
def properties (s : StorageSystem) (d : Installation) (country : SafetyCountry)
    (setting : FeedInSetting) : Members :=
  match s with
  | general => []
  | home =>
    ("SAFETY_COUNTRY", country.toJson) :: d.feedInProperties setting ++ d.meterProperties ++
      home.stringTable d ++ d.reserveProperties ++ [("SHADOW_MANAGEMENT_DISABLED", .bool false)]
  | _ => s.fixedProperties d country setting ++ s.stringTable d

/-- **What is sent to install the app of a system.** -/
def payload (s : StorageSystem) (d : Installation) (country : SafetyCountry)
    (setting : FeedInSetting) : AppPayload :=
  ⟨s.appId, s.appAlias, s.properties d country setting⟩

end StorageSystem

end Commissioning
