import Commissioning.Live.Feed
import Commissioning.Number.Conversion
import Commissioning.SerialNumber.Schema

/-!
# Values taken from the device

Two questions are put to the device: how many towers and modules its battery has
(`Commissioning.LiveQuestion.counts`), and the voltages and temperatures of its cells
(`Commissioning.LiveQuestion.cells`). A question names channels and says which sample
answers it; the first such sample counts. Without a feed, without a device, or when no
sample comes in time, the counts are those of the settings and there are no cell
metrics.

The answers are read leniently: any value that a finite number can be made of is that
number, except a truth value (`Commissioning.Json.reading?`).
-/

namespace Commissioning

namespace Json

/-- The finite number that a reported value stands for. -/
def reading? : Json → Option Binary64
  | .null | .bool _ => none
  | j => j.toBinary64.toOption.filter Binary64.isFinite

/-- The count that a reported value stands for: the whole part of a number of at least
one. -/
def countReading? (j : Json) : Option Int := do
  let x ← j.reading?
  if (Number.float x).lt (.int 1) then none else x.toInt.toOption

/-- The difference of two reported values, if both are numbers. -/
def difference? (a b : Json) : Option Binary64 := do
  let x ← a.reading?
  let y ← b.reading?
  return x.sub y

end Json

/-! ### Questions -/

/-- The channel of the number of towers. -/
def towersChannel : String := "battery0/NumberOfTowers"

/-- The channel of the number of modules in a tower. -/
def modulesChannel : String := "battery0/NumberOfModulesPerTower"

/-- The channel of the serial number of the inverter. -/
def inverterChannel : String := "batteryInverter0/SerialNumber"

/-- The channel of the greatest voltage of a cell. -/
def maxVoltageChannel : String := "battery0/MaxCellVoltage"

/-- The channel of the least voltage of a cell. -/
def minVoltageChannel : String := "battery0/MinCellVoltage"

/-- The channel of the greatest temperature of a cell. -/
def maxTemperatureChannel : String := "battery0/MaxCellTemperature"

/-- The channel of the least temperature of a cell. -/
def minTemperatureChannel : String := "battery0/MinCellTemperature"

namespace Sample

/-- The value of a channel; absent if it is not in the sample. -/
def value (s : Sample) (channel : String) : Json := (s.get? channel).getD .null

/-- Whether a sample has both counts. -/
def hasCounts (s : Sample) : Bool :=
  (value s towersChannel).countReading?.isSome && (value s modulesChannel).countReading?.isSome

/-- Whether a sample has both voltages. -/
def hasVoltages (s : Sample) : Bool :=
  (value s maxVoltageChannel).reading?.isSome && (value s minVoltageChannel).reading?.isSome

end Sample

/-- A question to a device. -/
structure LiveQuestion where
  /-- The channels that are listened to. -/
  channels : List String
  /-- Whether a sample answers the question. -/
  accepts : Sample → Bool

namespace LiveQuestion

/-- How many towers and modules are there? -/
def counts : LiveQuestion :=
  ⟨[towersChannel, modulesChannel, inverterChannel], Sample.hasCounts⟩

/-- How do the cells differ? -/
def cells : LiveQuestion :=
  ⟨[maxVoltageChannel, minVoltageChannel, maxTemperatureChannel, minTemperatureChannel],
   Sample.hasVoltages⟩

end LiveQuestion

/-- What comes of a question. -/
inductive LiveAnswer where
  /-- There is no feed or no device to ask. -/
  | unavailable
  /-- No sample has answered in time. -/
  | timeout
  /-- A sample has answered. -/
  | sample (s : Sample)

/-- Puts a question to a device by a way of waiting for samples. -/
def LiveQuestion.ask {m : Type → Type} [Monad m] (q : LiveQuestion)
    (await : Option (String → List String → (Sample → Bool) → m (Option Sample)))
    (edgeId : Option String) : m LiveAnswer :=
  match await, edgeId with
  | some await, some id => do
    if id == "" then return .unavailable
    else match ← await id q.channels q.accepts with
      | some s => return .sample s
      | none => return .timeout
  | _, _ => return .unavailable

/-! ### Answers -/

/-- Where cell metrics come from. -/
inductive MetricsSource where
  /-- There is nobody to ask. -/
  | unavailable
  /-- Nobody has answered. -/
  | timeout
  /-- The device. -/
  | live
deriving DecidableEq, Repr, Inhabited

/-- The name of a source. -/
def MetricsSource.name : MetricsSource → String
  | unavailable => "unavailable"
  | timeout => "timeout"
  | live => "live"

/-- How the cells of a battery differ. -/
structure CellMetrics where
  /-- The greatest difference of two voltages. -/
  voltage : Option Binary64 := none
  /-- The greatest difference of two temperatures. -/
  temperature : Option Binary64 := none
  /-- Where this comes from. -/
  source : MetricsSource
deriving DecidableEq, Inhabited

/-- The counts of the settings. -/
def Settings.fallbackDefaults (s : Settings) : SerialNumberDefaults :=
  { towers := s.defaultTowers, modules := s.defaultModules, source := .fallback }

/-- The serial number of the inverter in a sample. -/
def Sample.inverter (s : Sample) : Except NumberError (Option String) :=
  match Sample.value s inverterChannel with
  | .null | .str "" => .ok none
  | j => j.display.map some

namespace LiveAnswer

/-- **The counts to propose** after a question for them. -/
def toDefaults (settings : Settings) : LiveAnswer → Except NumberError SerialNumberDefaults
  | sample s => do
    let inverter ← Sample.inverter s
    return {
      towers := (Sample.value s towersChannel).countReading?.getD settings.defaultTowers
      modules := (Sample.value s modulesChannel).countReading?.getD settings.defaultModules
      inverter, source := .live }
  | _ => return settings.fallbackDefaults

/-- **The cell metrics** after a question for them. -/
def toMetrics : LiveAnswer → CellMetrics
  | unavailable => { source := .unavailable }
  | timeout => { source := .timeout }
  | sample s =>
    { voltage := (Sample.value s maxVoltageChannel).difference? (Sample.value s minVoltageChannel)
      temperature :=
        (Sample.value s maxTemperatureChannel).difference? (Sample.value s minTemperatureChannel)
      source := .live }

end LiveAnswer

section Asking

variable {m : Type → Type} [Monad m]

/-- **The counts to propose**: those of the device if it answers in time, else those of the
settings. -/
def Settings.resolveDefaults (settings : Settings)
    (await : Option (String → List String → (Sample → Bool) → m (Option Sample)))
    (edgeId : Option String) : m (Except NumberError SerialNumberDefaults) := do
  return (← LiveQuestion.counts.ask await edgeId).toDefaults settings

/-- **The cell metrics** of a device. -/
def readCellMetrics (await : Option (String → List String → (Sample → Bool) → m (Option Sample)))
    (edgeId : Option String) : m CellMetrics := do
  return (← LiveQuestion.cells.ask await edgeId).toMetrics

end Asking

end Commissioning
