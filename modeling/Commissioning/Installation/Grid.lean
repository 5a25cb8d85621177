import Commissioning.Installation.Choice

/-!
# The side of the grid

How much may be fed in and how the inverter adjusts it, and the fuse between the meter
and the grid. The fuse is one of the usual ratings, or `Commissioning.otherRating`,
which stands for a rating given by itself; `Commissioning.LineSideMeterFuse.rating?` is
the rating that counts.
-/

namespace Commissioning

/-- How feeding in is limited. -/
structure FeedInLimitation where
  /-- How feeding in is adjusted to the grid. -/
  feedInSetting : FeedInSetting := .quEnableCurve
  /-- The power factor, if it is fixed. -/
  fixedPowerFactor : Option String := none
  /-- The greatest power that may be fed in. -/
  maximumFeedInPower : Option Int := none
deriving DecidableEq, Repr, Inhabited

namespace FeedInLimitation

/-- Reads a limitation off the members of an object. -/
def ofMembers (ms : Members) : Checked FeedInLimitation :=
  FeedInLimitation.mk
    <$> Intake.member "feed_in_setting" FeedInSetting.intake .quEnableCurve ms
    <*> Intake.member "fixed_power_factor" (Intake.optional Intake.text) none ms
    <*> Intake.member "maximum_feed_in_power" (Intake.optional Intake.integer) none ms

/-- Reads a limitation. -/
def intake : Intake FeedInLimitation := Intake.record "DynamicFeedInLimitation" ofMembers

/-- A limitation as a document. -/
def toJson (l : FeedInLimitation) : Json :=
  .obj [("feed_in_setting", l.feedInSetting.toJson),
    ("fixed_power_factor", Json.ofOptionStr l.fixedPowerFactor),
    ("maximum_feed_in_power", Json.ofOptionInt l.maximumFeedInPower)]

end FeedInLimitation

/-- The inverter of the battery. -/
structure BatteryInverter where
  /-- How feeding in is limited. -/
  feedInLimitation : FeedInLimitation := {}
deriving DecidableEq, Repr, Inhabited

namespace BatteryInverter

/-- Reads an inverter off the members of an object. -/
def ofMembers (ms : Members) : Checked BatteryInverter :=
  BatteryInverter.mk
    <$> Intake.member "dynamic_feed_in_limitation" FeedInLimitation.intake {} ms

/-- Reads an inverter. -/
def intake : Intake BatteryInverter := Intake.record "BatteryInverter" ofMembers

/-- An inverter as a document. -/
def toJson (b : BatteryInverter) : Json :=
  .obj [("dynamic_feed_in_limitation", b.feedInLimitation.toJson)]

end BatteryInverter

/-- The choice among the ratings that stands for a rating given by itself. -/
def otherRating : Int := -1

/-- The ratings that can be chosen. -/
def fuseRatings : List Int := [35, 40, 50, 63, 80, otherRating]

/-- The fuse between the meter and the grid. -/
structure LineSideMeterFuse where
  /-- The rating that is chosen. -/
  fixedValue : Option Int := none
  /-- The rating that is given by itself. -/
  otherValue : Option Int := none
deriving DecidableEq, Repr, Inhabited

namespace LineSideMeterFuse

/-- Reads a fuse off the members of an object. -/
def ofMembers (ms : Members) : Checked LineSideMeterFuse :=
  LineSideMeterFuse.mk <$> Intake.member "fixed_value" (Intake.optional Intake.integer) none ms
    <*> Intake.member "other_value" (Intake.optional Intake.integer) none ms

/-- Reads a fuse. -/
def intake : Intake LineSideMeterFuse := Intake.record "LineSideMeterFuse" ofMembers

/-- A fuse as a document. -/
def toJson (f : LineSideMeterFuse) : Json :=
  .obj [("fixed_value", Json.ofOptionInt f.fixedValue),
    ("other_value", Json.ofOptionInt f.otherValue)]

/-- The rating of the fuse: the one chosen, or the one given by itself if that is the
choice. -/
def rating? (f : LineSideMeterFuse) : Option Int :=
  if f.fixedValue = some otherRating then f.otherValue else f.fixedValue

end LineSideMeterFuse

end Commissioning
