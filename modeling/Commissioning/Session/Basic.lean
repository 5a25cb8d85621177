import Commissioning.Installation.Basic
import Commissioning.Installation.Edge
import Commissioning.Number.Conversion
import Commissioning.StorageSystem.Basic

/-!
# Sessions

A session of the wizard (`Commissioning.Session`): the system, the data collected so
far, the device, and where the wizard stands among the views of the system. The index
that follows the last view is where a finished session stands. Nothing in the type keeps
an index from being out of bounds: loading and navigating do
(`Commissioning.Session.load`, `Commissioning.Navigator`).

A negative index counts views from the end, as far as there are any.
-/

namespace Commissioning

/-- A session of the wizard. -/
structure Session where
  /-- The system that is being installed. -/
  system : StorageSystem := .general
  /-- The data collected so far. -/
  data : Installation := {}
  /-- Where the wizard stands. -/
  viewIndex : Int := 0
  /-- The device, once one is bound to the session. -/
  edge : Option Edge := none
deriving DecidableEq, Inhabited

/-- Why there is no view at an index. -/
inductive ViewError where
  /-- There are fewer views. -/
  | outOfRange
  /-- No list has an index of that size. -/
  | oversized
deriving DecidableEq, Repr

/-- The wording of an error. -/
def ViewError.message : ViewError → String
  | .outOfRange => "tuple index out of range"
  | .oversized => "cannot fit 'int' into an index-sized integer"

namespace Session

/-- The number of views. -/
def viewCount (s : Session) : Nat := s.system.viewCount

/-- The identifier of the device. -/
def edgeId? (s : Session) : Option String := s.edge.map Edge.id

/-- Whether the wizard is past the last view. -/
def isFinished (s : Session) : Bool := s.viewIndex == s.viewCount

/-- The view at an index, from the end if the index is negative. -/
def viewAt (views : List View) (index : Int) : Except ViewError View :=
  if index < -(2 ^ 63) then .error .oversized
  else
    let place := if index < 0 then index + views.length else index
    if place < 0 then .error .outOfRange
    else match views[place.toNat]? with
      | some v => .ok v
      | none => .error .outOfRange

/-- **The view where the wizard stands**; none past the last one. -/
def currentView (s : Session) : Except ViewError (Option View) :=
  if s.viewIndex ≥ s.viewCount then .ok none
  else (viewAt s.system.views s.viewIndex).map some

/-- How far the wizard has come, from zero at the first view to one at the last. -/
def progress (s : Session) : Binary64 :=
  if 1 < s.viewCount then
    .ofRatio (min s.viewIndex (s.viewCount - 1)) (s.viewCount - 1)
  else .zero false

/-- The text of how far the wizard has come. -/
def progressText (s : Session) : Except NumberError String := do
  let step ← Number.text (.int (s.viewIndex + 1))
  return s!"Schritt {step} von {s.viewCount}"

end Session

end Commissioning
