import Commissioning.Assistant.Basic
import Commissioning.Field.Step
import Commissioning.Json.Height
import Commissioning.Json.Merge

/-!
# Operations on a session

What the wizard does with a session until its serial numbers are submitted: create and
abandon it, bind a device to it, choose its system, fill in data, and move through the
views. A view is left only when the data that it has collected are in order
(`Commissioning.checkStep`).
-/

namespace Commissioning

namespace Assistant

/-- **Creates a session** under a new identifier. -/
def createSession (id : String) (edge : Option Edge) : AssistantM Session := do
  let session : Session := { edge }
  save id session
  return session

/-- **Removes a session.** -/
def abandonSession (id : String) : AssistantM Unit := do
  let _ ← load id
  modify fun a => { a with store := a.store.clear id }

/-- **Binds a device to a session.** -/
def bindEdge (id : String) (edge : Edge) : AssistantM Session := do
  let session := { ← load id with edge := some edge }
  save id session
  return session

/-- The index at which a session goes on when its system is chosen: that of the same view,
or the nearest one that there is. -/
def mappedIndex (system : StorageSystem) (view : View) (index : Int) : Int :=
  match system.indexOf? view with
  | some i => i
  | none => min index (system.viewCount - 1)

/-- The session with its system chosen. -/
def withSystem (session : Session) (system : StorageSystem) : Except ViewError Session := do
  let view ← Session.viewAt session.system.views session.viewIndex
  return { session with system, viewIndex := mappedIndex system view session.viewIndex }

/-- **Chooses the system of a session.** A system that is chosen stays. -/
def selectSystem (id systemId : String) : AssistantM Session := do
  match (StorageSystem.ofId? systemId).filter (!·.isGeneral) with
  | none => throw (.unknownSystem systemId)
  | some system =>
    let session ← load id
    if session.system = system then return session
    else if !session.system.isGeneral then throw (.alreadySelected session.system)
    else
      let session ← ofExcept .noView (withSystem session system)
      save id session
      return session

/-- How many levels a patch may have. Like `Commissioning.Json.nestingLimit` this is no rule of
the wizard's own: its runtime allows 1000 calls inside each other, and a patch is copied with two
of them for each level, inside those that lead to an operation. Where more calls lead to it, a
patch may have fewer levels. -/
def patchLimit : Nat := 496

/-- **Lays a patch over the data of a session.** -/
def updateData (id : String) (patch : Members) : AssistantM Session := do
  let session ← load id
  if patchLimit < (Json.obj patch).height then throw .patchTooDeep
  let merged := Json.merge session.data.members patch
  match Installation.ofMembers .value merged with
  | .valid data =>
    let session := { session with data }
    save id session
    return session
  | .invalid issues => throw (.invalidData issues (.obj merged))

/-- **Leaves a view for the next one**, if its data are in order. -/
def advance (id : String) : AssistantM (NavigationResult × Session) := do
  let session ← load id
  let view ← ofExcept .noView session.currentView
  match ← ofExcept .unwritable (checkStep view session.system session.data) with
  | [] => navigate id session Navigator.advance
  | complaints => throw (.invalidFields complaints)

/-- **Goes back to the view before.** -/
def retreat (id : String) : AssistantM (NavigationResult × Session) := do
  navigate id (← load id) Navigator.retreat

/-- **Goes to the view at an index.** -/
def jumpTo (id : String) (index : Int) : AssistantM (NavigationResult × Session) := do
  navigate id (← load id) (Navigator.jumpTo index)

end Assistant

end Commissioning
