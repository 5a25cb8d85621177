import Commissioning.Session.Codec

/-!
# Moving through a session

A navigator (`Commissioning.Navigator`) holds a session in hand and the store in which
it is kept. Each accepted move is written to the store at once. Moving past the last
view finishes the session: its entries are removed, and the device is handed off, which
happens at that moment only.

A move that is out of bounds is an error, except for a jump, which answers that it was
not accepted. Either answer names the index, so an index that is too long to be written is
an error of its own.
-/

namespace Commissioning

/-- Where a finished installation is shown. -/
structure HandOff where
  /-- The device. -/
  edgeId : Option String
  /-- The route of its page. -/
  route : String
deriving DecidableEq, Repr, Inhabited

/-- The route of the page of a device, or of the start page. -/
def deviceRoute : Option String → String
  | some id => if id == "" then "/index" else s!"/device/{id}/live"
  | none => "/index"

/-- The answer to a move. -/
structure NavigationResult where
  /-- Whether the move was made. -/
  accepted : Bool
  /-- Where the wizard stands now. -/
  viewIndex : Int
  /-- Whether this move has finished the session. -/
  finished : Bool := false
  /-- Where the finished installation is shown. -/
  handOff : Option HandOff := none
  /-- Why the move was not made. -/
  error : Option String := none
deriving DecidableEq, Repr, Inhabited

/-- Why a move fails. -/
inductive NavigationError where
  /-- There is no view at the index. -/
  | outOfBounds (index : Int) (viewCount : Nat)
  /-- The session cannot be written, or the answer not be worded. -/
  | unwritable (why : NumberError)
deriving DecidableEq, Repr

/-- The wording of an error. -/
def NavigationError.message : NavigationError → String
  | .outOfBounds index viewCount => s!"view index {index} is out of bounds for {viewCount} views"
  | .unwritable why => why.message

/-- A session in hand, and the store in which it is kept. -/
structure Navigator where
  /-- The session. -/
  session : Session
  /-- The identifier under which it is kept. -/
  id : String
  /-- The store. -/
  store : SessionStore
  /-- The hand-offs so far. -/
  handOffs : List HandOff := []
deriving Inhabited

namespace Navigator

/-- What is done with a navigator; what has been done before an error stays done. -/
abbrev Move := EStateM NavigationError Navigator NavigationResult

/-- The navigator with the wizard at an index. -/
def setIndex (n : Navigator) (index : Int) : Navigator :=
  { n with session := { n.session with viewIndex := index } }

/-- Writes the session and accepts the move. -/
def persist : Move := fun n =>
  match n.session.save n.id n.store with
  | .ok () store =>
    .ok { accepted := true, viewIndex := n.session.viewIndex } { n with store }
  | .error e store => .error (.unwritable e) { n with store }

/-- Removes the entries of the session and hands the device off. -/
def finish : Move := fun n =>
  let handOff : HandOff := ⟨n.session.edgeId?, deviceRoute n.session.edgeId?⟩
  .ok { accepted := true, viewIndex := n.session.viewIndex, finished := true,
        handOff := some handOff }
    { n with store := n.store.clear n.id, handOffs := n.handOffs ++ [handOff] }

/-- Refuses to move to an index at which there is no view. -/
def refuse (index : Int) : Move := do
  match Number.text (.int index) with
  | .ok _ => throw (.outOfBounds index (← get).session.viewCount)
  | .error e => throw (.unwritable e)

/-- **Moves one view on.** -/
def advance : Move := do
  let n ← get
  if n.session.isFinished then refuse (n.session.viewIndex + 1)
  else
    let next := n.setIndex (n.session.viewIndex + 1)
    set next
    if next.session.isFinished then finish else persist

/-- **Moves one view back.** -/
def retreat : Move := do
  let n ← get
  if n.session.viewIndex ≤ 0 || n.session.isFinished then refuse (n.session.viewIndex - 1)
  else
    set (n.setIndex (n.session.viewIndex - 1))
    persist

/-- The answer to a jump that is not made. -/
def reject (index : Int) : Move := do
  match Number.text (.int index) with
  | .ok text =>
    return { accepted := false, viewIndex := (← get).session.viewIndex,
             error := some s!"view index {text} is out of bounds" }
  | .error e => throw (.unwritable e)

/-- **Moves to the view at an index.** -/
def jumpTo (index : Int) : Move := do
  let n ← get
  if n.session.isFinished || !(0 ≤ index && index < n.session.viewCount) then reject index
  else
    set (n.setIndex index)
    persist

end Navigator

end Commissioning
