import Commissioning.Installation.Choice
import Commissioning.Installation.Edge
import Commissioning.SerialNumber.Collect

/-!
# Bodies of requests

The records that requests carry. Each is read like the records of an installation; a
filled-in form for serial numbers also has numbers as keys, which are read like any
other number (`Commissioning.Intake.byNumber`).
-/

namespace Commissioning

namespace Intake

/-- A member under a number: the number and the value, whose issues both count. -/
def numbered {α : Type} (read : Intake α) (name : String) (j : Json) : Checked (Int × α) :=
  Prod.mk <$> ((integer (.str name)).under (.field "[key]")).under (.field name)
    <*> (read j).under (.field name)

/-- The members of an object, each under a number. -/
def numberedMembers {α : Type} (read : Intake α) :
    List (String × Json) → Checked (List (Int × α))
  | [] => .valid []
  | (name, j) :: rest => (· :: ·) <$> numbered read name j <*> numberedMembers read rest

/-- An object with numbers as keys; of several members with one number the last counts. -/
def byNumber {α : Type} (read : Intake α) : Intake (Assoc Int α)
  | .obj members => (numberedMembers read members).map Assoc.ofList
  | _ => .fault .notAnObject

end Intake

/-- A request to create a session. -/
structure CreateSessionRequest where
  /-- The device to bind to it. -/
  edge : Option Edge := none
deriving DecidableEq, Repr, Inhabited

namespace CreateSessionRequest

/-- Reads a request to create a session. -/
def intake : Intake CreateSessionRequest :=
  Intake.record "CreateSessionRequest" fun ms =>
    CreateSessionRequest.mk <$> Intake.member "edge" (Intake.optional Edge.intake) none ms

/-- A request as a document. -/
def toJson (r : CreateSessionRequest) : Json :=
  .obj [("edge", (r.edge.map Edge.toJson).getD .null)]

end CreateSessionRequest

/-- A request to choose a system. -/
structure SelectSystemRequest where
  /-- The identifier of the system. -/
  systemId : String
deriving DecidableEq, Repr, Inhabited

namespace SelectSystemRequest

/-- Reads a request to choose a system. -/
def intake : Intake SelectSystemRequest :=
  Intake.record "SelectSystemRequest" fun ms =>
    SelectSystemRequest.mk <$> Intake.required "system_id" (Intake.textWithin 1 64) ms

/-- A request as a document. -/
def toJson (r : SelectSystemRequest) : Json := .obj [("system_id", .str r.systemId)]

end SelectSystemRequest

/-- A request to go to a view. -/
structure JumpRequest where
  /-- The index of the view. -/
  index : Int
deriving DecidableEq, Repr, Inhabited

namespace JumpRequest

/-- Reads a request to go to a view. -/
def intake : Intake JumpRequest :=
  Intake.record "JumpRequest" fun ms => JumpRequest.mk <$> Intake.required "index" Intake.integer ms

/-- A request as a document. -/
def toJson (r : JumpRequest) : Json := .obj [("index", .int r.index)]

end JumpRequest

/-- A request to submit serial numbers. -/
structure SubmitRequest where
  /-- The counts. -/
  settings : Members := []
  /-- The values tower by tower. -/
  towers : TowerValues := []
deriving Inhabited

namespace SubmitRequest

/-- Reads a request to submit serial numbers. -/
def intake : Intake SubmitRequest :=
  Intake.record "SerialNumbersSubmitRequest" fun ms =>
    SubmitRequest.mk <$> Intake.member "settings" Intake.object [] ms
      <*> Intake.member "towers" (Intake.byNumber Intake.object) [] ms

end SubmitRequest

/-- A request for the settings of the app. -/
structure AppPayloadRequest where
  /-- The country whose safety rules apply. -/
  country : SafetyCountry
  /-- How feeding in is adjusted, if not as in the data. -/
  setting : Option FeedInSetting := none
deriving DecidableEq, Repr, Inhabited

namespace AppPayloadRequest

/-- Reads a request for the settings of the app. -/
def intake : Intake AppPayloadRequest :=
  Intake.record "AppPayloadRequest" fun ms =>
    AppPayloadRequest.mk <$> Intake.required "safety_country" SafetyCountry.intake ms
      <*> Intake.member "feed_in_setting" (Intake.optional FeedInSetting.intake) none ms

/-- A request as a document. -/
def toJson (r : AppPayloadRequest) : Json :=
  .obj [("safety_country", r.country.toJson),
    ("feed_in_setting", (r.setting.map FeedInSetting.toJson).getD .null)]

end AppPayloadRequest

end Commissioning
