import Commissioning.Assistant.Inquiry
import Commissioning.Assistant.Submission

/-!
# Bodies of responses

The documents that requests are answered with. A double that is infinite or not a number
cannot be transmitted: in an answer it becomes the absent value
(`Commissioning.Json.transmissible`). Neither can a torn text; no answer has one, but a value
that a refusal names may be one (`Commissioning.Json.isTransmissible`).
-/

namespace Commissioning

namespace Json

mutual

/-- The document with the doubles that cannot be transmitted made absent. -/
def transmissible : Json → Json
  | .float x => if x.isFinite then .float x else .null
  | .arr items => .arr (transmissibleItems items)
  | .obj members => .obj (transmissibleMembers members)
  | j => j

/-- The items with the doubles that cannot be transmitted made absent. -/
def transmissibleItems : List Json → List Json
  | [] => []
  | j :: js => transmissible j :: transmissibleItems js

/-- The members with the doubles that cannot be transmitted made absent. -/
def transmissibleMembers : List (String × Json) → List (String × Json)
  | [] => []
  | (name, j) :: ms => (name, transmissible j) :: transmissibleMembers ms

end

mutual

/-- Whether all doubles and all texts of a document can be transmitted. -/
def isTransmissible : Json → Bool
  | .float x => x.isFinite
  | .torn _ => false
  | .arr items => areTransmissible items
  | .obj members => haveTransmissible members
  | _ => true

/-- Whether all doubles and all texts of some items can be transmitted. -/
def areTransmissible : List Json → Bool
  | [] => true
  | j :: js => isTransmissible j && areTransmissible js

/-- Whether all doubles and all texts of some members can be transmitted. -/
def haveTransmissible : List (String × Json) → Bool
  | [] => true
  | (_, j) :: ms => isTransmissible j && haveTransmissible ms

end

end Json

/-- The body of a response. -/
inductive Body where
  /-- A document. -/
  | document (j : Json)
  /-- A text. -/
  | text (s : String)
  /-- Nothing. -/
  | empty
deriving Inhabited

/-- A response. -/
structure Response where
  /-- The status. -/
  status : Nat
  /-- The body. -/
  body : Body
deriving Inhabited

namespace Response

/-- A response with a document. -/
def ok (j : Json) : Response := ⟨200, .document j.transmissible⟩

/-- The response to a request that has failed in no orderly way. -/
def internalError : Response := ⟨500, .text "Internal Server Error"⟩

/-- A response with a status and a detail. -/
def refusal (status : Nat) (detail : Json) : Response :=
  ⟨status, .document (.obj [("detail", detail)])⟩

end Response

/-! ### Issues -/

/-- A step as a document. -/
def Step.toJson : Step → Json
  | .field name => .str name
  | .index n => .int n

namespace Issue

/-- An issue as a document. -/
def toJson (channel : Channel) (i : Issue) : Json :=
  .obj [("loc", .arr (i.path.map Step.toJson)), ("type", .str (i.cause.kind channel)),
    ("msg", .str (i.cause.message channel))]

/-- The value that an issue is about; for a missing member, what it is missing from. -/
def subject? (document : Json) (i : Issue) : Option Json :=
  match i.cause with
  | .missing => document.at? i.path.dropLast
  | _ => document.at? i.path

end Issue

namespace Response

/-- The response to a request with issues. It names the values that they are about, and
fails if one of them cannot be transmitted. -/
def invalid (channel : Channel) (place : List Step) (document : Json) (issues : List Issue) :
    Response :=
  if issues.all fun i => ((i.subject? document).map Json.isTransmissible).getD true then
    refusal 422 (.arr (issues.map fun i => Issue.toJson channel ⟨place ++ i.path, i.cause⟩))
  else internalError

end Response

/-! ### Documents -/

namespace StorageSystem

/-- A system as a document. -/
def toJson (s : StorageSystem) : Json :=
  .obj [("id", .str s.id), ("label", .str s.label), ("app_id", .str s.appId),
    ("app_alias", .str s.appAlias),
    ("min_number_of_modules_per_tower", .int s.minModulesPerTower),
    ("max_number_of_modules_per_tower", .int s.maxModulesPerTower),
    ("max_number_of_towers", .int s.maxTowers), ("max_number_of_pv_strings", .int s.maxPvStrings),
    ("max_number_of_mppt", .int s.maxMppt), ("views", .arr (s.views.map fun v => .str v.name))]

end StorageSystem

namespace Session

/-- A session as a document. -/
def stateJson (s : Session) (id : String) (submitting : Bool) : Except AssistantError Json := do
  let view ← s.currentView.mapError .noView
  let text ← s.progressText.mapError .unwritable
  return .obj [("session_id", .str id), ("system", s.system.toJson),
    ("view_index", .int s.viewIndex), ("view_count", .int s.viewCount),
    ("current_view", Json.ofOptionStr (view.map View.name)), ("progress", .float s.progress),
    ("progress_text", .str text), ("edge", (s.edge.map Edge.toJson).getD .null),
    ("data", s.data.toJson), ("submitting", .bool submitting)]

end Session

namespace NavigationResult

/-- A move as a document: where it leads, or the session after it. -/
def toJson (r : NavigationResult) (s : Session) (id : String) (submitting : Bool) :
    Except AssistantError Json := do
  if r.finished then
    return .obj [("accepted", .bool r.accepted), ("finished", .bool true),
      ("redirect", Json.ofOptionStr (r.handOff.map HandOff.route)), ("error", .null),
      ("state", .null)]
  else
    let state ← s.stateJson id submitting
    return .obj [("accepted", .bool r.accepted), ("finished", .bool false), ("redirect", .null),
      ("error", Json.ofOptionStr r.error), ("state", state)]

end NavigationResult

namespace SubmissionResult

/-- What comes of a submission as a document. -/
def toJson (r : SubmissionResult) (id : String) (submitting : Bool) :
    Except AssistantError Json := do
  let navigation ← r.navigation.toJson r.session id submitting
  return .obj [("protocol_id", Json.ofOptionStr r.protocolId),
    ("notification", .obj [("level", .str r.level), ("message", .str r.message)]),
    ("navigation", navigation)]

end SubmissionResult

namespace Field

/-- A bound as a document. -/
def boundJson (n : Option Number) : Json :=
  match n.map Number.toBinary64 with
  | some (.ok x) => .float x
  | _ => .null

/-- A field as a document. -/
def toJson (f : Field) : Json :=
  .obj [("key", .str f.key), ("label", .str f.label), ("value_type", .str f.valueType.name),
    ("required", .bool f.required), ("default", f.default), ("minimum", boundJson f.minimum),
    ("maximum", boundJson f.maximum), ("pattern", Json.ofOptionStr (f.pattern.map Pattern.text)),
    ("options", (f.options.map Json.arr).getD .null)]

end Field

namespace SerialNumberSchema

/-- The form for serial numbers as a document. -/
def toJson (schema : SerialNumberSchema) : Json :=
  .obj [("number_of_towers", .int schema.defaults.towers),
    ("number_of_modules_per_tower", .int schema.defaults.modules),
    ("defaults_source", .str schema.defaults.source.name),
    ("settings", .arr (schema.settings.map Field.toJson)),
    ("towers", .obj (schema.towers.map fun t =>
      (toString t.1.number, .arr (t.2.map Field.toJson))))]

end SerialNumberSchema

namespace AppPayload

/-- The settings of the app as a document. -/
def toJson (p : AppPayload) : Json :=
  .obj [("app_id", .str p.appId), ("alias", .str p.label), ("properties", .obj p.properties)]

end AppPayload

namespace CellMetrics

/-- Cell metrics as a document. -/
def toJson (m : CellMetrics) : Json :=
  .obj [("cell_voltage_difference", Json.ofOptionFloat m.voltage),
    ("cell_temperature_difference", Json.ofOptionFloat m.temperature),
    ("source", .str m.source.name)]

end CellMetrics

/-- Complaints as a document. -/
def Complaints.toJson (complaints : Complaints) : Json :=
  .obj (complaints.map fun c => (c.1, .str c.2.text))

/-! ### Errors -/

namespace AssistantError

/-- **The response to a request that the assistant has refused.** -/
def toResponse (e : AssistantError) : Response :=
  match e with
  | .sessionNotFound _ => .refusal 404 (.str e.message)
  | .unknownSystem _ => .refusal 400 (.str e.message)
  | .invalidFields complaints =>
    .refusal 422 (.obj [("message", .str e.message), ("field_errors", complaints.toJson)])
  | .invalidData issues document => .invalid .value [] document issues
  | .alreadySelected _ | .mismatch _ | .submissionRunning | .navigation (.outOfBounds ..) =>
    .refusal 409 (.str e.message)
  | _ => .internalError

end AssistantError

end Commissioning
