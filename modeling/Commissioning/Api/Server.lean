import Commissioning.Api.Request
import Commissioning.Api.Response
import Commissioning.Api.Route
import Commissioning.Api.Target
import Commissioning.Assistant.Wizard
import Commissioning.Text.Capital
import Commissioning.Text.Encoding

/-!
# The server

The server (`Commissioning.Server`) answers one request after the other
(`Commissioning.Server.handle`). It first finds out what is asked for, then reads the
body, then looks whether it has an assistant at all, and only then whether body and
query are in order; the first of these that fails gives the answer.

One request is not answered at once: a submission, once begun, waits for the gateway
(`Commissioning.Progress.calling`), and `Commissioning.Server.resume` answers it when the
gateway has. Other requests may be handled in between.
-/

namespace Commissioning

/-- A request. -/
structure Request where
  /-- The method. -/
  method : String
  /-- Where it is sent. -/
  target : Target
  /-- The body; empty if there is none. -/
  body : String := ""
deriving Inhabited

/-- The server. -/
structure Server where
  /-- The assistant, if there is one. -/
  assistant : Option Assistant
  /-- How many sessions have been created. -/
  created : Nat := 0
  /-- How many protocols have been assembled for the gateway. -/
  called : Nat := 0
deriving Inhabited

/-- What the server meets outside. -/
structure Surroundings where
  /-- The broker. -/
  broker : Broker
  /-- The identifiers of sessions, in order of creation. -/
  sessionId : Nat → String
  /-- The identifiers of calls of the gateway, in order. -/
  requestId : Nat → String

/-- How far a request has got. -/
inductive Progress where
  /-- It is answered. -/
  | done (r : Response)
  /-- It waits for the gateway to answer. -/
  | calling (s : Submission) (request : GatewayRequest)
deriving Inhabited

namespace Server

/-! ### Reading a request -/

/-- What stands in a body. -/
inductive BodyContent where
  /-- Nothing. -/
  | nothing
  /-- A document. -/
  | document (j : Json)

/-- A body without the byte order mark in front. -/
def withoutMark (cs : List Char) : List Char :=
  match cs with
  | '\uFEFF' :: rest => rest
  | cs => cs

/-- The characters of a body, in whichever encoding its bytes are. -/
def bodyChars? (body : String) : Option (List Char) :=
  let bytes := body.toUTF8.toList
  match Text.Encoding.detect bytes with
  | .utf8 => some (withoutMark body.toList)
  | .utf16 order => Text.ofPairs order bytes
  | .utf32 order => Text.ofQuads order bytes

/-- The place of a body. -/
def bodyPlace : List Step := [.field "body"]

/-- The response to a body that cannot be read at all. -/
def undecodable : Response := .refusal 400 (.str "There was an error parsing the body")

/-- The response to a body that is no document. -/
def unreadable (cs : List Char) : Json.ReadError → Response
  | .malformed _ left =>
    .refusal 422 (.arr [Issue.toJson .body
      ⟨bodyPlace ++ [.index (Json.ReadError.offset cs left)], .notADocument⟩])
  | .beyond _ => undecodable

/-- What stands in the body of a request, or the response if it cannot be read. -/
def readBody (body : String) : Except Response BodyContent :=
  if body == "" then .ok .nothing
  else match bodyChars? body with
    | none => .error undecodable
    | some cs => match Json.readDocument cs with
      | .ok j => .ok (.document j)
      | .error e => .error (unreadable cs e)

/-- Reads a record off a body that must be there. -/
def required {α : Type} (read : Intake α) : BodyContent → Except Response α
  | .nothing => .error (.invalid .body bodyPlace .null [⟨[], .missing⟩])
  | .document j => match read j with
    | .valid a => .ok a
    | .invalid issues => .error (.invalid .body bodyPlace j issues)

/-- Reads a record off a body that may be absent. -/
def optional {α : Type} (read : Intake α) : BodyContent → Except Response (Option α)
  | .nothing | .document .null => .ok none
  | content => (required read content).map some

/-- A count of the query. -/
def countParameter (name : String) (ms : Members) : Checked (Option Int) :=
  Intake.member name (Intake.optional fun j =>
    (Intake.integer j).ensure (1 ≤ ·) (.below "1")) none ms

/-- The two counts of the query. -/
def counts (query : Assoc String String) : Except Response (Option Int × Option Int) :=
  let ms : Members := query.map fun p => (p.1, .str p.2)
  match Prod.mk <$> countParameter "number_of_towers" ms
      <*> countParameter "number_of_modules_per_tower" ms with
  | .valid r => .ok r
  | .invalid issues => .error (.invalid .body [.field "query"] (.obj ms) issues)

/-! ### Answering a request -/

/-- A request that is answered. -/
def answered (r : Response × Server) : Progress × Server := (.done r.1, r.2)

/-- The response without an assistant. -/
def unavailable : Response := .refusal 503 (.str "Installation service is not initialized")

/-- Runs an operation of the assistant and answers with what it gives. -/
def run {α : Type} (server : Server) (a : Assistant) (op : AssistantM α)
    (answer : Assistant → α → Except AssistantError Response) : Response × Server :=
  match op a with
  | .ok result a => match answer a result with
    | .ok r => (r, { server with assistant := some a })
    | .error e => (e.toResponse, { server with assistant := some a })
  | .error e a => (e.toResponse, { server with assistant := some a })

/-- Answers with the state of a session. -/
def answerState (id : String) (a : Assistant) (s : Session) : Except AssistantError Response :=
  (s.stateJson id (a.isSubmitting id)).map .ok

/-- Answers with a move of the wizard. -/
def answerMove (id : String) (a : Assistant) (r : NavigationResult × Session) :
    Except AssistantError Response :=
  (r.1.toJson r.2 id (a.isSubmitting id)).map .ok

/-- Creates a session. -/
def create (env : Surroundings) (server : Server) (a : Assistant) (edge : Option Edge) :
    Response × Server :=
  let id := env.sessionId server.created
  { server with created := server.created + 1 }.run a (Assistant.createSession id edge)
    fun a s => return { ← answerState id a s with status := 201 }

/-- Goes on with a submission for which the gateway has answered. -/
def conclude (server : Server) (s : Submission) (answer : Except GatewayError String) :
    Response × Server :=
  match server.assistant with
  | none => (unavailable, server)
  | some a => server.run a (Assistant.endSubmission s answer) fun a r =>
      (r.toJson s.id (a.isSubmitting s.id)).map .ok

/-- Begins a submission, up to the call of the gateway. -/
def submit (env : Surroundings) (server : Server) (a : Assistant) (id : String)
    (r : SubmitRequest) : Progress × Server :=
  match Assistant.beginSubmission id r.settings r.towers a with
  | .error e a => (.done e.toResponse, { server with assistant := some a })
  | .ok s a =>
    let server := { server with assistant := some a, called := server.called + 1 }
    match a.gateway.request (env.requestId (server.called - 1)) s.protocol with
    | .ok request => (.calling s request, server)
    | .error e => answered (server.conclude s (.error e))

/-- What the server reports about itself. -/
def status (server : Server) : Json :=
  let settings := server.assistant.map Assistant.settings
  let setting (read : Settings → Json) : Json := (settings.map read).getD .null
  let hasDatabase := settings.any fun s => s.sessionStore == .database
  .obj [("status", .str "working"), ("service", .str "installation-assistant"),
    ("db", .obj (("enabled", .bool hasDatabase) ::
      if hasDatabase then [("ok", .bool true)] else [])),
    ("installation", match server.assistant with
      | some a => .obj (("available", .bool true) :: a.status)
      | none => .obj [("available", .bool false),
          ("error", .str "Installation service not initialized")]),
    ("live_data", match server.assistant.bind Assistant.feed with
      | some feed => feed.status
      | none => .obj [("connected", .bool false),
          ("error", .str "Live data feed not initialized")]),
    ("config", .obj [("session_store", setting fun s => .str s.sessionStore.name),
      ("live_data_timeout_seconds", setting fun s => .float s.liveDataTimeout),
      ("backend_base_url", setting fun s => .str s.gatewayBaseUrl),
      ("mqtt_broker_host", setting fun s => .str s.brokerHost),
      ("mqtt_broker_port", setting fun s => .int s.brokerPort)])]

/-- Reads something off a request and goes on with it. -/
def reading {α : Type} (server : Server) (r : Except Response α)
    (next : α → Response × Server) : Response × Server :=
  match r with
  | .ok a => next a
  | .error response => (response, server)

/-- The answer to a request for a report. -/
def report (server : Server) : Report → Response
  | .health => .ok (.obj [("status", .str "ok"), ("service", .str "installation-assistant")])
  | .status => .ok server.status
  | .systems => .ok (.arr (StorageSystem.selectable.map StorageSystem.toJson))

/-- The name under which the server describes itself. -/
def title : String := "Installation Assistant Backend"

/-- The answer to a request for a page of the manual. Only the name of the server is given:
the pages themselves are not made here. -/
def manual : Manual → Response
  | .description => .ok (.obj [("info", .obj [("title", .str title)])])
  | .explorer | .signIn | .reference => ⟨200, .text title⟩

/-- Answers a request about a session without a body. -/
def answerPlain (env : Surroundings) (server : Server) (a : Assistant)
    (query : Assoc String String) (id : String) : PlainAction → Response × Server
  | .read => server.run a (Assistant.session id) (answerState id)
  | .abandon => server.run a (Assistant.abandonSession id) fun _ _ => return ⟨204, .empty⟩
  | .advance => server.run a (Assistant.advance id) (answerMove id)
  | .retreat => server.run a (Assistant.retreat id) (answerMove id)
  | .serialNumberForm =>
    server.reading (counts query) fun c =>
      server.run a (Assistant.serialNumberForm env.broker id c.1 c.2) fun _ schema =>
        return .ok schema.toJson
  | .previewProtocol =>
    server.run a (Assistant.previewProtocol id) fun _ p => return .ok p.toJson
  | .cellMetrics =>
    server.run a (Assistant.cellMetrics env.broker id) fun _ m => return .ok m.toJson

/-- Answers a request about a session with a body. -/
def answerBody (env : Surroundings) (server : Server) (a : Assistant) (content : BodyContent)
    (id : String) : BodyAction → Progress × Server
  | .bindEdge => answered <|
    server.reading (required Edge.intake content) fun edge =>
      server.run a (Assistant.bindEdge id edge) (answerState id)
  | .selectSystem => answered <|
    server.reading (required SelectSystemRequest.intake content) fun r =>
      server.run a (Assistant.selectSystem id r.systemId) (answerState id)
  | .updateData => answered <|
    server.reading (required Intake.object content) fun patch =>
      server.run a (Assistant.updateData id patch) (answerState id)
  | .jump => answered <|
    server.reading (required JumpRequest.intake content) fun r =>
      server.run a (Assistant.jumpTo id r.index) (answerMove id)
  | .appPayload => answered <|
    server.reading (required AppPayloadRequest.intake content) fun r =>
      server.run a (Assistant.appPayload id r.country r.setting) fun _ p => return .ok p.toJson
  | .submit => match required SubmitRequest.intake content with
    | .ok r => server.submit env a id r
    | .error response => (.done response, server)

/-- Goes on with the assistant, if there is one. -/
def withAssistant (server : Server) (next : Assistant → Progress × Server) : Progress × Server :=
  match server.assistant with
  | some a => next a
  | none => (.done unavailable, server)

/-- Goes on with the body of a request and the assistant. -/
def withBody (server : Server) (r : Request)
    (next : Assistant → BodyContent → Progress × Server) : Progress × Server :=
  match readBody r.body with
  | .ok content => server.withAssistant fun a => next a content
  | .error response => (.done response, server)

/-- The response as it is sent back for a method: to some, without a body. -/
def forMethod (method : String) (r : Response) : Response :=
  if method = "HEAD" then { r with body := .empty } else r

/-- Answers a request for something that there is. -/
def handleEndpoint (env : Surroundings) (server : Server) (r : Request) (method : String) :
    Endpoint → Progress × Server
  | .report what => (.done (server.report what), server)
  | .manual page => (.done (forMethod method (manual page)), server)
  | .createSession =>
    server.withBody r fun a content => answered <|
      server.reading (optional CreateSessionRequest.intake content) fun body =>
        server.create env a (body.bind CreateSessionRequest.edge)
  | .plain id action =>
    server.withAssistant fun a => answered (server.answerPlain env a r.target.query id action)
  | .body id action =>
    server.withBody r fun a content => server.answerBody env a content id action

/-- **Answers a request**, or begins to. -/
def handle (env : Surroundings) (server : Server) (r : Request) : Progress × Server :=
  let method := String.ofList (Text.capitals r.method.toList)
  let refused (response : Response) := (Progress.done (forMethod method response), server)
  match Endpoint.find method r.target.path with
  | .found e => server.handleEndpoint env r method e
  | .wrongMethod => refused (.refusal 405 (.str "Method Not Allowed"))
  | .moved => refused ⟨307, .empty⟩
  | .nothing => refused (.refusal 404 (.str "Not Found"))

/-- **Answers a request for which the gateway was called.** -/
def resume (server : Server) (s : Submission) (x : Exchange) : Response × Server :=
  server.conclude s x.protocolId

/-! ### Starting -/

/-- Why a server cannot be started. -/
inductive StartError where
  /-- There are issues with the settings. -/
  | settings (issues : List Issue)
  /-- There is no such severity of messages. -/
  | severity (name : String)
  /-- There is no store. -/
  | store (why : StoreError)
  /-- The address of the gateway has a fault. -/
  | gateway (why : AddressError)

/-- The wording of an error. -/
def StartError.message : StartError → String
  | .settings _ => ""
  | .severity name => s!"Unknown level: {Text.quoted name}"
  | .store why => why.message
  | .gateway why => why.message

/-- The gateway of settings. -/
def gatewayOf (s : Settings) : Except StartError Gateway :=
  (Gateway.atPath s.gatewayBaseUrl s.gatewayPath (.float s.gatewayTimeout)).mapError .gateway

/-- **The server that an environment asks for**, where there is a database if need be. -/
def start (environment : List (String × String)) : Except StartError Server := do
  let settings ← (Settings.ofEnvironment environment).toExcept.mapError .settings
  if !settings.hasSeverity then throw (.severity settings.severity)
  let store ← (settings.openStore true).mapError .store
  let gateway ← gatewayOf settings
  let feed := (Feed.create settings).start
  return { assistant := some { settings, store, gateway, feed := some feed } }

end Server

end Commissioning
