import Commissioning.Gateway.Address
import Commissioning.Json.Reader
import Commissioning.Number.Conversion
import Commissioning.Protocol.Basic
import Commissioning.Text.Utf8

/-!
# The gateway

Setup protocols are archived by a gateway, which is called over HTTP with one JSON
document in each direction. `Commissioning.Gateway.request` is what is sent,
`Commissioning.Exchange` is what can come of it, and `Commissioning.Exchange.protocolId`
reads the identifier of the archived protocol off it.

A call fails in an orderly way (`Commissioning.GatewayError.rejected`), with a status and
a detail, whenever the gateway cannot be reached or does not answer with an identifier.
The other errors are of another kind: the address of the gateway has no scheme or a fault,
the body of an error response breaks off, or an answer is a document beyond measure.
-/

namespace Commissioning

/-- How the connection to the gateway fails. -/
inductive Failure where
  /-- The gateway cannot be reached. -/
  | unreachable (reason : String)
  /-- It does not answer in time. -/
  | timedOut (text : String)
  /-- The connection breaks: the name of the fault, and what is known about it. -/
  | broken (name text : String)
deriving DecidableEq, Repr

namespace Failure

/-- The wording of a failure. -/
def message : Failure → String
  | unreachable reason => s!"<urlopen error {reason}>"
  | timedOut text => text
  | broken _ text => text

end Failure

/-- What comes of a request. -/
inductive Exchange where
  /-- A response: its status, its content type, and its body as far as it can be read. -/
  | response (status : Int) (contentType : Option String) (body : Except Failure (List UInt8))
  /-- An error response: its status, and its body as far as it can be read. -/
  | errorResponse (status : Int) (body : Except Failure (List UInt8))
  /-- No response. -/
  | failed (why : Failure)

/-- Why a call of the gateway fails. -/
inductive GatewayError where
  /-- The gateway is not reached, or does not do what it is asked. -/
  | rejected (status : Int) (detail : String)
  /-- The address does not say how it is reached. -/
  | unknownKind (address : String)
  /-- The address has a fault. -/
  | address (why : AddressError)
  /-- The body of an error response cannot be read. -/
  | unreadBody (why : Failure)
  /-- The answer is a document beyond measure. -/
  | excess (what : Json.Excess)
  /-- A value of the answer has no text. -/
  | unwritable (why : NumberError)
deriving DecidableEq, Repr

namespace GatewayError

/-- The wording of an error. -/
def message : GatewayError → String
  | .rejected status detail => s!"Backend API error {status}: {detail}"
  | .unknownKind name => s!"unknown url type: {Text.quoted name}"
  | .address why => why.message
  | .unreadBody why => why.message
  | .excess what => what.message
  | .unwritable why => why.message

end GatewayError

/-! ### Requests -/

/-- The gateway: where it is called, and how long it is waited for. -/
structure Gateway where
  /-- The address of calls. -/
  url : String
  /-- How many seconds to wait. -/
  timeout : Number
deriving DecidableEq, Inhabited

/-- The procedure that archives a protocol. -/
def archiveMethod : String := "submitSetupProtocol"

/-- The member of the result that holds the identifier. -/
def protocolIdKey : String := "setupProtocolId"

/-- A request to the gateway. -/
structure GatewayRequest where
  /-- The address. -/
  url : String
  /-- The document that is sent. -/
  payload : Json
  /-- How many seconds to wait. -/
  timeout : Number
  /-- The method. -/
  method : String := "POST"
  /-- The headers. -/
  headers : List (String × String) := [("content-type", "application/json")]
deriving Inhabited

namespace Gateway

/-- The gateway at a path under a base address. -/
def atPath (baseUrl path : String) (timeout : Number) : Except AddressError Gateway := do
  let base := Text.dropAtEnd '/' baseUrl.toList ++ ['/']
  let url ← Address.resolve base (path.toList.dropWhile (· == '/'))
  return ⟨String.ofList url, timeout⟩

/-- **The request that archives a protocol.** -/
def request (g : Gateway) (id : String) (p : SetupProtocol) :
    Except GatewayError GatewayRequest :=
  let (address, hasKind) := Address.ofRequest g.url.toList
  if !hasKind then .error (.unknownKind (String.ofList address))
  else match Address.check address with
    | .error why => .error (.address why)
    | .ok () =>
      .ok { url := String.ofList address
            payload := .obj [("jsonrpc", .str "2.0"), ("id", .str id),
              ("method", .str archiveMethod), ("params", .obj [("protocol", p.toJson)])]
            timeout := g.timeout }

end Gateway

/-! ### Answers -/

namespace Exchange

/-- The text of a body. -/
def bodyText (bytes : List UInt8) : String := String.ofList (Text.ofBytes bytes)

/-- An orderly failure for a connection that breaks. -/
def rejectedBy : Failure → GatewayError
  | .unreachable reason => .rejected 503 (Failure.unreachable reason).message
  | .timedOut text => .rejected 504 text
  | .broken name text => .rejected 502 (if text == "" then name else text)

/-- Status and content type and body of a response, or the error for another outcome. -/
def answer : Exchange → Except GatewayError (Int × String × String)
  | response status contentType (.ok bytes) =>
    .ok (status, contentType.getD "", bodyText bytes)
  | response _ _ (.error why) => .error (rejectedBy why)
  | errorResponse status (.ok bytes) => .error (.rejected status (bodyText bytes))
  | errorResponse _ (.error why) => .error (.unreadBody why)
  | failed why => .error (rejectedBy why)

/-- Whether a content type is that of a JSON document. -/
def isJson (contentType : String) : Bool :=
  Text.occursIn "application/json".toList (contentType.toList.map Char.toLower)

/-- The document of a body; an empty body counts as an empty object. -/
def document (body : String) : Except GatewayError Json :=
  if body == "" then .ok (.obj [])
  else match Json.read body with
    | .ok j => .ok j
    | .error (.malformed what left) =>
      .error (.rejected 502
        ("Invalid backend JSON response: " ++ (Json.ReadError.malformed what left).message body))
    | .error (.beyond what) => .error (.excess what)

/-- A member of an error as text. -/
def errorPart (e : Members) (name : String) : Except GatewayError String :=
  (((e.get? name).getD .null).display).mapError .unwritable

/-- The result in the members of an answer. -/
def result (ms : Members) : Except GatewayError Json :=
  match ms.get? "error" with
  | some (.obj e) => do
    let code ← errorPart e "code"
    let message ← errorPart e "message"
    .error (.rejected 502 s!"{archiveMethod} failed code={code} message={message}")
  | _ => .ok ((ms.get? "result").getD .null)

/-- The identifier in a result. -/
def idOfResult (j : Json) : Except GatewayError String :=
  let id := match j with
    | .obj ms => (Assoc.get? ms protocolIdKey).getD .null
    | _ => .null
  match id with
  | .null | .str "" => .error (.rejected 502 s!"{archiveMethod} returned no {protocolIdKey}")
  | id => id.display.mapError .unwritable

/-- The result of an answer. -/
def resultOf (status : Int) (contentType body : String) : Except GatewayError Json :=
  if status ≠ 200 ∧ status ≠ 201 then
    .error (.rejected status (if body == "" then "Unexpected backend response" else body))
  else if !isJson contentType then .error (.rejected 502 "Backend response is not JSON")
  else do
    match ← document body with
    | .obj ms => result ms
    | _ => .error (.rejected 502 "Backend JSON-RPC response is not an object")

/-- **The identifier of the archived protocol**, or why there is none. -/
def protocolId (x : Exchange) : Except GatewayError String := do
  let (status, contentType, body) ← x.answer
  idOfResult (← resultOf status contentType body)

end Exchange

end Commissioning
