import Commissioning.Text.Split

/-!
# Routes

What a request asks for follows from its method and path
(`Commissioning.Endpoint.find`). A path that is something for other methods only is told
apart from one that is nothing at all, and from one that is nothing because of the slashes
at its end. A line break behind the last name of a path does not count.
-/

namespace Commissioning

/-- What can be asked without regard to sessions. -/
inductive Report where
  /-- Whether the server is up. -/
  | health
  /-- How the server is doing. -/
  | status
  /-- The systems that can be chosen. -/
  | systems
deriving DecidableEq, Repr

/-- The pages on which the server describes itself. -/
inductive Manual where
  /-- What can be asked for, as a document. -/
  | description
  /-- The same, to be tried out. -/
  | explorer
  /-- Where trying out comes back to from a sign-in. -/
  | signIn
  /-- The same, to be read. -/
  | reference
deriving DecidableEq, Repr

/-- What can be asked about a session without a body. -/
inductive PlainAction where
  /-- The session as it is. -/
  | read
  /-- The end of the session. -/
  | abandon
  /-- The next view. -/
  | advance
  /-- The view before. -/
  | retreat
  /-- The form for serial numbers. -/
  | serialNumberForm
  /-- A preview of the setup protocol. -/
  | previewProtocol
  /-- The cell metrics. -/
  | cellMetrics
deriving DecidableEq, Repr

/-- What can be asked about a session with a body. -/
inductive BodyAction where
  /-- A device for the session. -/
  | bindEdge
  /-- A system for the session. -/
  | selectSystem
  /-- Data for the session. -/
  | updateData
  /-- The view at an index. -/
  | jump
  /-- A submission of serial numbers. -/
  | submit
  /-- The settings of the app. -/
  | appPayload
deriving DecidableEq, Repr

/-- What a request asks for. -/
inductive Endpoint where
  /-- A report. -/
  | report (r : Report)
  /-- A page of the manual. -/
  | manual (m : Manual)
  /-- A new session. -/
  | createSession
  /-- Something about a session, without a body. -/
  | plain (id : String) (a : PlainAction)
  /-- Something about a session, with a body. -/
  | body (id : String) (a : BodyAction)
deriving DecidableEq, Repr

/-- What is found under a method and a path. -/
inductive RouteAnswer where
  /-- Something to ask for. -/
  | found (e : Endpoint)
  /-- Something, but not for the method. -/
  | wrongMethod
  /-- Something, but only without the slashes at the end of the path. -/
  | moved
  /-- Nothing. -/
  | nothing
deriving DecidableEq, Repr

namespace Endpoint

/-- What can be asked for about a session under a name, by method. -/
def ofSession (id : String) : String → List (String × Endpoint)
  | "edge" => [("PUT", body id .bindEdge)]
  | "system" => [("PUT", body id .selectSystem)]
  | "data" => [("PATCH", body id .updateData)]
  | "advance" => [("POST", plain id .advance)]
  | "retreat" => [("POST", plain id .retreat)]
  | "jump" => [("POST", body id .jump)]
  | "serial-number-fields" => [("GET", plain id .serialNumberForm)]
  | "serial-numbers" => [("POST", body id .submit)]
  | "protocol" => [("GET", plain id .previewProtocol)]
  | "app-payload" => [("POST", body id .appPayload)]
  | "cell-metrics" => [("GET", plain id .cellMetrics)]
  | _ => []

/-- How a page of the manual can be asked for, by method. -/
def ofManual (m : Manual) : List (String × Endpoint) := [("GET", manual m), ("HEAD", manual m)]

/-- What can be asked for at the parts of a path, by method. -/
def ofParts : List String → List (String × Endpoint)
  | ["openapi.json"] => ofManual .description
  | ["docs"] => ofManual .explorer
  | ["docs", "oauth2-redirect"] => ofManual .signIn
  | ["redoc"] => ofManual .reference
  | ["health"] => [("GET", report .health)]
  | ["status"] => [("GET", report .status)]
  | ["api", "installation", "systems"] => [("GET", report .systems)]
  | ["api", "installation", "sessions"] => [("POST", createSession)]
  | ["api", "installation", "sessions", id] =>
    if id == "" then [] else [("GET", plain id .read), ("DELETE", plain id .abandon)]
  | ["api", "installation", "sessions", id, name] => if id == "" then [] else ofSession id name
  | _ => []

/-- The parts of a path without a line break at the end. -/
def dropLineBreak (parts : List (List Char)) : List (List Char) :=
  match parts.getLast? with
  | some last =>
    if last.getLast? = some '\n' then parts.dropLast ++ [last.dropLast] else parts
  | none => parts

/-- What can be asked for at a path, by method. -/
def atPath (path : List Char) : List (String × Endpoint) :=
  match Text.splitOn '/' path with
  | [] :: parts =>
    match ofParts (parts.map String.ofList) with
    | [] => ofParts ((dropLineBreak parts).map String.ofList)
    | found => found
  | _ => []

/-- **What a method and a path ask for.** -/
def find (method : String) (path : List Char) : RouteAnswer :=
  match atPath path with
  | [] =>
    if path.getLast? = some '/' ∧ atPath (Text.dropAtEnd '/' path) ≠ [] then .moved else .nothing
  | found => match found.lookup method with
    | some e => .found e
    | none => .wrongMethod

end Endpoint

end Commissioning
