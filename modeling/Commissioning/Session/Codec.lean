import Commissioning.Json.Reader
import Commissioning.Json.Writer
import Commissioning.Session.Basic
import Commissioning.Session.Store

/-!
# Sessions as entries

A session is kept as up to three texts (`Commissioning.Session.written`): the system with
the data, the index of the view, and the device if there is one. They are written one
after the other (`Commissioning.SessionStore.write`), and the first text that cannot be
made ends the writing: one with a whole number of too many digits, or that of a device with a
torn text (`Commissioning.Edge.text`). The texts before it stay written.

`Commissioning.Session.load` reads a session from whatever entries there are. What is
missing or unreadable is replaced by its value in a fresh session; without a known
system, everything but the device is. Only two texts are refused instead: a document
beyond measure, and one where the system is named by a list or an object
(`Commissioning.LoadError`). The text of the device is read as strictly as records are
(`Commissioning.Intake.stored`), the text of the system like any document.
-/

namespace Commissioning

/-- The key of the system and the data. -/
def systemKey : String := "ibn"

/-- The key of the index of the view. -/
def viewIndexKey : String := "viewIndex"

/-- The key of the device. -/
def edgeKey : String := "edge"

namespace Json

/-- The text of a document. -/
def text (j : Json) : Except NumberError String :=
  match j.write with
  | some s => .ok s
  | none => .error .tooManyDigits

end Json

/-- **The text of a device**, unless one of its texts is torn. -/
def Edge.text (e : Edge) : Except NumberError String :=
  match e.torn? with
  | some t => .error (.torn t)
  | none => e.toJson.text

/-! ### Writing -/

namespace SessionStore

/-- Puts texts under keys of a session, up to the first that cannot be made. -/
def write (id : String) :
    List (String × Except NumberError String) → EStateM NumberError SessionStore Unit
  | [] => pure ()
  | (key, .ok text) :: rest => do
    modify fun store => store.set id key text
    write id rest
  | (_, .error e) :: _ => throw e

end SessionStore

namespace Session

/-- The system and the data as a document. -/
def systemDocument (s : Session) : Json :=
  .obj [("id", .str s.system.id), ("data", s.data.toJson)]

/-- **The entries of a session**, in the order in which they are written. -/
def written (s : Session) : List (String × Except NumberError String) :=
  [(systemKey, s.systemDocument.text), (viewIndexKey, Number.text (.int s.viewIndex))] ++
    match s.edge with
    | some e => [(edgeKey, e.text)]
    | none => []

/-- **Writes a session to a store.** -/
def save (s : Session) (id : String) : EStateM NumberError SessionStore Unit :=
  SessionStore.write id s.written

end Session

/-! ### Reading -/

/-- Why entries are refused. -/
inductive LoadError where
  /-- A document is beyond measure. -/
  | excess (what : Json.Excess)
  /-- The system is named by a value of this kind. -/
  | structuredId (kind : String)
deriving DecidableEq, Repr

/-- The wording of an error. -/
def LoadError.message : LoadError → String
  | .excess what => what.message
  | .structuredId kind => s!"unhashable type: '{kind}'"

namespace Session

/-- The device of an entry, if it is readable. -/
def readEdge (raw : Option String) : Option Edge := do
  match Intake.stored Edge.intake (← raw) with
  | .valid e => some e
  | .invalid _ => none

/-- The index of an entry; zero if it is unreadable. -/
def readViewIndex (raw : Option String) : Int :=
  match raw with
  | some s => (intOfText? (String.ofList (Text.trim s.toList))).getD 0
  | none => 0

/-- The system that a document names. -/
def readSystem : Option Json → Except LoadError (Option StorageSystem)
  | some (.str id) => .ok (StorageSystem.ofId? id)
  | some (.arr _) => .error (.structuredId "list")
  | some (.obj _) => .error (.structuredId "dict")
  | _ => .ok none

/-- The data of a document; those of a fresh session if they are not in order. -/
def readData : Option Json → Installation
  | some (.obj ms) => match Installation.ofMembers .value ms with
    | .valid d => d
    | .invalid _ => {}
  | _ => {}

/-- The system and the data of an entry; none without a known system. -/
def readSystemEntry (raw : Option String) :
    Except LoadError (Option (StorageSystem × Installation)) :=
  match raw.map Json.read with
  | some (.ok (.obj ms)) => do
    let system ← readSystem (Assoc.get? ms "id")
    return system.map fun s => (s, readData (Assoc.get? ms "data"))
  | some (.error (.beyond what)) => .error (.excess what)
  | _ => .ok none

/-- The index, if there is a view for it in the system, and otherwise the first one. -/
def boundedIndex (system : StorageSystem) (index : Int) : Int :=
  if 0 ≤ index ∧ index < system.viewCount then index else 0

/-- **The session that entries hold.** -/
def load (entries : Entries) : Except LoadError Session := do
  let edge := readEdge (entries.get? edgeKey)
  match ← readSystemEntry (entries.get? systemKey) with
  | none => return { edge }
  | some (system, data) =>
    let index := readViewIndex (entries.get? viewIndexKey)
    return { system, data, edge, viewIndex := boundedIndex system index }

end Session

end Commissioning
