import Commissioning.Json.Reader
import Commissioning.Text.Utf8

/-!
# Messages of devices

A device reports the value of a channel as bytes under a topic
(`Commissioning.Message`). The value is read leniently
(`Commissioning.Message.value`): bytes that are no text are replaced, nothing but blanks
is the absent value, a document is what it says, and anything else is a text of its own.
Only a document beyond measure is refused (`Commissioning.Json.Excess`).
-/

namespace Commissioning

/-- A message of a device. -/
structure Message where
  /-- The topic. -/
  topic : String
  /-- What it says. -/
  payload : List UInt8
deriving DecidableEq, Repr, Inhabited

/-- The value that a reported text stands for. -/
def reportedValue (cs : List Char) : Except Json.Excess Json :=
  let cs := Text.trim cs
  if cs.isEmpty then .ok .null
  else match Json.readDocument cs with
    | .ok j => .ok j
    | .error (.malformed ..) => .ok (.str (String.ofList cs))
    | .error (.beyond what) => .error what

/-- **The value of a message.** -/
def Message.value (m : Message) : Except Json.Excess Json :=
  reportedValue (Text.ofBytes m.payload)

end Commissioning
