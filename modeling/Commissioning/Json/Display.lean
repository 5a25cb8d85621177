import Commissioning.Json.Basic
import Commissioning.Number.Written
import Commissioning.Text.Quoted

/-!
# Values in messages

How a value is shown where a text of it is wanted: in a message, in a serial number
typed as a number, in an identifier that is not a text. A text is shown as it is; inside
a list or an object it is quoted (`Commissioning.Text.quoted`).
-/

namespace Commissioning

namespace Json

/-- The word for a truth value. -/
def boolWord (b : Bool) : String := if b then "True" else "False"

mutual

/-- The characters of a value inside another one. -/
def innerChars : Json → Option (List Char)
  | .null => some "None".toList
  | .bool b => some (boolWord b).toList
  | .int i => intChars? i
  | .float x => some (x.chars plainLayout)
  | .str s => some (Text.quotedChars s.toList)
  | .torn t => some (Text.quotedChars t.shown.toList)
  | .arr items => (innerItems items).map fun cs => '[' :: cs ++ [']']
  | .obj members => (innerMembers members).map fun cs => '{' :: cs ++ ['}']

/-- The characters of items, with commas between them. -/
def innerItems : List Json → Option (List Char)
  | [] => some []
  | [item] => innerChars item
  | item :: items => do
    let cs ← innerChars item
    let rest ← innerItems items
    some (cs ++ ',' :: ' ' :: rest)

/-- The characters of members, with commas between them. -/
def innerMembers : List (String × Json) → Option (List Char)
  | [] => some []
  | [(name, value)] =>
    (innerChars value).map fun cs => Text.quotedChars name.toList ++ ':' :: ' ' :: cs
  | (name, value) :: members => do
    let cs ← innerChars value
    let rest ← innerMembers members
    some (Text.quotedChars name.toList ++ ':' :: ' ' :: cs ++ ',' :: ' ' :: rest)

end

/-- **The text of a value**, unless a whole number in it has too many digits. Values are
assumed to have been read, so that `Commissioning.Json.nestingLimit` bounds how many lists and
objects stand in each other; of the stack that showing them takes nothing is said here. -/
def display? : Json → Option String
  | .str s => some s
  | .torn t => some t.shown
  | j => (innerChars j).map String.ofList

end Json

end Commissioning
