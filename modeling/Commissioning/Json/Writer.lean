import Commissioning.Json.Basic
import Commissioning.Number.Written

/-!
# Writing documents

`Commissioning.Json.write` writes a document without gaps: members in order, every
character as itself except the quotation mark, the backslash and the control
characters, doubles by `Commissioning.documentLayout`, a torn text as it is shown. It fails
only on a whole number with more digits than `Commissioning.digitLimit`, the same bound at
which `Commissioning.Json.read` refuses one.
-/

namespace Commissioning

namespace Json

/-- A character as it stands in a quoted text. -/
def writtenChar (c : Char) : List Char :=
  if c == '"' || c == '\\' then ['\\', c]
  else if c == '\n' then ['\\', 'n']
  else if c == '\r' then ['\\', 'r']
  else if c == '\t' then ['\\', 't']
  else if c == '\x0c' then ['\\', 'f']
  else if c == '\x08' then ['\\', 'b']
  else if c.toNat < 0x20 then
    '\\' :: 'u' :: '0' :: '0' :: Nat.digitChar (c.toNat / 16) :: [Nat.digitChar (c.toNat % 16)]
  else [c]

/-- A text between quotation marks. -/
def writtenText (s : String) : List Char :=
  '"' :: s.toList.flatMap writtenChar ++ ['"']

mutual

/-- The characters of a document. -/
def chars : Json → Option (List Char)
  | .null => some "null".toList
  | .bool b => some (if b then "true" else "false").toList
  | .int i => intChars? i
  | .float x => some (x.chars documentLayout)
  | .str s => some (writtenText s)
  | .torn t => some (writtenText t.shown)
  | .arr items => (itemChars items).map fun cs => '[' :: cs ++ [']']
  | .obj members => (memberChars members).map fun cs => '{' :: cs ++ ['}']

/-- The characters of the items of a list, with commas between them. -/
def itemChars : List Json → Option (List Char)
  | [] => some []
  | [item] => chars item
  | item :: items => do
    let cs ← chars item
    let rest ← itemChars items
    some (cs ++ ',' :: rest)

/-- The characters of the members of an object, with commas between them. -/
def memberChars : List (String × Json) → Option (List Char)
  | [] => some []
  | [(name, value)] => (chars value).map fun cs => writtenText name ++ ':' :: cs
  | (name, value) :: members => do
    let cs ← chars value
    let rest ← memberChars members
    some (writtenText name ++ ':' :: cs ++ ',' :: rest)

end

/-- **Writes a document**, unless a whole number in it has too many digits. -/
def write (j : Json) : Option String := (chars j).map String.ofList

end Json

end Commissioning
