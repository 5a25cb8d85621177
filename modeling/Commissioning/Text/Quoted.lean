import Commissioning.Text.Hexadecimal
import Commissioning.Text.Printable

/-!
# Quoted texts

How a text is shown inside a message: between quotation marks, with a backslash
before the mark and before a backslash, and with the characters that cannot be
shown written by their number. The mark is the apostrophe, unless the text holds
an apostrophe and no double quotation mark (`Commissioning.Text.quoteMark`).
-/

namespace Commissioning.Text

/-- The mark that encloses a text: the apostrophe, unless only the double
quotation mark needs no backslash. -/
def quoteMark (cs : List Char) : Char :=
  if cs.contains '\'' && !cs.contains '"' then '"' else '\''

/-- A character written by its number. -/
def numberedChar (c : Char) : List Char :=
  if c.toNat < 0x100 then '\\' :: 'x' :: hexadecimal 2 c.toNat
  else if c.toNat < 0x10000 then '\\' :: 'u' :: hexadecimal 4 c.toNat
  else '\\' :: 'U' :: hexadecimal 8 c.toNat

/-- A character as it stands between the marks. -/
def quotedChar (mark c : Char) : List Char :=
  if c == mark || c == '\\' then ['\\', c]
  else if c == '\t' then ['\\', 't']
  else if c == '\n' then ['\\', 'n']
  else if c == '\r' then ['\\', 'r']
  else if isPrintable c then [c]
  else numberedChar c

/-- A text between quotation marks. -/
def quotedChars (cs : List Char) : List Char :=
  let mark := quoteMark cs
  mark :: cs.flatMap (quotedChar mark) ++ [mark]

/-- A text between quotation marks in which every character beyond the first 128 is written
by its number. -/
def quotedPlainChars (cs : List Char) : List Char :=
  (quotedChars cs).flatMap fun c => if c.toNat < 0x80 then [c] else numberedChar c

/-- A text between quotation marks. -/
def quoted (s : String) : String :=
  String.ofList (quotedChars s.toList)

end Commissioning.Text
