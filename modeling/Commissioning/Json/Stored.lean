import Commissioning.Json.Reader

/-!
# Reading stored documents

Stored texts are read more strictly than transmitted ones, and by a reader of their own
(`Commissioning.Json.Stored.read`):

* half of a pair of surrogates must not stand alone;
* the whole part of a number, a double or not, has at most `Commissioning.digitLimit`
  digits;
* at most `Commissioning.Json.Stored.depthLimit` lists and objects that are not empty
  stand in each other;
* all members of an object are kept, also several with one name. Which of them count is
  for the reader of the record to say; `Commissioning.Json.tidied` keeps the last of each.

Faults have wordings of their own (`Commissioning.Json.Stored.Fault.text`), and their place
is given by line and column, counted in bytes. As in `Commissioning.Json.read`, a fault
keeps the number of characters left where it was met.
-/

namespace Commissioning

namespace Json

/-! ### Members of one name -/

mutual

/-- The document in which of several members with one name only the last is left, at the
place of the first. -/
def tidied : Json → Json
  | .arr items => .arr (tidiedItems items)
  | .obj members => .obj (Assoc.ofList (tidiedMembers members))
  | j => j

/-- The items, each of them tidied. -/
def tidiedItems : List Json → List Json
  | [] => []
  | j :: js => tidied j :: tidiedItems js

/-- The members, the value of each of them tidied. -/
def tidiedMembers : List (String × Json) → List (String × Json)
  | [] => []
  | (name, j) :: ms => (name, tidied j) :: tidiedMembers ms

end

namespace Stored

/-! ### Faults -/

/-- What is wrong with a text at the place where reading stops. -/
inductive Fault where
  /-- The text ends where a value should stand, or inside one. -/
  | endInValue
  /-- The text ends inside a list. -/
  | endInList
  /-- The text ends inside an object. -/
  | endInObject
  /-- The text ends inside a quoted text. -/
  | endInText
  /-- A value should begin here. -/
  | value
  /-- The name of a member should begin here. -/
  | name
  /-- A colon should stand here. -/
  | colon
  /-- A comma, or the end of the list, should stand here. -/
  | commaInList
  /-- A comma, or the end of the object, should stand here. -/
  | commaInObject
  /-- A comma stands in front of the end of a list or an object. -/
  | trailingComma
  /-- The document has ended, but the text has not. -/
  | extra
  /-- A word goes on in another way. -/
  | word
  /-- A number goes on in another way. -/
  | number
  /-- A number has too many digits. -/
  | digits
  /-- A backslash with an unknown letter, or a digit that is not hexadecimal. -/
  | escape
  /-- The second half of a pair stands alone, or something else stands for it. -/
  | loneHalf
  /-- The first half of a pair stands alone. -/
  | endOfPair
  /-- A control character stands in a text. -/
  | control
  /-- Too many lists and objects stand in each other. -/
  | depth
deriving DecidableEq, Repr

/-- The wording of a fault. -/
def Fault.text : Fault → String
  | .endInValue => "EOF while parsing a value"
  | .endInList => "EOF while parsing a list"
  | .endInObject => "EOF while parsing an object"
  | .endInText => "EOF while parsing a string"
  | .value => "expected value"
  | .name => "key must be a string"
  | .colon => "expected \x60:\x60"
  | .commaInList => "expected \x60,\x60 or \x60]\x60"
  | .commaInObject => "expected \x60,\x60 or \x60\x7d\x60"
  | .trailingComma => "trailing comma"
  | .extra => "trailing characters"
  | .word => "expected ident"
  | .number => "invalid number"
  | .digits => "number out of range"
  | .escape => "invalid escape"
  | .loneHalf => "lone leading surrogate in hex escape"
  | .endOfPair => "unexpected end of hex escape"
  | .control => "control character (\\u0000-\\u001F) found while parsing a string"
  | .depth => "recursion limit exceeded"

/-- Why a text is no document: a fault, with so many characters left. -/
structure ReadError where
  /-- What is wrong. -/
  what : Fault
  /-- How many characters are left. -/
  left : Nat
deriving DecidableEq, Repr

/-- How many bytes a text takes. -/
def byteCount (cs : List Char) : Nat := cs.foldl (fun n c => n + c.utf8Size) 0

/-- The bytes behind the last line break of a text. -/
def lastLine (cs : List Char) : Nat := byteCount (cs.reverse.takeWhile (· != '\n'))

/-- The line and the column of a fault. A fault at the end lies at the last byte; a line
break counts as the beginning of the next line. -/
def ReadError.place (source : List Char) (e : ReadError) : Nat × Nat :=
  let front := source.take (source.length - e.left)
  match source.drop (source.length - e.left) with
  | [] => (front.count '\n' + 1, lastLine front)
  | '\n' :: _ => (front.count '\n' + 2, 0)
  | _ => (front.count '\n' + 1, lastLine front + 1)

/-- The wording of an error about a source text. -/
def ReadError.message (source : String) (e : ReadError) : String :=
  let (line, column) := e.place source.toList
  s!"{e.what.text} at line {line} column {column}"

/-! ### Texts -/

/-- Four hexadecimal digits. Where fewer than four bytes are left, the text ends too
early. -/
def readUnit (cs : List Char) : Except ReadError (Nat × List Char) :=
  if byteCount (cs.take 4) < 4 then .error ⟨.endInText, 0⟩
  else match Text.hexNumber? (cs.take 4) with
    | some n => .ok (n, cs.drop 4)
    | none =>
      let wrong := cs.dropWhile Text.isHexDigit
      .error ⟨.escape, wrong.length⟩

/-- The character of a pair, behind its first half. -/
def readSecondHalf (high : Nat) (cs : List Char) : Except ReadError (Char × List Char) :=
  match cs with
  | [] | ['\\'] => .error ⟨.endInText, 0⟩
  | '\\' :: 'u' :: rest => do
    let (low, rest) ← readUnit rest
    if Text.isLowSurrogate low then .ok (Text.charOfPair high low, rest)
    else .error ⟨.loneHalf, rest.length + 1⟩
  | '\\' :: rest => .error ⟨.endOfPair, rest.length⟩
  | _ => .error ⟨.endOfPair, cs.length⟩

/-- The character that hexadecimal digits give, one group or a pair of groups. -/
def readUnicodeEscape (cs : List Char) : Except ReadError (Char × List Char) := do
  let (n, rest) ← readUnit cs
  if Text.isLowSurrogate n then .error ⟨.loneHalf, rest.length + 1⟩
  else if Text.isHighSurrogate n then readSecondHalf n rest
  else .ok (Char.ofNat n, rest)

/-- The rest of a quoted text, behind the characters read so far (the last one first). -/
def readChars : Nat → List Char → List Char → Except ReadError (String × List Char)
  | 0, _, _ => .error ⟨.endInText, 0⟩
  | _ + 1, _, [] => .error ⟨.endInText, 0⟩
  | fuel + 1, done, c :: cs =>
    if c == '"' then .ok (String.ofList done.reverse, cs)
    else if c == '\\' then
      match cs with
      | [] => .error ⟨.endInText, 0⟩
      | e :: rest =>
        if e == 'u' then
          match readUnicodeEscape rest with
          | .error err => .error err
          | .ok (ch, rest) => readChars fuel (ch :: done) rest
        else match escapedChar? e with
          | some ch => readChars fuel (ch :: done) rest
          | none => .error ⟨.escape, cs.length⟩
    else if c.toNat < 0x20 then .error ⟨.control, cs.length + 1⟩
    else readChars fuel (c :: done) cs

/-- A quoted text, behind its opening mark. -/
def readText (cs : List Char) : Except ReadError (String × List Char) :=
  readChars (cs.length + 1) [] cs

/-! ### Numbers and words -/

/-- Digits, of which there must be one. -/
def readDigits (cs : List Char) : Except ReadError (List Char × List Char) :=
  match cs with
  | [] => .error ⟨.endInValue, 0⟩
  | c :: _ => if c.isDigit then .ok (splitDigits cs) else .error ⟨.number, cs.length⟩

/-- The whole part of an unsigned number: a zero alone, or digits that begin with another
one. -/
def readWholePart (cs : List Char) : Except ReadError (List Char × List Char) :=
  match cs with
  | '0' :: d :: rest =>
    if d.isDigit then .error ⟨.number, rest.length + 1⟩ else .ok (['0'], d :: rest)
  | _ => do
    let (ds, rest) ← readDigits cs
    if digitLimit < ds.length then .error ⟨.digits, cs.length - (digitLimit + 1)⟩
    else .ok (ds, rest)

/-- The digits behind a point, if the text goes on with one. -/
def readFractionPart : List Char → Except ReadError (Option (List Char) × List Char)
  | '.' :: cs => do
    let (ds, rest) ← readDigits cs
    return (some ds, rest)
  | cs => .ok (none, cs)

/-- The exponent, if the text goes on with one. -/
def readExponentPart (cs : List Char) : Except ReadError (Option Int × List Char) :=
  match cs with
  | [] => .ok (none, [])
  | c :: rest =>
    if c == 'e' || c == 'E' then do
      let (negative, rest) := splitSign rest
      let (ds, rest) ← readDigits rest
      return (some (signed negative (natOfDigits ds)), rest)
    else .ok (none, cs)

/-- A number behind its sign. It is a double as soon as it has a fraction or an
exponent. -/
def readUnsigned (negative : Bool) (cs : List Char) : Except ReadError (Json × List Char) := do
  let (whole, cs) ← readWholePart cs
  let (fraction?, cs) ← readFractionPart cs
  let (exponent?, cs) ← readExponentPart cs
  match fraction?, exponent? with
  | none, none => return (.int (signed negative (natOfDigits whole)), cs)
  | _, _ =>
    let fraction := fraction?.getD []
    return (.float (.ofDecimal negative (natOfDigits (whole ++ fraction))
      (exponent?.getD 0 - fraction.length)), cs)

/-- A word that stands for a value. -/
def readWord (value : Json) : List Char → List Char → Except ReadError (Json × List Char)
  | [], cs => .ok (value, cs)
  | _ :: _, [] => .error ⟨.endInValue, 0⟩
  | w :: ws, c :: cs => if w == c then readWord value ws cs else .error ⟨.word, cs.length + 1⟩

/-- The word for an infinite double. -/
def infinity : List Char := ['I', 'n', 'f', 'i', 'n', 'i', 't', 'y']

/-- A number or a word. -/
def readScalar (cs : List Char) : Except ReadError (Json × List Char) :=
  match cs with
  | [] => .error ⟨.endInValue, 0⟩
  | c :: rest =>
    if c == 'n' then readWord .null ['n', 'u', 'l', 'l'] cs
    else if c == 't' then readWord (.bool true) ['t', 'r', 'u', 'e'] cs
    else if c == 'f' then readWord (.bool false) ['f', 'a', 'l', 's', 'e'] cs
    else if c == 'N' then readWord (.float .nan) ['N', 'a', 'N'] cs
    else if c == 'I' then readWord (.float (.infinite false)) infinity cs
    else if c == '-' then
      if rest.head? == some 'I' then readWord (.float (.infinite true)) infinity rest
      else readUnsigned true rest
    else if c.isDigit then readUnsigned false cs
    else .error ⟨.value, cs.length⟩

/-! ### Values -/

/-- How many lists and objects that are not empty may stand in each other. -/
def depthLimit : Nat := 200

mutual

/-- A value, which must begin with the first character; so many more lists and objects may
be opened. -/
def readValue : Nat → Nat → List Char → Except ReadError (Json × List Char)
  | 0, _, _ => .error ⟨.endInValue, 0⟩
  | fuel + 1, room, cs =>
    match cs with
    | '"' :: rest => (readText rest).map fun r => (.str r.1, r.2)
    | '[' :: rest =>
      match skipGap rest with
      | [] => .error ⟨.endInList, 0⟩
      | ']' :: rest => .ok (.arr [], rest)
      | rest => readItems fuel room [] rest
    | '{' :: rest =>
      match skipGap rest with
      | [] => .error ⟨.endInObject, 0⟩
      | '}' :: rest => .ok (.obj [], rest)
      | '"' :: rest => readMembers fuel room [] rest
      | rest => .error ⟨.name, rest.length⟩
    | cs => readScalar cs

/-- The rest of a list, behind the items read so far (the last one first). -/
def readItems : Nat → Nat → List Json → List Char → Except ReadError (Json × List Char)
  | 0, _, _, _ => .error ⟨.endInList, 0⟩
  | _, 0, _, cs => .error ⟨.depth, cs.length⟩
  | fuel + 1, room + 1, done, cs => do
    let (value, cs) ← readValue fuel room cs
    match skipGap cs with
    | [] => .error ⟨.endInList, 0⟩
    | ']' :: cs => .ok (.arr (value :: done).reverse, cs)
    | ',' :: cs =>
      match skipGap cs with
      | [] => .error ⟨.endInValue, 0⟩
      | ']' :: cs => .error ⟨.trailingComma, cs.length + 1⟩
      | cs => readItems fuel (room + 1) (value :: done) cs
    | cs => .error ⟨.commaInList, cs.length⟩

/-- The rest of an object, behind the opening mark of a name and the members read so far
(the last one first). -/
def readMembers : Nat → Nat → List (String × Json) → List Char →
    Except ReadError (Json × List Char)
  | 0, _, _, _ => .error ⟨.endInObject, 0⟩
  | fuel + 1, room, done, cs => do
    let (name, cs) ← readText cs
    match skipGap cs with
    | [] => .error ⟨.endInObject, 0⟩
    | ':' :: cs =>
      match skipGap cs, room with
      | [], _ => .error ⟨.endInValue, 0⟩
      | cs, 0 => .error ⟨.depth, cs.length⟩
      | cs, inner + 1 =>
        let (value, cs) ← readValue fuel inner cs
        match skipGap cs with
        | [] => .error ⟨.endInObject, 0⟩
        | '}' :: cs => .ok (.obj ((name, value) :: done).reverse, cs)
        | ',' :: cs =>
          match skipGap cs with
          | [] => .error ⟨.endInValue, 0⟩
          | '"' :: cs => readMembers fuel room ((name, value) :: done) cs
          | '}' :: cs => .error ⟨.trailingComma, cs.length + 1⟩
          | cs => .error ⟨.name, cs.length⟩
        | cs => .error ⟨.commaInObject, cs.length⟩
    | cs => .error ⟨.colon, cs.length⟩

end

/-- **Reads a stored document.** -/
def read (s : String) : Except ReadError Json := do
  let cs := s.toList
  let (value, rest) ← readValue (2 * cs.length + 1) depthLimit (skipGap cs)
  match skipGap rest with
  | [] => .ok value
  | rest => .error ⟨.extra, rest.length⟩

end Stored

end Json

end Commissioning
