import Commissioning.Json.Basic
import Commissioning.Number.Numeral
import Commissioning.Text.Encoding
import Commissioning.Text.Hexadecimal

/-!
# Reading documents

`Commissioning.Json.read` reads the text of a document. Besides the standard grammar
it accepts the words `NaN`, `Infinity` and `-Infinity` for the three doubles that have
no numeral; of several members with one name the last counts, at the place of the
first. An escape may name half of a pair of surrogates, which the text then keeps
(`Commissioning.LooseText`); in the name of a member it is replaced.

A text that is no document is refused with a reason and a place
(`Commissioning.Json.ReadError`). The place is kept as the number of characters left
when the fault was met: the readers below pass on what is left of the text, and need
not know where they are. `Commissioning.Json.ReadError.offset` and
`Commissioning.Json.ReadError.message` turn it into an offset, a line and a column of
the source. Refusals without a place are those of documents beyond all measure
(`Commissioning.Json.Excess`): a whole number with more digits than
`Commissioning.digitLimit`, or more than `Commissioning.Json.nestingLimit` lists and
objects in each other.

All readers recurse on a count, and the text bounds the count: a value takes at most two steps
for each of its characters, as `[` is read by the step of a list and by that of its first item.
-/

namespace Commissioning

namespace Json

/-! ### Faults -/

/-- What is wrong with a text at the place where reading stops. -/
inductive Fault where
  /-- A value should begin here. -/
  | value
  /-- The name of a member should begin here. -/
  | name
  /-- A colon should stand here. -/
  | colon
  /-- A comma, or the end of the list or object, should stand here. -/
  | comma
  /-- The document has ended, but the text has not. -/
  | extra
  /-- The text that begins here has no end. -/
  | unterminated
  /-- A control character stands in a text. -/
  | control
  /-- A backslash with an unknown letter. -/
  | escape
  /-- A backslash and `u` without four hexadecimal digits. -/
  | unicodeEscape
  /-- The text begins with a byte order mark. -/
  | byteOrderMark
deriving DecidableEq, Repr

/-- The wording of a fault. -/
def Fault.text : Fault → String
  | .value => "Expecting value"
  | .name => "Expecting property name enclosed in double quotes"
  | .colon => "Expecting ':' delimiter"
  | .comma => "Expecting ',' delimiter"
  | .extra => "Extra data"
  | .unterminated => "Unterminated string starting at"
  | .control => "Invalid control character at"
  | .escape => "Invalid \\escape"
  | .unicodeEscape => "Invalid \\uXXXX escape"
  | .byteOrderMark => "Unexpected UTF-8 BOM (decode using utf-8-sig)"

/-- What a reader does not take, although the grammar allows it. -/
inductive Excess where
  /-- A whole number with this many digits, more than the limit. -/
  | digits (count : Nat)
  /-- A list inside as many lists and objects as the limit allows. -/
  | lists
  /-- An object inside as many lists and objects as the limit allows. -/
  | objects
deriving DecidableEq, Repr

/-- The wording of an excess. -/
def Excess.message : Excess → String
  | .digits count =>
    s!"Exceeds the limit ({digitLimit} digits) for integer string conversion: value has {count} " ++
      "digits; use sys.set_int_max_str_digits() to increase the limit"
  | .lists => "maximum recursion depth exceeded while decoding a JSON array from a unicode string"
  | .objects =>
    "maximum recursion depth exceeded while decoding a JSON object from a unicode string"

/-- How many lists and objects may stand in each other. No rule of the wizard gives this
number: its reader calls itself for each of them, and its runtime allows 1000 calls inside each
other, those that lead to the reader among them. So it is a count for the places where the
wizard reads documents; called at another depth, a reader stops a few levels sooner or later. -/
def nestingLimit : Nat := 990

/-- Why a text is no document. -/
inductive ReadError where
  /-- The grammar is broken, with so many characters left. -/
  | malformed (what : Fault) (left : Nat)
  /-- The document is beyond measure. -/
  | beyond (what : Excess)
deriving DecidableEq, Repr

namespace ReadError

/-- Where in the source a fault lies, for so many characters left. -/
def offset (source : List Char) (left : Nat) : Nat := source.length - left

/-- The line of an offset, counted from one. -/
def line (source : List Char) (offset : Nat) : Nat :=
  (source.take offset).count '\n' + 1

/-- The column of an offset, counted from one. -/
def column (source : List Char) (offset : Nat) : Nat :=
  ((source.take offset).reverse.takeWhile (· != '\n')).length + 1

/-- The wording of an error about a source text. -/
def message (source : String) : ReadError → String
  | .malformed what left =>
    let cs := source.toList
    let at_ := offset cs left
    s!"{what.text}: line {line cs at_} column {column cs at_} (char {at_})"
  | .beyond what => what.message

end ReadError

/-! ### Texts -/

/-- Whether a character may stand between the parts of a document. -/
def isGap (c : Char) : Bool := c == ' ' || c == '\t' || c == '\n' || c == '\r'

/-- The text without the gap in front of it. -/
def skipGap (cs : List Char) : List Char := cs.dropWhile isGap

/-- A sign given by four hexadecimal digits, after the letter `u`, or by two such groups that
make a pair. At least one character must follow the digits. -/
def readUnicodeEscape (cs : List Char) : Except ReadError (Sign × List Char) :=
  let refuse (cs : List Char) := .error (.malformed .unicodeEscape (cs.length + 1))
  let rest := cs.drop 4
  if rest.isEmpty then refuse cs
  else match Text.hexNumber? (cs.take 4) with
    | none => refuse cs
    | some high =>
      match rest with
      | '\\' :: 'u' :: cs' =>
        let rest' := cs'.drop 4
        if Text.isHighSurrogate high && !rest'.isEmpty then
          match Text.hexNumber? (cs'.take 4) with
          | none => refuse cs'
          | some low =>
            if Text.isLowSurrogate low then
              .ok (.char (Text.charOfPair high low), rest')
            else .ok (.ofCode high, rest)
        else .ok (.ofCode high, rest)
      | _ => .ok (.ofCode high, rest)

/-- The character for a letter after a backslash. -/
def escapedChar? (c : Char) : Option Char :=
  if c == '"' || c == '\\' || c == '/' then some c
  else if c == 'b' then some '\x08'
  else if c == 'f' then some '\x0c'
  else if c == 'n' then some '\n'
  else if c == 'r' then some '\r'
  else if c == 't' then some '\t'
  else none

/-- Reads the rest of a quoted text, behind the signs read so far (the last one first).
`start` is the number of characters left at its opening mark. -/
def readChars : Nat → Nat → List Sign → List Char → Except ReadError (LooseText × List Char)
  | 0, start, _, _ => .error (.malformed .unterminated start)
  | _ + 1, start, _, [] => .error (.malformed .unterminated start)
  | fuel + 1, start, done, c :: cs =>
    if c == '"' then .ok (.ofSigns done.reverse, cs)
    else if c == '\\' then
      match cs with
      | [] => .error (.malformed .unterminated start)
      | e :: rest =>
        if e == 'u' then
          match readUnicodeEscape rest with
          | .error err => .error err
          | .ok (sign, rest) => readChars fuel start (sign :: done) rest
        else match escapedChar? e with
          | some ch => readChars fuel start (.char ch :: done) rest
          | none => .error (.malformed .escape (cs.length + 1))
    else if c.toNat < 0x20 then .error (.malformed .control (cs.length + 1))
    else readChars fuel start (.char c :: done) cs

/-- Reads a quoted text, behind its opening mark. -/
def readText (cs : List Char) : Except ReadError (LooseText × List Char) :=
  readChars (cs.length + 1) (cs.length + 1) [] cs

/-! ### Numbers -/

/-- The whole part at the front of an unsigned number: a zero alone, or digits that
begin with another one. -/
def splitWholePart : List Char → Option (List Char × List Char)
  | [] => none
  | c :: cs =>
    if c == '0' then some (['0'], cs)
    else if c.isDigit then some (splitDigits (c :: cs))
    else none

/-- The digits behind a point, if the text goes on with a point and a digit. -/
def splitFractionPart (cs : List Char) : Option (List Char) × List Char :=
  match cs with
  | '.' :: rest =>
    let (ds, rest) := splitDigits rest
    if ds.isEmpty then (none, cs) else (some ds, rest)
  | _ => (none, cs)

/-- The exponent, if the text goes on with a complete one. -/
def splitExponentPart (cs : List Char) : Option Int × List Char :=
  match cs with
  | [] => (none, cs)
  | c :: rest =>
    if c == 'e' || c == 'E' then
      let (negative, rest) := splitSign rest
      let (ds, rest) := splitDigits rest
      if ds.isEmpty then (none, cs) else (some (signed negative (natOfDigits ds)), rest)
    else (none, cs)

/-- Reads a number behind its sign. It is a double as soon as it has a fraction or an
exponent. `start` is the number of characters left at the sign. -/
def readUnsigned (start : Nat) (negative : Bool) (cs : List Char) :
    Except ReadError (Json × List Char) :=
  match splitWholePart cs with
  | none => .error (.malformed .value start)
  | some (whole, cs) =>
    let (fraction?, cs) := splitFractionPart cs
    let (exponent?, cs) := splitExponentPart cs
    match fraction?, exponent? with
    | none, none =>
      if whole.length ≤ digitLimit then .ok (.int (signed negative (natOfDigits whole)), cs)
      else .error (.beyond (.digits whole.length))
    | _, _ =>
      let fraction := fraction?.getD []
      .ok (.float (.ofDecimal negative (natOfDigits (whole ++ fraction))
        (exponent?.getD 0 - fraction.length)), cs)

/-- Reads a number. -/
def readNumber (cs : List Char) : Except ReadError (Json × List Char) :=
  match cs with
  | '-' :: rest => readUnsigned cs.length true rest
  | _ => readUnsigned cs.length false cs

/-! ### Values -/

/-- The words of the grammar and the values they stand for. -/
def words : List (List Char × Json) :=
  [("null".toList, .null), ("true".toList, .bool true), ("false".toList, .bool false),
   ("NaN".toList, .float .nan), ("Infinity".toList, .float (.infinite false)),
   ("-Infinity".toList, .float (.infinite true))]

/-- The word at the front of a text, and the text behind it. -/
def readWord? (cs : List Char) : Option (Json × List Char) :=
  (words.find? fun w => w.1.isPrefixOf cs).map fun w => (w.2, cs.drop w.1.length)

mutual

/-- Reads a value, which must begin with the first character; so many more lists and
objects may be opened. -/
def readValue : Nat → Nat → List Char → Except ReadError (Json × List Char)
  | 0, _, cs => .error (.malformed .value cs.length)
  | _ + 1, _, [] => .error (.malformed .value 0)
  | fuel + 1, room, c :: cs =>
    if c == '"' then (readText cs).map fun r => (r.1.toJson, r.2)
    else if c == '{' then
      if room = 0 then .error (.beyond .objects)
      else match skipGap cs with
        | '}' :: rest => .ok (.obj [], rest)
        | rest => readMembers fuel (room - 1) [] rest
    else if c == '[' then
      if room = 0 then .error (.beyond .lists)
      else match skipGap cs with
        | ']' :: rest => .ok (.arr [], rest)
        | rest => readItems fuel (room - 1) [] rest
    else match readWord? (c :: cs) with
      | some r => .ok r
      | none => readNumber (c :: cs)

/-- Reads the rest of an object, behind the members read so far. -/
def readMembers : Nat → Nat → Members → List Char → Except ReadError (Json × List Char)
  | 0, _, _, cs => .error (.malformed .name cs.length)
  | fuel + 1, room, done, cs =>
    match cs with
    | '"' :: cs => do
      let (name, cs) ← readText cs
      match skipGap cs with
      | ':' :: cs =>
        let (value, cs) ← readValue fuel room (skipGap cs)
        match skipGap cs with
        | '}' :: cs => .ok (.obj (done.put name.shown value), cs)
        | ',' :: cs => readMembers fuel room (done.put name.shown value) (skipGap cs)
        | cs => .error (.malformed .comma cs.length)
      | cs => .error (.malformed .colon cs.length)
    | cs => .error (.malformed .name cs.length)

/-- Reads the rest of a list, behind the items read so far (the last one first). -/
def readItems : Nat → Nat → List Json → List Char → Except ReadError (Json × List Char)
  | 0, _, _, cs => .error (.malformed .value cs.length)
  | fuel + 1, room, done, cs => do
    let (value, cs) ← readValue fuel room cs
    match skipGap cs with
    | ']' :: cs => .ok (.arr (value :: done).reverse, cs)
    | ',' :: cs => readItems fuel room (value :: done) (skipGap cs)
    | cs => .error (.malformed .comma cs.length)

end

/-- **Reads a document** from its characters. -/
def readDocument (cs : List Char) : Except ReadError Json :=
  match cs with
  | '\uFEFF' :: _ => .error (.malformed .byteOrderMark cs.length)
  | _ => do
    let (value, rest) ← readValue (2 * cs.length + 1) nestingLimit (skipGap cs)
    match skipGap rest with
    | [] => .ok value
    | rest => .error (.malformed .extra rest.length)

/-- **Reads a document.** -/
def read (s : String) : Except ReadError Json := readDocument s.toList

end Json

end Commissioning
