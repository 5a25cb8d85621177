import Commissioning.Field.Pattern
import Commissioning.Number.Conversion

/-!
# Form fields

A form field (`Commissioning.Field`) declares what a value must be: required or not,
a number, a text, a truth value or anything at all, within bounds, one of some options, following a
pattern. Two functions use the declaration.

* `Commissioning.Field.check` finds the first complaint about a value, in this order:
  left empty, wrong type, outside the bounds, no option, pattern not followed.
* `Commissioning.Field.coerce` is the value that is kept: an empty one becomes the
  absent value, a number is read (a whole one becomes a whole number), any value of a
  text field becomes its trimmed text, and other values stay as they are.

Both read numbers by `Commissioning.Field.numberOf?`, so that the number that is checked
is the number that is kept. Either can fail on a whole number that is too long to be
written, or on a bound that is too large; that failure is no complaint but an error.
-/

namespace Commissioning

/-- What kind of value a field takes. -/
inductive ValueType where
  /-- A number, or a text that reads as one. -/
  | number
  /-- Anything, taken as text. -/
  | string
  /-- A truth value. -/
  | boolean
  /-- Anything, taken as it is. -/
  | any
deriving DecidableEq, Repr

/-- The name of a kind of value. -/
def ValueType.name : ValueType → String
  | .number => "number"
  | .string => "string"
  | .boolean => "boolean"
  | .any => "any"

/-- A field of a form. -/
structure Field where
  /-- The name of the field in requests. -/
  key : String
  /-- The name of the field on the form. -/
  label : String
  /-- What kind of value it takes. -/
  valueType : ValueType := .string
  /-- Whether it must not be left empty. -/
  required : Bool := false
  /-- The value it is shown with; absent if there is none. -/
  default : Json := .null
  /-- The least number allowed. -/
  minimum : Option Number := none
  /-- The greatest number allowed. -/
  maximum : Option Number := none
  /-- What the trimmed text of the value must follow. -/
  pattern : Option Pattern := none
  /-- The complaint about a value that does not follow the pattern. -/
  patternMessage : Option String := none
  /-- The values allowed. -/
  options : Option (List Json) := none
deriving Inhabited

/-- What can be said against a value. -/
inductive Complaint where
  /-- A required value is missing. -/
  | missing
  /-- The value is no finite number. -/
  | notANumber
  /-- The number is less than the bound. -/
  | belowMinimum (bound : String)
  /-- The number is greater than the bound. -/
  | aboveMaximum (bound : String)
  /-- The value is neither yes nor no. -/
  | notABoolean
  /-- The value is none of the options. -/
  | notAnOption
  /-- The text does not follow the pattern. -/
  | mismatch (message : String)
deriving DecidableEq, Repr

/-- The wording of a complaint. -/
def Complaint.text : Complaint → String
  | .missing => "Dieses Feld ist ein Pflichtfeld."
  | .notANumber => "Bitte eine gültige Zahl eingeben."
  | .belowMinimum bound => s!"Der Wert muss mindestens {bound} betragen."
  | .aboveMaximum bound => s!"Der Wert darf höchstens {bound} betragen."
  | .notABoolean => "Bitte ja oder nein wählen."
  | .notAnOption => "Bitte einen gültigen Wert auswählen."
  | .mismatch message => message

namespace Json

/-- Whether a value counts as left empty: absent, or a text of blanks. -/
def isBlank : Json → Bool
  | .null => true
  | .str s => Text.isEmptyText s
  | _ => false

end Json

namespace Number

/-- The double nearest to a number, if it is not too large. -/
def toBinary64 : Number → Except NumberError Binary64
  | .int i => Json.toBinary64 (.int i)
  | .float x => .ok x

/-- A bound as it is worded: a whole one without a fraction. -/
def boundText (n : Number) : Except NumberError String := do
  let x ← n.toBinary64
  match ofBinary64 x, n with
  | .int _, .int i => text (.int i)
  | .int i, .float _ => text (.int i)
  | .float _, n => n.text

end Number

namespace Field

/-- A text with the decimal comma turned into a point. -/
def withDecimalPoint (cs : List Char) : List Char :=
  cs.map fun c => if c == ',' then '.' else c

/-- The finite number that a value of a number field stands for. A truth value stands
for none; a text is trimmed and may have a decimal comma. -/
def numberOf? (value : Json) : Option Binary64 :=
  let candidate := match value with
    | .int i => Binary64.ofInt? i
    | .float x => some x
    | .str s => floatOfText? (String.ofList (withDecimalPoint (Text.trim s.toList)))
    | _ => none
  candidate.filter Binary64.isFinite

/-- The complaint about a number outside the bounds. -/
def checkBounds (f : Field) (x : Binary64) : Except NumberError (Option Complaint) :=
  match f.minimum with
  | some least =>
    if (Number.float x).lt least then return some (.belowMinimum (← least.boundText))
    else upper
  | none => upper
where
  /-- The complaint about a number above the greatest one allowed. -/
  upper : Except NumberError (Option Complaint) :=
    match f.maximum with
    | some most =>
      if most.lt (.float x) then return some (.aboveMaximum (← most.boundText))
      else return none
    | none => return none

/-- The complaint about the type of a value that is not empty, or about its bounds. -/
def checkType (f : Field) (value : Json) : Except NumberError (Option Complaint) :=
  match f.valueType with
  | .number => match numberOf? value with
    | some x => f.checkBounds x
    | none => return some .notANumber
  | .boolean => match value with
    | .bool _ => return none
    | _ => return some .notABoolean
  | .string | .any => return none

/-- The value that is compared with the options: a number for a number field, and
otherwise the value itself. -/
def optionValue (f : Field) (value : Json) : Json :=
  match f.valueType with
  | .number => match numberOf? value with
    | some x => (Number.ofBinary64 x).toJson
    | none => .null
  | _ => value

/-- The complaint about a value that is none of the options. -/
def checkOptions (f : Field) (value : Json) : Option Complaint :=
  match f.options with
  | some options => if options.any (·.alike (f.optionValue value)) then none else some .notAnOption
  | none => none

/-- The trimmed text of a value. -/
def trimmedText (value : Json) : Except NumberError String := do
  let s ← value.display
  return String.ofList (Text.trim s.toList)

/-- The wording for a text that does not follow the pattern. -/
def mismatchText (f : Field) : String :=
  match f.patternMessage with
  | some message => if message == "" then "Ungültiges Format." else message
  | none => "Ungültiges Format."

/-- The complaint about a value that does not follow the pattern. -/
def checkPattern (f : Field) (value : Json) : Except NumberError (Option Complaint) :=
  match f.pattern with
  | some pattern => do
    let s ← trimmedText value
    return if pattern.accepts s.toList then none else some (.mismatch f.mismatchText)
  | none => return none

/-- **The first complaint about a value**, if there is one. -/
def check (f : Field) (value : Json) : Except NumberError (Option Complaint) :=
  if value.isBlank then return if f.required then some .missing else none
  else do
    match ← f.checkType value with
    | some complaint => return some complaint
    | none => match f.checkOptions value with
      | some complaint => return some complaint
      | none => f.checkPattern value

/-- **The value that is kept** for a value of the field. -/
def coerce (f : Field) (value : Json) : Except NumberError Json :=
  if value.isBlank then return .null
  else match f.valueType with
    | .number => match numberOf? value with
      | some x => return (Number.ofBinary64 x).toJson
      | none => return .null
    | .string => return .str (← trimmedText value)
    | .boolean | .any => return value

end Field

end Commissioning
