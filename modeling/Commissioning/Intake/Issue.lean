/-!
# Issues

What is wrong with a document that should have become a record of the domain. An issue
(`Commissioning.Issue`) is a place in the document and a cause. All issues of a
document are reported, in the order in which the record declares its fields, so
checking is an applicative and no monad: `Commissioning.Checked` collects the issues of
both sides of a `<*>`.

How a cause is worded depends in a few cases on where the document came from
(`Commissioning.Channel`): a value that is not a list, or not an object at all.
-/

namespace Commissioning

/-- A step into a document. -/
inductive Step where
  /-- To the member of the name. -/
  | field (name : String)
  /-- To the item at the index. -/
  | index (n : Int)
deriving DecidableEq, Repr

/-- Where a document came from. -/
inductive Channel where
  /-- It was put together from values. -/
  | value
  /-- It was read from a stored text. -/
  | text
  /-- It is the body of a request. -/
  | body
deriving DecidableEq, Repr

/-- Why a value is not accepted. -/
inductive Cause where
  /-- A required member is missing. -/
  | missing
  /-- A member that the record does not have. -/
  | unexpected
  /-- Not a text. -/
  | notAText
  /-- A text with half of a pair in it, where only characters will do. -/
  | torn
  /-- A text with fewer characters. -/
  | tooShort (least : Nat)
  /-- A text with more characters. -/
  | tooLong (most : Nat)
  /-- A text that does not follow the pattern. -/
  | mismatch (pattern : String)
  /-- Not a truth value, and nothing that could stand for one. -/
  | notAFlag
  /-- A text or a number that stands for no truth value. -/
  | unreadableFlag
  /-- Not a whole number, and nothing that could stand for one. -/
  | notAnInteger
  /-- A text that is no whole numeral. -/
  | unreadableInteger
  /-- A number with a fraction. -/
  | fractional
  /-- An infinity, or not a number. -/
  | notFinite
  /-- A double or a numeral that is too large for a whole number. -/
  | oversized
  /-- Not a number, and nothing that could stand for one. -/
  | notAFloat
  /-- A text that is no floating numeral. -/
  | unreadableFloat
  /-- Less than the bound. -/
  | below (bound : String)
  /-- Not greater than the bound. -/
  | notAbove (bound : String)
  /-- Not less than or equal to the bound. -/
  | above (bound : String)
  /-- None of the choices. -/
  | noChoice (choices : List String)
  /-- Not a list. -/
  | notAList
  /-- Not an object. -/
  | notAnObject
  /-- Not an object that could be the record of the name. -/
  | notARecord (name : String)
  /-- A body that is no document. -/
  | notADocument
  /-- A stored text that is no document, for the reason. -/
  | unreadable (why : String)
deriving DecidableEq, Repr

/-- Something wrong at a place in a document. -/
structure Issue where
  /-- The way from the document to the value. -/
  path : List Step
  /-- What is wrong with the value. -/
  cause : Cause
deriving DecidableEq, Repr

namespace Cause

/-- The choices as a list in words. -/
def choicesText : List String → String
  | [] => ""
  | [a] => s!"'{a}'"
  | [a, b] => s!"'{a}' or '{b}'"
  | a :: rest => s!"'{a}', " ++ choicesText rest

/-- The name of a cause. -/
def kind (channel : Channel) : Cause → String
  | .missing => "missing"
  | .unexpected => "extra_forbidden"
  | .notAText => "string_type"
  | .torn => "string_unicode"
  | .tooShort _ => "string_too_short"
  | .tooLong _ => "string_too_long"
  | .mismatch _ => "string_pattern_mismatch"
  | .notAFlag => "bool_type"
  | .unreadableFlag => "bool_parsing"
  | .notAnInteger => "int_type"
  | .unreadableInteger => "int_parsing"
  | .fractional => "int_from_float"
  | .notFinite => "finite_number"
  | .oversized => "int_parsing_size"
  | .notAFloat => "float_type"
  | .unreadableFloat => "float_parsing"
  | .below _ => "greater_than_equal"
  | .notAbove _ => "greater_than"
  | .above _ => "less_than_equal"
  | .noChoice _ => "enum"
  | .notAList => "list_type"
  | .notAnObject => "dict_type"
  | .notARecord _ => match channel with
    | .body => "model_attributes_type"
    | _ => "model_type"
  | .notADocument | .unreadable _ => "json_invalid"

/-- A count of characters in words. -/
def characters (n : Nat) : String :=
  if n == 1 then "1 character" else s!"{n} characters"

/-- The wording of a cause. -/
def message (channel : Channel) : Cause → String
  | .missing => "Field required"
  | .unexpected => "Extra inputs are not permitted"
  | .notAText => "Input should be a valid string"
  | .torn =>
    "Input should be a valid string, unable to parse raw data as a unicode string"
  | .tooShort least => s!"String should have at least {characters least}"
  | .tooLong most => s!"String should have at most {characters most}"
  | .mismatch pattern => s!"String should match pattern '{pattern}'"
  | .notAFlag => "Input should be a valid boolean"
  | .unreadableFlag => "Input should be a valid boolean, unable to interpret input"
  | .notAnInteger => "Input should be a valid integer"
  | .unreadableInteger => "Input should be a valid integer, unable to parse string as an integer"
  | .fractional => "Input should be a valid integer, got a number with a fractional part"
  | .notFinite => "Input should be a finite number"
  | .oversized => "Unable to parse input string as an integer, exceeded maximum size"
  | .notAFloat => "Input should be a valid number"
  | .unreadableFloat => "Input should be a valid number, unable to parse string as a number"
  | .below bound => s!"Input should be greater than or equal to {bound}"
  | .notAbove bound => s!"Input should be greater than {bound}"
  | .above bound => s!"Input should be less than or equal to {bound}"
  | .noChoice choices => s!"Input should be {choicesText choices}"
  | .notAList => match channel with
    | .text => "Input should be a valid array"
    | _ => "Input should be a valid list"
  | .notAnObject => match channel with
    | .text => "Input should be an object"
    | _ => "Input should be a valid dictionary"
  | .notARecord name => match channel with
    | .value => s!"Input should be a valid dictionary or instance of {name}"
    | .text => "Input should be an object"
    | .body => "Input should be a valid dictionary or object to extract fields from"
  | .notADocument => "JSON decode error"
  | .unreadable why => s!"Invalid JSON: {why}"

end Cause

/-! ### Checked values -/

/-- A value of the domain, or all that is wrong with the document that it should have
been read from. -/
inductive Checked (α : Type) where
  /-- The document is in order. -/
  | valid (a : α)
  /-- The document has issues. -/
  | invalid (issues : List Issue)
deriving Repr

namespace Checked

variable {α β : Type}

/-- A value with a single issue. -/
def fault (cause : Cause) : Checked α := .invalid [⟨[], cause⟩]

/-- The same, with the function applied to the value. -/
def map (f : α → β) : Checked α → Checked β
  | .valid a => .valid (f a)
  | .invalid issues => .invalid issues

/-- A function applied to a value; the issues of both are kept. -/
def app : Checked (α → β) → (Unit → Checked α) → Checked β
  | .valid f, x => (x ()).map f
  | .invalid issues, x => match x () with
    | .valid _ => .invalid issues
    | .invalid more => .invalid (issues ++ more)

instance : Applicative Checked where
  pure := .valid
  map := map
  seq := app

/-- The same, one step further down in the document. -/
def under (step : Step) : Checked α → Checked α
  | .valid a => .valid a
  | .invalid issues => .invalid (issues.map fun i => ⟨step :: i.path, i.cause⟩)

/-- A value that must also pass a test. -/
def ensure (ok : α → Bool) (cause : Cause) : Checked α → Checked α
  | .valid a => if ok a then .valid a else fault cause
  | .invalid issues => .invalid issues

/-- The value, or the issues. -/
def toExcept : Checked α → Except (List Issue) α
  | .valid a => .ok a
  | .invalid issues => .error issues

@[simp] theorem pure_eq_valid (a : α) : (pure a : Checked α) = .valid a := rfl

@[simp] theorem map_valid (f : α → β) (a : α) : f <$> Checked.valid a = .valid (f a) := rfl

@[simp] theorem valid_seq_valid (f : α → β) (a : α) :
    Checked.valid f <*> Checked.valid a = .valid (f a) := rfl

end Checked

end Commissioning
