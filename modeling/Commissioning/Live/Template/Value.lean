import Commissioning.Live.Template.Description
import Commissioning.Live.Template.Whole
import Commissioning.Text.Quoted

/-!
# Values in templates

A place of a template names a value and perhaps a way into it: behind a point the name of
an attribute, in brackets an index or a key (`Commissioning.Template.Part`). The values of
a template are texts. A text has characters by index, and its attributes lead to values of
other kinds (`Commissioning.Template.Value`).

An attribute of a value is looked up in its kind and the kind above it
(`Commissioning.Template.Value.property`). Operations found there come together with the
value that they would be applied to. A kind is a value too, and has in addition the
attributes that it keeps for its own values, as it keeps them. Operations are only named and
described here, not carried out.

`Commissioning.Template.valueAt` follows the way part by part, so that a fault is met only
behind the parts in front of it.
-/

namespace Commissioning

namespace Template

/-- Why a place has no value. -/
inductive ValueError where
  /-- No value has the name. -/
  | unknownName (name : List Char)
  /-- A place is numbered, but no values are. -/
  | numbered (index : Nat)
  /-- An index is too large. -/
  | tooManyDigits
  /-- The name of an attribute, or a key, is empty. -/
  | emptyPart
  /-- A bracket is not closed. -/
  | unclosedBracket
  /-- Something else than another part follows a closing bracket. -/
  | afterBracket
  /-- A value of the kind has no attribute of the name. -/
  | noAttribute (k : Kind) (name : List Char)
  /-- A kind has no attribute of the name. -/
  | noKindAttribute (k : Kind) (name : List Char)
  /-- A kind could have an attribute of the name, and has none. -/
  | unsetAttribute (name : List Char)
  /-- A text has no character at the index. -/
  | outOfRange
  /-- A text has characters by index, not by key. -/
  | keyed
  /-- A row has no value at the index. -/
  | outOfRow
  /-- A row has values by index, not by key. -/
  | keyedRow
  /-- A kind keeps nothing under the key. -/
  | unknownKey (key : List Char)
  /-- A kind keeps nothing by index. -/
  | unknownIndex (index : Nat)
  /-- A kind has nothing in brackets. -/
  | noKindItems (k : Kind)
  /-- A value of the kind has nothing in brackets. -/
  | noItems (k : Kind)
  /-- There is no such way to show a value. -/
  | unknownConversion (c : Char)
  /-- A value of the kind cannot be laid out. -/
  | noLayout (k : Kind)
deriving DecidableEq, Repr

/-- The wording of an error. -/
def ValueError.message : ValueError → String
  | .unknownName name => Text.quoted (String.ofList name)
  | .numbered index => s!"Replacement index {index} out of range for positional args tuple"
  | .tooManyDigits => LayoutError.tooManyDigits.message
  | .emptyPart => "Empty attribute in format string"
  | .unclosedBracket => "Missing ']' in format string"
  | .afterBracket => "Only '.' or '[' may follow ']' in format field specifier"
  | .noAttribute k name =>
    s!"'{k.name}' object has no attribute '{String.ofList name}'"
  | .noKindAttribute k name =>
    s!"type object '{k.name}' has no attribute '{String.ofList name}'"
  | .unsetAttribute name => String.ofList name
  | .outOfRange => "string index out of range"
  | .keyed => "string indices must be integers, not 'str'"
  | .outOfRow => "tuple index out of range"
  | .keyedRow => "tuple indices must be integers or slices, not str"
  | .unknownKey key => Text.quoted (String.ofList key)
  | .unknownIndex index => toString index
  | .noKindItems k => s!"type '{k.name}' is not subscriptable"
  | .noItems k => s!"'{k.name}' object is not subscriptable"
  | .unknownConversion c => s!"Unknown conversion specifier {shownChar 0x7f c}"
  | .noLayout k => s!"unsupported format string passed to {k.name}.__format__"

/-! ### Values -/

/-- A value. -/
inductive Value where
  /-- A text. -/
  | text (cs : List Char)
  /-- A whole number. -/
  | whole (n : Nat)
  /-- The absent value. -/
  | nothing
  /-- A kind. -/
  | kind (k : Kind)
  /-- A row of kinds. -/
  | row (ks : List Kind)
  /-- What a kind keeps. -/
  | table (k : Kind)
  /-- An operation together with a value. -/
  | bound (name : List Char) (owner : Value)
  /-- An operation on nothing, kept by a kind. -/
  | free (name : List Char) (home : Kind)
  /-- An operator together with a value, kept by a kind. -/
  | boundOperator (name : List Char) (home : Kind) (owner : Value)
  /-- An attribute as a kind keeps it. -/
  | member (manner : Manner) (name : List Char) (home : Kind)

namespace Value

/-- The kind of a value. -/
def kindOf : Value → Kind
  | text _ => .text
  | whole _ => .whole
  | nothing => .nothing
  | kind _ => .kind
  | row _ => .row
  | table _ => .table
  | bound .. | free .. => .bound
  | boundOperator .. => .boundOperator
  | member manner .. => match manner with
    | .operator => .operator
    | .onKind => .onKind
    | .made => .made
    | .kept => .kept
    | .operation | .maker | .free | .description | .lacking => .operation

/-- A text that there may be. -/
def ofText? : Option String → Value
  | some s => text s.toList
  | none => nothing

/-! ### Showing a value -/

/-- A kind as text. -/
def shownKind (k : Kind) : String := s!"<class '{k.name}'>"

/-- A row as text: a row of one has a comma behind it. -/
def shownRow : List Kind → String
  | [k] => s!"({shownKind k},)"
  | ks => "(" ++ ", ".intercalate (ks.map shownKind) ++ ")"

/-- The place of a value in memory, which is not modelled: any one stands for all. -/
def placeText : String := "0x7f0000000000"

/-- A value as text. -/
def shown : Value → List Char
  | text cs => cs
  | whole n => Nat.toDigits 10 n
  | nothing => "None".toList
  | kind k => (shownKind k).toList
  | row ks => (shownRow ks).toList
  | table _ => "mappingproxy(\x7b\x7d)".toList
  | bound name owner =>
    s!"<built-in method {String.ofList name} of {owner.kindOf.name} object at {placeText}>".toList
  | free name _ =>
    s!"<built-in method {String.ofList name} of {Kind.kind.name} object at {placeText}>".toList
  | boundOperator name _ owner =>
    s!"<method-wrapper '{String.ofList name}' of {owner.kindOf.name} object at {placeText}>".toList
  | member manner name home =>
    let what := match manner with
      | .operator => "slot wrapper"
      | .made => "attribute"
      | .kept => "member"
      | _ => "method"
    s!"<{what} '{String.ofList name}' of '{home.name}' objects>".toList

/-- A value as a conversion shows it; the character zero stands for none. -/
def convert (v : Value) : Option Char → Except ValueError Value
  | none | some '\x00' => .ok v
  | some 's' => .ok (text v.shown)
  | some 'r' => .ok (text (match v with
    | text cs => Text.quotedChars cs
    | _ => v.shown))
  | some 'a' => .ok (text (match v with
    | text cs => Text.quotedPlainChars cs
    | _ => v.shown))
  | some c => .error (.unknownConversion c)

/-! ### Attributes -/

/-- The name of an attribute behind that of its kind. -/
def qualified (k : Kind) (name : List Char) : Value := text (k.name.toList ++ '.' :: name)

/-- An attribute that a kind has as a value, if it is one of its own. -/
def kindAttribute (k : Kind) (name : List Char) : Except ValueError Value :=
  match String.ofList name with
  | "__name__" | "__qualname__" => .ok (text k.name.toList)
  | "__module__" => .ok (text Kind.moduleName.toList)
  | "__bases__" => .ok (row k.bases)
  | "__base__" => .ok (match k.bases with
    | base :: _ => kind base
    | [] => nothing)
  | "__mro__" => .ok (row k.ascending)
  | "__basicsize__" => .ok (whole k.size)
  | "__itemsize__" => .ok (whole k.itemSize)
  | "__flags__" => .ok (whole k.flags)
  | "__dictoffset__" => .ok (whole k.tableOffset)
  | "__weakrefoffset__" => .ok (whole k.referrersOffset)
  | "__text_signature__" => .ok (ofText? k.signature?)
  | "__dict__" => .ok (table k)
  | "__abstractmethods__" => .error (.unsetAttribute name)
  | "__doc__" => .ok (if k.description?.isSome || k.hasDescription then ofText? k.description?
      else member .made name k)
  | _ => .error (.noKindAttribute k name)

/-- What an operation has under a name: its own name, what keeps it, what it is applied to,
and how it is described. The kind in front of its name need not be the one that keeps it. -/
def operationAttribute (name : List Char) (home shownAs : Kind) (owner : Value)
    (asked : String) : Value :=
  match asked with
  | "__name__" => text name
  | "__qualname__" => qualified shownAs name
  | "__objclass__" => kind home
  | "__self__" => owner
  | "__doc__" => ofText? (home.describe? name)
  | "__text_signature__" => ofText? (home.callForm? name)
  | _ => nothing

/-- The kind that keeps an operation of a value, and the kind in front of its name. -/
def homeOf (name : List Char) (owner : Value) : Kind × Kind :=
  let shownAs := match owner with
    | kind k => k
    | _ => owner.kindOf
  match shownAs.find? name, owner.kindOf.find? name with
  | some (home, _), _ | none, some (home, _) => (home, shownAs)
  | none, none => (shownAs, shownAs)

/-- What a value has under the name of an attribute that is made or kept for it. -/
def own (v : Value) (name : List Char) : Except ValueError Value :=
  if name = "__class__".toList then .ok (kind v.kindOf)
  else match v with
    | kind k => kindAttribute k name
    | whole n => .ok (match String.ofList name with
      | "imag" => whole 0
      | "denominator" => whole 1
      | _ => whole n)
    | bound op owner =>
      let (home, shownAs) := homeOf op owner
      .ok (operationAttribute op home shownAs owner (String.ofList name))
    | free op home => .ok (operationAttribute op home home nothing (String.ofList name))
    | boundOperator op home owner =>
      .ok (operationAttribute op home home owner (String.ofList name))
    | member _ op home => .ok (operationAttribute op home home nothing (String.ofList name))
    | _ => .ok nothing

/-- An attribute that a kind keeps, for a value of the kind. -/
def bind (v : Value) (name : List Char) (home : Kind) : Manner → Except ValueError Value
  | .operator => .ok (boundOperator name home v)
  | .operation => .ok (bound name v)
  | .onKind => .ok (bound name (kind v.kindOf))
  | .maker => .ok (bound name (kind home))
  | .free => .ok (free name home)
  | .description => .ok (ofText? home.description?)
  | .lacking => .ok nothing
  | .made | .kept => v.own name

/-- An attribute that a kind keeps, for a kind that has it. -/
def bindKind (k : Kind) (name : List Char) (home : Kind) : Manner → Value
  | .onKind => bound name (kind k)
  | .maker => bound name (kind home)
  | .free => free name home
  | .description => ofText? home.description?
  | .lacking => nothing
  | manner => member manner name home

/-- An attribute that a kind keeps, as it is kept. -/
def unbound (name : List Char) (home : Kind) : Manner → Value
  | .maker => bound name (kind home)
  | .free => free name home
  | .description => ofText? home.description?
  | .lacking => nothing
  | manner => member manner name home

/-- Whether an attribute of a kind as a value comes before what the kind keeps. -/
def comesFirst (m : Manner) : Bool := m == .made || m == .kept

/-- **The attribute of a value under a name.** -/
def property (name : List Char) (v : Value) : Except ValueError Value :=
  match v, v.kindOf.find? name with
  | kind k, found =>
    match found, k.find? name with
    | some (home, m), keeps =>
      if comesFirst m then v.bind name home m
      else match keeps with
        | some (home, m) => .ok (bindKind k name home m)
        | none => v.bind name home m
    | none, some (home, m) => .ok (bindKind k name home m)
    | none, none => .error (.noKindAttribute k name)
  | _, some (home, m) => v.bind name home m
  | _, none => .error (.noAttribute v.kindOf name)

/-! ### Items -/

/-- What a value has at an index. -/
def atIndex (n : Nat) : Value → Except ValueError Value
  | text cs => match cs[n]? with
    | some c => .ok (text [c])
    | none => .error .outOfRange
  | row ks => match ks[n]? with
    | some k => .ok (kind k)
    | none => .error .outOfRow
  | table _ => .error (.unknownIndex n)
  | kind k => .error (.noKindItems k)
  | v => .error (.noItems v.kindOf)

/-- What a value has under a key. -/
def atKey (key : List Char) : Value → Except ValueError Value
  | text _ => .error .keyed
  | row _ => .error .keyedRow
  | table k => match k.manner? key with
    | some m => .ok (unbound key k m)
    | none => .error (.unknownKey key)
  | kind k => .error (.noKindItems k)
  | v => .error (.noItems v.kindOf)

end Value

/-! ### Names and parts -/

/-- The index that a name is, behind what its digits amount to so far; none if it is not
made of digits. -/
def indexFrom : Nat → List Char → Except ValueError (Option Nat)
  | n, [] => .ok (some n)
  | n, c :: cs =>
    match Text.digitValue? c with
    | none => .ok none
    | some d =>
      if n * 10 + d < countLimit then indexFrom (n * 10 + d) cs else .error .tooManyDigits

/-- The index that a name is, if it is one. -/
def indexOf (name : List Char) : Except ValueError (Option Nat) :=
  if name.isEmpty then .ok none else indexFrom 0 name

/-- A step into a value. -/
inductive Part where
  /-- To an attribute. -/
  | property (name : List Char)
  /-- To an item, by index or key. -/
  | item (name : List Char)

/-- What a value has at a part. -/
def Part.follow (v : Value) : Part → Except ValueError Value
  | property name => if name.isEmpty then .error .emptyPart else v.property name
  | item name => do
    match ← indexOf name with
    | some n => v.atIndex n
    | none => if name.isEmpty then .error .emptyPart else v.atKey name

/-- Whether a character begins a part. -/
def opensPart (c : Char) : Bool := c == '.' || c == '['

/-- The first part of a way, and what is behind it. -/
def splitPart : List Char → Except ValueError (Part × List Char)
  | '.' :: cs =>
    .ok (.property (cs.takeWhile (!opensPart ·)), cs.dropWhile (!opensPart ·))
  | '[' :: cs =>
    match cs.dropWhile (· != ']') with
    | [] => .error .unclosedBracket
    | _ :: rest => .ok (.item (cs.takeWhile (· != ']')), rest)
  | _ => .error .afterBracket

/-- Follows a way, in so many steps at most. -/
def follow : Nat → Value → List Char → Except ValueError Value
  | _, v, [] => .ok v
  | 0, v, _ => .ok v
  | fuel + 1, v, cs => do
    let (part, rest) ← splitPart cs
    follow fuel (← part.follow v) rest

/-- The values of a template by name. -/
abbrev Values := List (List Char × List Char)

/-- The value under a name without a way. -/
def valueNamed (values : Values) (name : List Char) : Except ValueError Value := do
  match ← indexOf name with
  | some n => .error (.numbered n)
  | none =>
    if name.isEmpty then .error (.numbered 0)
    else match values.find? fun v => v.1 == name with
      | some (_, cs) => .ok (.text cs)
      | none => .error (.unknownName name)

/-- **The value that a place names.** -/
def valueAt (values : Values) (name : List Char) : Except ValueError Value := do
  let v ← valueNamed values (name.takeWhile (!opensPart ·))
  follow name.length v (name.dropWhile (!opensPart ·))

end Template

end Commissioning
