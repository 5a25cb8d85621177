import Commissioning.Intake.Issue
import Commissioning.Intake.Numeral
import Commissioning.Json.Stored

/-!
# Reading values of the domain

The readers by which a document becomes a value of the domain. They are lenient about
form where nothing is lost: a number may come as a numeral, a truth value as a word or
as one or zero, a whole number as a double without a fraction. A text must be a text; where
any text will do, a torn one will too, and it is kept as it is
(`Commissioning.Intake.looseText`) or as it is shown (`Commissioning.Intake.text`).

A reader takes a document and answers with a value or with issues. Readers of records
are put together from readers of members (`Commissioning.Intake.member`,
`Commissioning.Intake.required`); a member that a record does not have is ignored, and of
several with one name the last counts.
-/

namespace Commissioning

/-- A reader of values of the domain. -/
abbrev Intake (α : Type) := Json → Checked α

namespace Intake

variable {α : Type}

/-! ### Texts and truth values -/

/-- A text as it comes, torn or whole. -/
def looseText : Intake LooseText
  | .str s => .valid s
  | .torn t => .valid (.torn t)
  | _ => .fault .notAText

/-- A text; a torn one is taken as it is shown. -/
def text : Intake String
  | .str s => .valid s
  | .torn t => .valid t.shown
  | _ => .fault .notAText

/-- A text of characters only. -/
def wholeText : Intake String
  | .str s => .valid s
  | .torn _ => .fault .torn
  | _ => .fault .notAText

/-- A text of at least and at most so many characters. -/
def textWithin (least most : Nat) (j : Json) : Checked String :=
  ((wholeText j).ensure (fun s => least ≤ s.length) (.tooShort least)).ensure
    (fun s => s.length ≤ most) (.tooLong most)

/-- The words for truth values. -/
def flagWords : List (String × Bool) :=
  [("0", false), ("off", false), ("f", false), ("false", false), ("n", false), ("no", false),
   ("1", true), ("on", true), ("t", true), ("true", true), ("y", true), ("yes", true)]

/-- The truth value that a number stands for. -/
def flagOfInt (i : Int) : Checked Bool :=
  if i = 0 then .valid false else if i = 1 then .valid true else .fault .unreadableFlag

/-- Whether a whole number fits in 64 bits with a sign. -/
def fitsWord (i : Int) : Bool := -(2 ^ 63) ≤ i && i < 2 ^ 63

/-- The whole number that a double is, if it lies strictly between the least and the
first too large number of 64 bits. -/
def wordOfFloat? (x : Binary64) : Option Int :=
  match Number.ofBinary64 x with
  | .int i => if -(2 ^ 63) < i && i < 2 ^ 63 then some i else none
  | .float _ => none

/-- A truth value. -/
def flag : Intake Bool
  | .bool b => .valid b
  | .int i => if fitsWord i then flagOfInt i else .fault .notAFlag
  | .float x =>
    match wordOfFloat? x with
    | some i => flagOfInt i
    | none => .fault .notAFlag
  | .str s =>
    match Assoc.get? flagWords (String.ofList (s.toList.map Char.toLower)) with
    | some b => .valid b
    | none => .fault .unreadableFlag
  | .torn _ => .fault .torn
  | _ => .fault .notAFlag

/-! ### Numbers -/

/-- A double as a whole number. -/
def integerOfFloat (x : Binary64) : Checked Int :=
  if !x.isFinite then .fault .notFinite
  else match Number.ofBinary64 x, wordOfFloat? x with
    | _, some i => .valid i
    | .int _, none => .fault .oversized
    | .float _, none => .fault .fractional

/-- A whole numeral as a whole number. -/
def integerOfText (s : String) : Checked Int :=
  if isOversized s then .fault .oversized
  else match wholeOfNumeral? s with
    | some i => .valid i
    | none => .fault .unreadableInteger

/-- A whole number. -/
def integer : Intake Int
  | .bool b => .valid (if b then 1 else 0)
  | .int i => .valid i
  | .float x => integerOfFloat x
  | .str s => integerOfText s
  | .torn _ => .fault .torn
  | _ => .fault .notAnInteger

/-- A whole number within bounds. The upper bound is tested first. -/
def integerWithin (least most : Int) (j : Json) : Checked Int :=
  ((integer j).ensure (· ≤ most) (.above (toString most))).ensure
    (least ≤ ·) (.below (toString least))

/-- A whole number as a double. One that is too large for a finite double is infinite if
it is read off a text, where only its digits are known; elsewhere it is refused. -/
def floatOfInt (channel : Channel) (i : Int) : Checked Binary64 :=
  match Binary64.ofInt? i, channel with
  | some x, _ => .valid x
  | none, .text => .valid (.infinite (i < 0))
  | none, _ => .fault .notAFloat

/-- A double. -/
def float (channel : Channel) : Intake Binary64
  | .bool b => .valid (.ofRatio (if b then 1 else 0) 1)
  | .int i => floatOfInt channel i
  | .float x => .valid x
  | .str s => match floatOfNumeral? s with
    | some x => .valid x
    | none => .fault .unreadableFloat
  | .torn _ => .fault .torn
  | _ => .fault .notAFloat

/-- A double of at least and at most so much. The upper bound is tested first; what is
not a number fails it. -/
def floatWithin (least most : Nat) (j : Json) : Checked Binary64 :=
  ((float .value j).ensure
    (fun x => (Number.float x).le (.int most)) (.above (toString most))).ensure
    (fun x => (Number.int least).le (.float x)) (.below (toString least))

/-- A double of more than and at most so much. -/
def floatAbove (bound most : Nat) (j : Json) : Checked Binary64 :=
  ((float .value j).ensure
    (fun x => (Number.float x).le (.int most)) (.above (toString most))).ensure
    (fun x => (Number.int bound).lt (.float x)) (.notAbove (toString bound))

/-! ### Choices, optional values, lists -/

/-- One of several choices, each given by its name. -/
def choice (choices : List (String × α)) : Intake α
  | .str s => match Assoc.get? choices s with
    | some a => .valid a
    | none => .fault (.noChoice (Assoc.keys choices))
  | .torn _ => .fault .torn
  | _ => .fault (.noChoice (Assoc.keys choices))

/-- A value that may be absent. -/
def optional (read : Intake α) : Intake (Option α)
  | .null => .valid none
  | j => (read j).map some

/-- The items of a list, the first of which has the given index. -/
def itemsFrom (read : Intake α) : Nat → List Json → Checked (List α)
  | _, [] => .valid []
  | n, j :: js => (· :: ·) <$> (read j).under (.index n) <*> itemsFrom read (n + 1) js

/-- A list. -/
def list (read : Intake α) : Intake (List α)
  | .arr items => itemsFrom read 0 items
  | _ => .fault .notAList

/-- An object with any members. -/
def object : Intake Members
  | .obj members => .valid (Assoc.ofList (Json.tidiedMembers members))
  | _ => .fault .notAnObject

/-! ### Records -/

/-- A record of the name, read off the members of an object. -/
def record (name : String) (read : Members → Checked α) : Intake α
  | .obj members => read members
  | _ => .fault (.notARecord name)

/-- A member of a record; if it is missing, it has the given value. -/
def member (name : String) (read : Intake α) (default : α) (members : Members) : Checked α :=
  match members.last? name with
  | some j => (read j).under (.field name)
  | none => .valid default

/-- A member of a record that must be there. -/
def required (name : String) (read : Intake α) (members : Members) : Checked α :=
  match members.last? name with
  | some j => (read j).under (.field name)
  | none => .invalid [⟨[.field name], .missing⟩]

/-- **Reads a record from a stored text.** -/
def stored (read : Intake α) (s : String) : Checked α :=
  match Json.Stored.read s with
  | .ok j => read j
  | .error e => .fault (.unreadable (e.message s))

/-- One issue for every member whose name is not among the given ones. -/
def noOthers (names : List String) (members : Members) : Checked Unit :=
  match members.keys.filter fun name => !names.contains name with
  | [] => .valid ()
  | others => .invalid (others.map fun name => ⟨[.field name], .unexpected⟩)

end Intake

end Commissioning
