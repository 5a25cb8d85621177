import Commissioning.Assoc
import Commissioning.Number.Basic
import Commissioning.Text.Torn

/-!
# Documents

`Commissioning.Json` is the type of the values that requests, stored entries, device
messages and gateway answers are made of. It keeps whole numbers apart from doubles
and the members of an object in order; both show in what is written.

`Commissioning.Json.alike` is the comparison of values as the wizard's rules make it:
by value rather than by form. A truth value counts as the number one or zero, numbers
are compared exactly whatever their form, and the order of members does not matter.
-/

namespace Commissioning

/-- A document. -/
inductive Json where
  /-- The absent value. -/
  | null
  /-- A truth value. -/
  | bool (b : Bool)
  /-- A whole number. -/
  | int (i : Int)
  /-- A double-precision number. -/
  | float (x : Binary64)
  /-- A text. -/
  | str (s : String)
  /-- A text with half of a pair of surrogates in it. -/
  | torn (t : TornText)
  /-- A list of documents. -/
  | arr (items : List Json)
  /-- An object: its members, in order. -/
  | obj (members : List (String × Json))
deriving Inhabited

/-- The members of an object. -/
abbrev Members := Assoc String Json

/-- A number as a document. -/
def Number.toJson : Number → Json
  | .int i => .int i
  | .float x => .float x

/-- A text as a document. -/
def LooseText.toJson : LooseText → Json
  | .whole s => .str s
  | .torn t => .torn t

namespace Json

/-- A text, or the absent value. -/
def ofOptionStr : Option String → Json
  | some s => .str s
  | none => .null

/-- A whole number, or the absent value. -/
def ofOptionInt : Option Int → Json
  | some i => .int i
  | none => .null

/-- A double, or the absent value. -/
def ofOptionFloat : Option Binary64 → Json
  | some x => .float x
  | none => .null

/-- The number that a truth value or a number counts as. -/
def number? : Json → Option Number
  | .bool b => some (.int (if b then 1 else 0))
  | .int i => some (.int i)
  | .float x => some (.float x)
  | _ => none

mutual

/-- Whether two documents have the same value. -/
def alike (a b : Json) : Bool :=
  match a, b with
  | .null, .null => true
  | .bool a, b => sameNumber (.bool a) b
  | .int a, b => sameNumber (.int a) b
  | .float a, b => sameNumber (.float a) b
  | .str a, .str b => a == b
  | .torn a, .torn b => a == b
  | .arr as, .arr bs => alikeItems as bs
  | .obj as, .obj bs => as.length == bs.length && alikeMembers as bs
  | _, _ => false
where
  /-- Whether two documents count as the same number. -/
  sameNumber (a b : Json) : Bool :=
    match a.number?, b.number? with
    | some m, some n => m.sameValue n
    | _, _ => false

/-- Whether two lists have the same values one by one. -/
def alikeItems : List Json → List Json → Bool
  | [], [] => true
  | a :: as, b :: bs => alike a b && alikeItems as bs
  | _, _ => false

/-- Whether every member has its like under the same name in another object. -/
def alikeMembers : List (String × Json) → Members → Bool
  | [], _ => true
  | (k, a) :: as, bs =>
    (match bs.get? k with
      | some b => alike a b
      | none => false) && alikeMembers as bs

end

end Json

end Commissioning
