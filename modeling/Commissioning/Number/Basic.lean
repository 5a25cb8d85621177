import Commissioning.Number.Binary64

/-!
# Numbers

A number is a whole number of any size or a double-precision number, and it stays
what it is: the two are compared by their exact values (`Commissioning.Number.lt`,
`Commissioning.Number.sameValue`), never by rounding one to the other.

To compare, a number is placed on the extended line of multiples of 2⁻¹⁰⁷⁴
(`Commissioning.Number.position?`); the value that is not a number has no place, and
so is neither less than, nor the same as, nor greater than anything.
-/

namespace Commissioning

/-- A number as a message or a form holds it. -/
inductive Number where
  /-- A whole number of any size. -/
  | int (i : Int)
  /-- A double-precision number. -/
  | float (x : Binary64)
deriving DecidableEq, Inhabited

/-- A place on the line of numbers, both ends included. -/
inductive Position where
  /-- Before every finite number. -/
  | bottom
  /-- The finite number of so many units. -/
  | finite (units : Int)
  /-- After every finite number. -/
  | top
deriving DecidableEq

namespace Position

/-- Whether one place comes before another. -/
def lt : Position → Position → Bool
  | .bottom, .bottom => false
  | .bottom, _ => true
  | .finite u, .finite v => u < v
  | .finite _, .top => true
  | _, _ => false

end Position

namespace Binary64

/-- The place of a number on the line; none if it is not a number. -/
def position? : Binary64 → Option Position
  | .nan => none
  | .infinite negative => some (if negative then .bottom else .top)
  | .finite negative u _ => some (.finite (if negative then -(u : Int) else u))

end Binary64

namespace Number

/-- The place of a number on the line; none if it is not a number. -/
def position? : Number → Option Position
  | .int i => some (.finite (i * Binary64.one))
  | .float x => x.position?

/-- Whether one number is less than another, by exact value. -/
def lt (m n : Number) : Bool :=
  match m.position?, n.position? with
  | some p, some q => p.lt q
  | _, _ => false

/-- Whether two numbers have the same value. -/
def sameValue (m n : Number) : Bool :=
  match m.position?, n.position? with
  | some p, some q => p == q
  | _, _ => false

/-- Whether one number is at most another. -/
def le (m n : Number) : Bool := m.lt n || m.sameValue n

/-- A double as a number: one that is whole becomes a whole number. -/
def ofBinary64 : Binary64 → Number
  | .finite negative u h =>
    if u % Binary64.one = 0 then
      .int (if negative then -((u / Binary64.one : Nat) : Int) else (u / Binary64.one : Nat))
    else .float (.finite negative u h)
  | x => .float x

end Number

end Commissioning
