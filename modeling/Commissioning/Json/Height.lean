import Commissioning.Json.Basic

/-!
# How deep documents are

`Commissioning.Json.height` counts the levels of a document: a value that holds no others
has one, and a list or an object has one more than the highest value in it. Work that is
done value inside value is bounded by it.
-/

namespace Commissioning

namespace Json

mutual

/-- **How many levels a document has.** -/
def height : Json → Nat
  | .arr items => itemsHeight items + 1
  | .obj members => membersHeight members + 1
  | _ => 1

/-- The levels of the highest of some items; none if there are none. -/
def itemsHeight : List Json → Nat
  | [] => 0
  | j :: js => max (height j) (itemsHeight js)

/-- The levels of the highest value among some members; none if there are none. -/
def membersHeight : List (String × Json) → Nat
  | [] => 0
  | (_, j) :: ms => max (height j) (membersHeight ms)

end

end Json

end Commissioning
