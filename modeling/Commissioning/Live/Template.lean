import Commissioning.Live.Template.Scale
import Commissioning.Live.Template.Scan
import Commissioning.Live.Template.Value

/-!
# Templates

A template is filled with values by name (`Commissioning.Template.fill`). Its pieces are
put one behind the other: characters as they are, and for each place the value that it
names, shown and laid out as the place says. A layout may itself hold places, but those
hold no more: templates are nested at most `Commissioning.Template.depthLimit` deep.

Whatever is wrong is reported when filling comes to it, so the first fault counts.
-/

namespace Commissioning

namespace Template

/-- Why a template cannot be filled. -/
inductive TemplateError where
  /-- The template is not written as it should be. -/
  | scan (why : ScanError)
  /-- A place has no value. -/
  | value (why : ValueError)
  /-- A value cannot be laid out. -/
  | layout (why : LayoutError)
  /-- Places are nested too deep. -/
  | tooDeep
deriving DecidableEq, Repr

/-- The wording of an error. -/
def TemplateError.message : TemplateError → String
  | .scan why => why.message
  | .value why => why.message
  | .layout why => why.message
  | .tooDeep => "Max string recursion exceeded"

/-- How deep templates may be nested. -/
def depthLimit : Nat := 2

/-- A value as a layout lays it out. -/
def Value.layOut (layout : List Char) : Value → Except TemplateError (List Char)
  | text cs => (Template.layOut layout cs).mapError .layout
  | whole n => (Template.layOutNumber layout n).mapError .layout
  | v => if layout.isEmpty then .ok v.shown else .error (.value (.noLayout v.kindOf))

/-- The text of a piece, given what becomes of a layout that holds places. -/
def Piece.fill (values : Values) (expand : List Char → Except TemplateError (List Char)) :
    Piece → Except TemplateError (List Char)
  | .char c => .ok [c]
  | .place p => do
    let value ← (valueAt values p.name).mapError .value
    let shown ← (value.convert p.conversion).mapError .value
    let layout ← if p.layout.contains '\x7b' then expand p.layout else .ok p.layout
    shown.layOut layout

/-- The text of pieces, and of the fault that follows them. -/
def fillPieces (fill : Piece → Except TemplateError (List Char)) (fault : Option ScanError) :
    List Piece → Except TemplateError (List Char)
  | [] => match fault with
    | some e => .error (.scan e)
    | none => .ok []
  | piece :: pieces => do
    let front ← fill piece
    let back ← fillPieces fill fault pieces
    return front ++ back

/-- The text of a template that may be nested so deep. -/
def fillChars (values : Values) : Nat → List Char → Except TemplateError (List Char)
  | 0, _ => .error .tooDeep
  | depth + 1, cs =>
    let (pieces, fault) := scan .text cs
    fillPieces (Piece.fill values (fillChars values depth)) fault pieces

end Template

/-- **Fills a template** with values. -/
def Template.fill (template : String) (values : List (String × String)) :
    Except Template.TemplateError String := do
  let values := values.map fun v => (v.1.toList, v.2.toList)
  return String.ofList (← Template.fillChars values Template.depthLimit template.toList)

end Commissioning
