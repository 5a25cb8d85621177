/-!
# Taking templates apart

A template is a text with places in braces, each of which names a value; a brace that is
text is written twice. Behind the name a place may say with `!` how the value is shown
and with a colon how it is laid out.

`Commissioning.Template.scan` takes a template apart in one pass over its characters, by a
machine whose states are `Commissioning.Template.Scan`. A fault is met only when filling
comes to it, so scanning gives the pieces in front of the fault together with the fault.
-/

namespace Commissioning

namespace Template

/-- What is wrong with how a template is written. -/
inductive ScanError where
  /-- An opening brace stands alone at the end. -/
  | loneOpening
  /-- A closing brace stands alone. -/
  | loneClosing
  /-- The template ends inside a place. -/
  | unclosed
  /-- An opening brace stands in a name. -/
  | braceInName
  /-- The template ends where a place says how its value is shown. -/
  | noConversion
  /-- Something else than a colon or the end of the place follows. -/
  | afterConversion
  /-- The template ends inside a layout. -/
  | unclosedLayout
deriving DecidableEq, Repr

/-- The wording of a fault. -/
def ScanError.message : ScanError → String
  | .loneOpening => "Single '\x7b' encountered in format string"
  | .loneClosing => "Single '\x7d' encountered in format string"
  | .unclosed => "expected '\x7d' before end of string"
  | .braceInName => "unexpected '\x7b' in field name"
  | .noConversion => "end of string while looking for conversion specifier"
  | .afterConversion => "expected ':' after conversion specifier"
  | .unclosedLayout => "unmatched '\x7b' in format spec"

/-- A place for a value. -/
structure Place where
  /-- The name of the value. -/
  name : List Char
  /-- How it is shown. -/
  conversion : Option Char := none
  /-- How it is laid out. -/
  layout : List Char := []
deriving DecidableEq, Repr

/-- A piece of a template. -/
inductive Piece where
  /-- A character that stands for itself. -/
  | char (c : Char)
  /-- A place for a value. -/
  | place (p : Place)
deriving DecidableEq, Repr

/-! ### The machine -/

/-- Where scanning stands; what has been collected of a place is kept in reverse. -/
inductive Scan where
  /-- In text. -/
  | text
  /-- Behind an opening brace. -/
  | opened
  /-- Behind a closing brace in text. -/
  | closed
  /-- In the name of a place. -/
  | name (done : List Char)
  /-- In brackets in the name of a place. -/
  | bracket (done : List Char)
  /-- Where a place says how its value is shown. -/
  | conversion (name : List Char)
  /-- Behind that. -/
  | converted (name : List Char) (c : Char)
  /-- In a layout, so many braces deep. -/
  | layout (name : List Char) (conversion : Option Char) (depth : Nat) (done : List Char)

/-- What a character leads to: a piece that is complete, if any, and the next state. -/
abbrev Move := Except ScanError (Option Piece × Scan)

/-- The step for a character of a name. -/
def nameStep (done : List Char) (c : Char) : Move :=
  if c == '\x7b' then .error .braceInName
  else if c == '\x7d' then .ok (some (.place { name := done.reverse }), .text)
  else if c == '[' then .ok (none, .bracket (c :: done))
  else if c == '!' then .ok (none, .conversion done.reverse)
  else if c == ':' then .ok (none, .layout done.reverse none 0 [])
  else .ok (none, .name (c :: done))

/-- The step for a character. -/
def step : Scan → Char → Move
  | .text, c =>
    if c == '\x7b' then .ok (none, .opened)
    else if c == '\x7d' then .ok (none, .closed)
    else .ok (some (.char c), .text)
  | .opened, c => if c == '\x7b' then .ok (some (.char c), .text) else nameStep [] c
  | .closed, c => if c == '\x7d' then .ok (some (.char c), .text) else .error .loneClosing
  | .name done, c => nameStep done c
  | .bracket done, c => .ok (none, if c == ']' then .name (c :: done) else .bracket (c :: done))
  | .conversion name, c => .ok (none, .converted name c)
  | .converted name conversion, c =>
    if c == '\x7d' then .ok (some (.place { name, conversion := some conversion }), .text)
    else if c == ':' then .ok (none, .layout name (some conversion) 0 [])
    else .error .afterConversion
  | .layout name conversion depth done, c =>
    if c == '\x7b' then .ok (none, .layout name conversion (depth + 1) (c :: done))
    else if c == '\x7d' then
      if depth = 0 then
        .ok (some (.place { name, conversion, layout := done.reverse }), .text)
      else .ok (none, .layout name conversion (depth - 1) (c :: done))
    else .ok (none, .layout name conversion depth (c :: done))

/-- The fault of a template that ends in a state, if it is one. -/
def endFault : Scan → Option ScanError
  | .text => none
  | .opened => some .loneOpening
  | .closed => some .loneClosing
  | .name _ | .bracket _ => some .unclosed
  | .conversion _ => some .noConversion
  | .converted .. | .layout .. => some .unclosedLayout

/-- **The pieces of a template** up to its first fault, and the fault. -/
def scan : Scan → List Char → List Piece × Option ScanError
  | state, [] => ([], endFault state)
  | state, c :: cs =>
    match step state c with
    | .error e => ([], some e)
    | .ok (piece, next) =>
      let (pieces, fault) := scan next cs
      (piece.toList ++ pieces, fault)

end Template

end Commissioning
