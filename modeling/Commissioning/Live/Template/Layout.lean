import Commissioning.Text.DecimalDigit
import Commissioning.Text.Hexadecimal

/-!
# Layouts

How a value is laid out where it is put into a template. A layout
(`Commissioning.Template.Layout`) says with what and to which side a value is filled up to
a width, and after how many characters it is cut off. It is written in a fixed order of
parts, all of which may be missing (`Commissioning.Template.Layout.ofChars`).

Layouts of texts and of whole numbers are written in the same way
(`Commissioning.Template.Subject`), but a text cannot be laid out with the parts for
numbers: `Commissioning.Template.Layout.apply` refuses them one by one. Counts are written
in the decimal digits of any script.
-/

namespace Commissioning

namespace Template

/-- The first number that a count must stay below. -/
def countLimit : Nat := 2 ^ 63

/-- The width above which no text is filled up. -/
def widthLimit : Nat := 2 ^ 24

/-- What is laid out. -/
inductive Subject where
  /-- A text. -/
  | text
  /-- A whole number. -/
  | whole
deriving DecidableEq, Repr

/-- The name of what is laid out. -/
def Subject.name : Subject → String
  | text => "str"
  | whole => "int"

/-- The form that is meant where none is written. -/
def Subject.form : Subject → Char
  | text => 's'
  | whole => 'd'

/-- What is wrong with a layout. -/
inductive LayoutError where
  /-- A count is too large. -/
  | tooManyDigits
  /-- Two marks for groups of digits stand side by side. -/
  | twoSeparators
  /-- A point stands without a count. -/
  | missingPrecision
  /-- Something is left that is no part of a layout. -/
  | unknown (subject : Subject) (layout : List Char)
  /-- The mark for groups of digits does not go with the form. -/
  | separator (mark form : Char)
  /-- What is laid out has no such form. -/
  | form (subject : Subject) (c : Char)
  /-- A text has no sign. -/
  | sign
  /-- A text has no space in place of a sign. -/
  | space
  /-- A text has no negative zero. -/
  | negativeZero
  /-- A text has no alternate form. -/
  | alternate
  /-- A text cannot be filled up behind its sign. -/
  | afterSign
  /-- A whole number is not cut off. -/
  | precision
  /-- A whole number has no negative zero. -/
  | wholeNegativeZero
  /-- A character has no sign. -/
  | characterSign
  /-- A character has no alternate form. -/
  | characterAlternate
  /-- A whole number is no character. -/
  | noCharacter
  /-- The count behind a point is too large. -/
  | precisionTooBig
  /-- The width is too large to be filled up. -/
  | tooWide
deriving DecidableEq, Repr

/-- A character as a message shows it: by its code unless it is printable and below the
bound. -/
def shownChar (bound : Nat) (c : Char) : String :=
  if 0x20 < c.toNat && c.toNat < bound then String.singleton c
  else String.ofList ('\\' :: 'x' :: Text.hexadecimal 1 c.toNat)

/-- The wording of an error. -/
def LayoutError.message : LayoutError → String
  | .tooManyDigits => "Too many decimal digits in format string"
  | .twoSeparators => "Cannot specify both ',' and '_'."
  | .missingPrecision => "Format specifier missing precision"
  | .unknown subject layout =>
    s!"Invalid format specifier '{String.ofList layout}' for object of type '{subject.name}'"
  | .separator mark code => s!"Cannot specify '{mark}' with '{shownChar 0x80 code}'."
  | .form subject c =>
    s!"Unknown format code '{shownChar 0x80 c}' for object of type '{subject.name}'"
  | .sign => "Sign not allowed in string format specifier"
  | .space => "Space not allowed in string format specifier"
  | .negativeZero => "Negative zero coercion (z) not allowed in string format specifier"
  | .alternate => "Alternate form (#) not allowed in string format specifier"
  | .afterSign => "'=' alignment not allowed in string format specifier"
  | .precision => "Precision not allowed in integer format specifier"
  | .wholeNegativeZero =>
    "Negative zero coercion (z) not allowed in integer format specifier"
  | .characterSign => "Sign not allowed with integer format specifier 'c'"
  | .characterAlternate => "Alternate form (#) not allowed with integer format specifier 'c'"
  | .noCharacter => "%c arg not in range(0x110000)"
  | .precisionTooBig => "precision too big"
  | .tooWide => ""

/-- Where a value stands in its width. -/
inductive Alignment where
  /-- At the beginning. -/
  | front
  /-- At the end. -/
  | back
  /-- In the middle. -/
  | center
  /-- At the end, with its sign at the beginning. -/
  | afterSign
deriving DecidableEq, Repr

/-- The alignment that a character stands for. -/
def Alignment.ofChar? (c : Char) : Option Alignment :=
  if c == '<' then some front else if c == '>' then some back
  else if c == '^' then some center else if c == '=' then some afterSign else none

/-- Where a value stands if no alignment is written, and whether a zero in front of the width
fills it up. -/
def Subject.alignment : Subject → Bool → Alignment
  | text, _ => .front
  | whole, true => .afterSign
  | whole, false => .back

/-- How a value is laid out. -/
structure Layout where
  /-- The character that it is filled up with. -/
  fill : Char
  /-- Where it stands. -/
  alignment : Alignment
  /-- Which sign a number has. -/
  sign : Option Char
  /-- Whether a number loses the sign of zero. -/
  dropsNegativeZero : Bool
  /-- Whether a number has its alternate form. -/
  alternate : Bool
  /-- The width up to which it is filled. -/
  width : Nat
  /-- The mark between groups of digits. -/
  separator : Option Char
  /-- After how many characters it is cut off. -/
  precision : Option Nat
  /-- Its form. -/
  form : Char
deriving DecidableEq, Repr

namespace Layout

/-! ### The parts of a layout -/

/-- The filling character and the alignment in front of a layout, and what is behind. -/
def splitAlignment (cs : List Char) : Option Char × Option Alignment × List Char :=
  match cs with
  | [] => (none, none, [])
  | [c] =>
    match Alignment.ofChar? c with
    | some a => (none, some a, [])
    | none => (none, none, cs)
  | fill :: c :: rest =>
    match Alignment.ofChar? c, Alignment.ofChar? fill with
    | some a, _ => (some fill, some a, rest)
    | none, some a => (none, some a, c :: rest)
    | none, none => (none, none, cs)

/-- A character of a kind in front of a text, if there is one, and what is behind. -/
def splitMark (is : Char → Bool) : List Char → Option Char × List Char
  | c :: cs => if is c then (some c, cs) else (none, c :: cs)
  | [] => (none, [])

/-- Whether a character says which sign a number has. -/
def isSign (c : Char) : Bool := c == ' ' || c == '+' || c == '-'

/-- The count in front of a text, behind what it amounts to so far, and what is behind. -/
def splitCount : Nat → List Char → Except LayoutError (Nat × List Char)
  | n, [] => .ok (n, [])
  | n, c :: cs =>
    match Text.digitValue? c with
    | none => .ok (n, c :: cs)
    | some d =>
      if n * 10 + d < countLimit then splitCount (n * 10 + d) cs else .error .tooManyDigits

/-- The mark between groups of digits in front of a text, and what is behind. -/
def splitSeparator : List Char → Except LayoutError (Option Char × List Char)
  | ',' :: '_' :: _ => .error .twoSeparators
  | '_' :: ',' :: _ => .error .twoSeparators
  | cs => .ok (splitMark (fun c => c == ',' || c == '_') cs)

/-- The count behind a point in front of a text, and what is behind. -/
def splitPrecision : List Char → Except LayoutError (Option Nat × List Char)
  | '.' :: cs => do
    let (n, rest) ← splitCount 0 cs
    if rest.length = cs.length then .error .missingPrecision else .ok (some n, rest)
  | cs => .ok (none, cs)

/-- Whether a mark between groups of digits goes with a form. -/
def separates (mark form : Char) : Bool :=
  ['d', 'e', 'f', 'g', 'E', 'G', '%', 'F', '\x00'].contains form ||
    (mark == '_' && ['b', 'o', 'x', 'X'].contains form)

/-- **The layout that is written.** -/
def ofChars (subject : Subject) (cs : List Char) : Except LayoutError Layout := do
  let (fill, alignment, rest) := splitAlignment cs
  let (sign, rest) := splitMark isSign rest
  let (negativeZero, rest) := splitMark (· == 'z') rest
  let (alternate, rest) := splitMark (· == '#') rest
  let (zero, rest) := splitMark (fun c => fill.isNone && c == '0') rest
  let (width, rest) ← splitCount 0 rest
  let (separator, rest) ← splitSeparator rest
  let (precision, rest) ← splitPrecision rest
  if 1 < rest.length then throw (.unknown subject cs)
  let form := rest.head?.getD subject.form
  match separator with
  | some mark => if !separates mark form then throw (.separator mark form)
  | none => pure ()
  return { fill := (fill.or zero).getD ' '
           alignment := alignment.getD (subject.alignment zero.isSome), sign
           dropsNegativeZero := negativeZero.isSome, alternate := alternate.isSome, width
           separator, precision, form }

/-! ### Laying out -/

/-- Why a text cannot be laid out, if it cannot. -/
def fault? (l : Layout) : Option LayoutError :=
  if l.form != 's' then some (.form .text l.form)
  else if l.sign == some ' ' then some .space
  else if l.sign.isSome then some .sign
  else if l.dropsNegativeZero then some .negativeZero
  else if l.alternate then some .alternate
  else if l.alignment == .afterSign then some .afterSign
  else if widthLimit < l.width then some .tooWide
  else none

/-- A text filled up to a width. -/
def padded (fill : Char) (alignment : Alignment) (width : Nat) (cs : List Char) : List Char :=
  let missing := width - cs.length
  let front := match alignment with
    | .front => 0
    | .center => missing / 2
    | .back | .afterSign => missing
  List.replicate front fill ++ cs ++ List.replicate (missing - front) fill

/-- A text as it is laid out. -/
def apply (l : Layout) (cs : List Char) : Except LayoutError (List Char) :=
  match l.fault? with
  | some e => .error e
  | none => .ok (padded l.fill l.alignment l.width ((l.precision.map cs.take).getD cs))

end Layout

/-- **A text as a written layout lays it out**; an empty layout leaves it as it is. -/
def layOut (layout cs : List Char) : Except LayoutError (List Char) := do
  if layout.isEmpty then return cs
  let l ← Layout.ofChars .text layout
  l.apply cs

end Template

end Commissioning
