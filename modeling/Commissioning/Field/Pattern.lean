import Commissioning.Text.Blank

/-!
# Patterns

A pattern is a sequence of parts: a character or a class of characters, and how often
it may be repeated. That is enough for the postal codes, addresses and serial numbers
of the forms. A pattern is always matched against a whole text
(`Commissioning.Pattern.accepts`), and a part may give characters back to the parts
behind it.

`Commissioning.Pattern.text` is the notation in which a pattern is shown, and
`Commissioning.Pattern.ofText?` reads it.
-/

namespace Commissioning

namespace Pattern

/-- A member of a class of characters. -/
inductive Member where
  /-- One character. -/
  | single (c : Char)
  /-- The characters from one to another. -/
  | range (first last : Char)
  /-- Every blank. -/
  | blank
deriving DecidableEq, Repr

/-- Whether a member has a character in it. -/
def Member.has : Member → Char → Bool
  | .single a, c => a == c
  | .range first last, c => first.toNat ≤ c.toNat && c.toNat ≤ last.toNat
  | .blank, c => Text.isBlank c

/-- What one repetition of a part may be. -/
inductive Glyph where
  /-- This character. -/
  | literal (c : Char)
  /-- A character with one of the members, or with none of them if the class is
  negated. -/
  | oneOf (negated : Bool) (members : List Member)
deriving DecidableEq, Repr

/-- Whether a part accepts a character. -/
def Glyph.has : Glyph → Char → Bool
  | .literal a, c => a == c
  | .oneOf negated members, c => (members.any fun m => m.has c) != negated

/-- How often a part is repeated. -/
inductive Repetition where
  /-- Once. -/
  | once
  /-- Once or more. -/
  | some
  /-- A fixed number of times. -/
  | exactly (n : Nat)
  /-- Between two numbers of times. -/
  | between (least most : Nat)
deriving DecidableEq, Repr

/-- The least number of repetitions. -/
def Repetition.least : Repetition → Nat
  | .once | .some => 1
  | .exactly n => n
  | .between least _ => least

/-- Whether there may be more than the number of repetitions. -/
def Repetition.mayExceed : Repetition → Nat → Bool
  | .once, n => n < 1
  | .some, _ => true
  | .exactly m, n => n < m
  | .between _ most, n => n < most

/-- A part of a pattern. -/
structure Part where
  /-- What each repetition may be. -/
  glyph : Glyph
  /-- How often it is repeated. -/
  repetition : Repetition
deriving DecidableEq, Repr

/-- Whether a text is some repetitions of a part, `n` of which have been seen, and then
a text that the rest of the pattern accepts. -/
def acceptsFrom (part : Part) (rest : List Char → Bool) : Nat → List Char → Bool
  | n, [] => part.repetition.least ≤ n && rest []
  | n, c :: cs =>
    (part.repetition.least ≤ n && rest (c :: cs)) ||
      (part.repetition.mayExceed n && part.glyph.has c && acceptsFrom part rest (n + 1) cs)

/-- Whether a text is accepted part by part. -/
def acceptsParts : List Part → List Char → Bool
  | [] => List.isEmpty
  | part :: parts => acceptsFrom part (acceptsParts parts) 0

end Pattern

/-- A pattern that a whole text must follow. -/
structure Pattern where
  /-- The parts in order. -/
  parts : List Pattern.Part
deriving DecidableEq, Repr

namespace Pattern

/-- **Whether a whole text follows the pattern.** -/
def accepts (p : Pattern) (s : List Char) : Bool := acceptsParts p.parts s

/-! ### Notation -/

/-- The characters that mean something by themselves and so need a backslash. -/
def isSpecial (c : Char) : Bool := ".^$*+?{}[]\\|()".toList.contains c

/-- A member as it is shown. -/
def Member.chars : Member → List Char
  | .single c => [c]
  | .range first last => [first, '-', last]
  | .blank => ['\\', 's']

/-- A glyph as it is shown. -/
def Glyph.chars : Glyph → List Char
  | .literal c => if isSpecial c then ['\\', c] else [c]
  | .oneOf negated members =>
    '[' :: (if negated then ['^'] else []) ++ members.flatMap Member.chars ++ [']']

/-- A repetition as it is shown. -/
def Repetition.chars : Repetition → List Char
  | .once => []
  | .some => ['+']
  | .exactly n => '{' :: Nat.toDigits 10 n ++ ['}']
  | .between least most => '{' :: Nat.toDigits 10 least ++ ',' :: Nat.toDigits 10 most ++ ['}']

/-- A part as it is shown. -/
def Part.chars (part : Part) : List Char := part.glyph.chars ++ part.repetition.chars

/-- A pattern as it is shown. -/
def text (p : Pattern) : String := String.ofList (p.parts.flatMap Part.chars)

/-- Reads the members of a class up to its closing bracket, behind those read so far
(the last one first). -/
def membersOf? : List Member → List Char → Option (List Member × List Char)
  | _, [] => none
  | done, ']' :: cs => some (done.reverse, cs)
  | done, '\\' :: 's' :: cs => membersOf? (.blank :: done) cs
  | done, a :: '-' :: ']' :: cs => membersOf? (.single a :: done) ('-' :: ']' :: cs)
  | done, a :: '-' :: b :: cs => membersOf? (.range a b :: done) cs
  | done, a :: cs => membersOf? (.single a :: done) cs

/-- Reads a repetition, if the text goes on with one. -/
def repetitionOf? (cs : List Char) : Option (Repetition × List Char) :=
  match cs with
  | '+' :: cs => some (.some, cs)
  | '{' :: cs =>
    let least := cs.takeWhile Char.isDigit
    match cs.dropWhile Char.isDigit with
    | '}' :: cs => some (.exactly (Nat.ofDigitChars 10 least 0), cs)
    | ',' :: cs =>
      let most := cs.takeWhile Char.isDigit
      match cs.dropWhile Char.isDigit with
      | '}' :: cs =>
        some (.between (Nat.ofDigitChars 10 least 0) (Nat.ofDigitChars 10 most 0), cs)
      | _ => none
    | _ => none
  | cs => some (.once, cs)

/-- Reads the glyph at the front of a pattern. -/
def glyphOf? : List Char → Option (Glyph × List Char)
  | [] => none
  | '[' :: '^' :: cs => (membersOf? [] cs).map fun r => (.oneOf true r.1, r.2)
  | '[' :: cs => (membersOf? [] cs).map fun r => (.oneOf false r.1, r.2)
  | '\\' :: 's' :: cs => some (.oneOf false [.blank], cs)
  | '\\' :: c :: cs => some (.literal c, cs)
  | c :: cs => if isSpecial c then none else some (.literal c, cs)

/-- Reads at most so many parts. -/
def partsOf? : Nat → List Char → Option (List Part)
  | _, [] => some []
  | 0, _ => none
  | fuel + 1, cs => do
    let (glyph, cs) ← glyphOf? cs
    let (repetition, cs) ← repetitionOf? cs
    let parts ← partsOf? fuel cs
    some (⟨glyph, repetition⟩ :: parts)

/-- Reads a pattern. -/
def ofText? (s : String) : Option Pattern :=
  (partsOf? s.length s.toList).map fun parts => ⟨parts⟩

end Pattern

end Commissioning
