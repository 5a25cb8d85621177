import Commissioning.Api.HostName.Characters
import Commissioning.Api.HostName.Punycode
import Commissioning.Text.Split

/-!
# Host names of any script

The name of a host is made of labels with points between them
(`Commissioning.HostName.isName`). A name with characters beyond the first 128 is checked
label by label (`Commissioning.HostName.isLabel`): a label has only characters of words,
some of them only beside certain others (`Commissioning.HostName.isAllowedBetween`), it has
them in their composed form, it does not begin with a mark or begin or end with a hyphen,
and it is read in one direction (`Commissioning.HostName.isOneWay`). Labels and names have
a greatest length, which counts for the form in which they are sent.
-/

namespace Commissioning

namespace HostName

/-! ### Labels -/

/-- Whether a character may stand between others in a label: in front of it those given
first, the nearest first. -/
def isAllowedBetween (label before : List Char) (c : Char) (after : List Char) : Bool :=
  let behind (ranges : List (Nat × Nat)) := before.head?.any (inRanges ranges)
  let n := c.toNat
  if n = 0xb7 then before.head? = some 'l' && after.head? = some 'l'
  else if n = 0x375 then after.head?.any (inRanges greek)
  else if n = 0x5f3 ∨ n = 0x5f4 then behind hebrew
  else if n = 0x30fb then label.any (inRanges middleDotScripts)
  else if 0x660 ≤ n ∧ n ≤ 0x669 then !label.any (inRanges [(0x6f0, 0x6f9)])
  else if 0x6f0 ≤ n ∧ n ≤ 0x6f9 then !label.any (inRanges [(0x660, 0x669)])
  else if n = 0x200c ∨ n = 0x200d then behind viramas
  else isAllowed c

/-- Whether the rest of a label has only characters that may stand where they are, behind
those in front of it, the nearest first. -/
def isAllowedFrom (label : List Char) : List Char → List Char → Bool
  | _, [] => true
  | before, c :: after =>
    isAllowedBetween label before c after && isAllowedFrom label (c :: before) after

/-- Whether no two characters of a text could be put together. -/
def isComposed : List Char → Bool
  | c :: d :: cs => !compose c d && isComposed (d :: cs)
  | _ => true

/-- Whether the hyphens of a label stand where they may: neither at an end nor in the third
place with another one behind. -/
def hasPlainHyphens (label : List Char) : Bool :=
  label.head? != some '-' && label.getLast? != some '-' && (label.drop 2).take 2 != ['-', '-']

/-- Whether a label is read in one direction. One with letters that are read from the right
begins with one, has none that are read from the left, and ends with a letter or a digit;
and its digits are all of one kind. -/
def isOneWay (label : List Char) : Bool :=
  let directions := label.map direction
  let last? := (directions.filter (· != .mark)).getLast?
  !(directions.contains .fromRight || directions.contains .rightDigit) ||
    (directions.head? = some .fromRight && !directions.contains .fromLeft &&
      last? != some .neutral &&
      !(directions.contains .digit && directions.contains .rightDigit))

/-- Whether a text is a label as it is read. -/
def isLabel (label : List Char) : Bool :=
  !label.isEmpty && isComposed label && hasPlainHyphens label && !label.head?.any isMark &&
    isAllowedFrom label [] label && isOneWay label

/-! ### Names -/

/-- What stands in front of a label that is sent in few letters. -/
def sentMark : List Char := ['x', 'n', '-', '-']

/-- The greatest length of a label as it is sent. -/
def labelLimit : Nat := 63

/-- The greatest length of a name as it is sent, without a point at its end. -/
def nameLimit : Nat := 253

/-- A label as it is sent, if it is one. One that is written in few letters already is sent
as it is. -/
def sentLabel? (label : List Char) : Option (List Char) :=
  let sent := if label.all Punycode.isPlain then label else sentMark ++ Punycode.encode label
  let isFine :=
    if label.all Punycode.isPlain && sentMark.isPrefixOf label then
      label != sentMark && label.getLast? != some '-'
    else isLabel label
  if isFine && sent.length ≤ labelLimit then some sent else none

/-- The points that may stand between labels. -/
def points : List Char := ['.', '\u3002', '\uff0e', '\uff61']

/-- The labels of a name. A point at its end begins no other label. -/
def labels (name : List Char) : List (List Char) :=
  let parts := Text.splitOn '.' (name.map fun c => if points.contains c then '.' else c)
  if parts.getLast? = some [] then parts.dropLast else parts

/-- **Whether a text is the name of a host.** -/
def isName (name : List Char) : Bool :=
  match (labels (name.map Char.toLower)).mapM sentLabel? with
  | some sent => (Text.joinWith '.' sent).length ≤ nameLimit
  | none => false

end HostName

end Commissioning
