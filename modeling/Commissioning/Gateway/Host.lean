import Commissioning.Number.Numeral
import Commissioning.Text.Hexadecimal
import Commissioning.Text.Quoted
import Commissioning.Text.Split

/-!
# Hosts

An authority names a host, perhaps with a user in front and a port behind. A host that is
written with colons stands in brackets, and what stands in brackets must be such a host:
an address of sixteen bytes (`Commissioning.Host.isLong`), or one of a later kind that
begins with `v` (`Commissioning.Host.isLater`). Addresses of four bytes
(`Commissioning.Host.isShort`) need no brackets and must not have them.

An authority is also refused if it holds a character that could be mistaken for one of the
marks that end an authority (`Commissioning.Host.isDeceptive`).
-/

namespace Commissioning

/-- Why a text is no address. -/
inductive AddressError where
  /-- The brackets about the host do not match, or something stands beside them. -/
  | unbalancedBrackets
  /-- A host of a later kind breaks off. -/
  | incompleteHost
  /-- An address of four bytes stands in brackets. -/
  | bracketedShort
  /-- No address stands in brackets. -/
  | unknownHost (host : List Char)
  /-- An authority holds a character that could be mistaken for a mark. -/
  | deceptive (authority : List Char)
deriving DecidableEq, Repr

/-- The wording of an error. -/
def AddressError.message : AddressError → String
  | .unbalancedBrackets => "Invalid IPv6 URL"
  | .incompleteHost => "IPvFuture address is invalid"
  | .bracketedShort => "An IPv4 address cannot be in brackets"
  | .unknownHost host =>
    s!"{Text.quoted (String.ofList host)} does not appear to be an IPv4 or IPv6 address"
  | .deceptive authority =>
    s!"netloc '{String.ofList authority}' contains invalid characters under NFKC normalization"

namespace Host

/-! ### Addresses of hosts -/

/-- Whether a text is a number below 256, without zeros in front. -/
def isByte (cs : List Char) : Bool :=
  !cs.isEmpty && cs.all Char.isDigit && cs.length ≤ 3 &&
    (cs == ['0'] || cs.head? != some '0') && natOfDigits cs ≤ 255

/-- Whether a text is an address of four bytes: four numbers with points between them. -/
def isShort (cs : List Char) : Bool :=
  let parts := Text.splitOn '.' cs
  parts.length == 4 && parts.all isByte

/-- Whether a text is a group of an address of sixteen bytes: up to four hexadecimal
digits. -/
def isGroup (cs : List Char) : Bool :=
  !cs.isEmpty && cs.length ≤ 4 && cs.all Text.isHexDigit

/-- The parts of an address of sixteen bytes between its colons. Four bytes at the end
count as two groups. -/
def groups? (cs : List Char) : Option (List (List Char)) :=
  let parts := Text.splitOn ':' cs
  let last := parts.getLast?.getD []
  if parts.length < 3 then none
  else if !last.contains '.' then some parts
  else if isShort last then some (parts.dropLast ++ [['0'], ['0']])
  else none

/-- Whether groups are an address: eight of them, or fewer around one gap. A gap at either
end is written with an empty group there as well. -/
def isComplete (groups : List (List Char)) : Bool :=
  let inside := (groups.drop 1).dropLast
  let (front, back) := (inside.takeWhile (!·.isEmpty), inside.dropWhile (!·.isEmpty))
  match back with
  | [] => groups.length == 8 && groups.all isGroup
  | _ :: back =>
    let front := (groups.head?.toList ++ front)
    let back := back ++ groups.getLast?.toList
    let front := if front == [[]] then [] else front
    let back := if back == [[]] then [] else back
    front.length + back.length ≤ 7 && (front ++ back).all isGroup

/-- Whether a text is an address of sixteen bytes: groups with colons between them, and
perhaps a zone behind a percent sign. -/
def isLong (cs : List Char) : Bool :=
  let (address, zone?) := Text.cutFirst '%' cs
  let zoneIsFine := match zone? with
    | some zone => !zone.isEmpty && !zone.contains '%'
    | none => true
  !cs.contains '/' && zoneIsFine && (groups? address).any isComplete

/-- Whether a text is a host of a later kind: `v`, hexadecimal digits, a point, and
something behind it. -/
def isLater (cs : List Char) : Bool :=
  match Text.cutFirst '.' (cs.drop 1) with
  | (kind, some rest) =>
    !kind.isEmpty && kind.all Text.isHexDigit && !rest.isEmpty
  | _ => false

/-- Checks a host that stands in brackets. -/
def checkBracketed (host : List Char) : Except AddressError Unit :=
  if host.head? = some 'v' then
    if isLater host then .ok () else .error .incompleteHost
  else if isShort host then .error .bracketedShort
  else if isLong host then .ok ()
  else .error (.unknownHost host)

/-! ### Authorities -/

/-- Checks the brackets of an authority. Only behind a user do they count. -/
def checkBrackets (authority : List Char) : Except AddressError Unit :=
  if !authority.contains '[' && !authority.contains ']' then .ok ()
  else if !(authority.contains '[' && authority.contains ']') then .error .unbalancedBrackets
  else
    let (_, place) := Text.cutLast '@' authority
    match Text.cutFirst '[' place with
    | (front, some bracketed) =>
      let (host, port?) := Text.cutFirst ']' bracketed
      let port := port?.getD []
      if !front.isEmpty || (!port.isEmpty && port.head? != some ':') then
        .error .unbalancedBrackets
      else checkBracketed host
    | (_, none) => checkBracketed (Text.cutFirst ':' place).1

/-- The characters whose compatible form holds one of the marks `/`, `?`, `#`, `@` and
`:`. -/
def deceptive : List Nat :=
  [0x2047, 0x2048, 0x2049, 0x2100, 0x2101, 0x2105, 0x2106, 0x2a74, 0xfe13, 0xfe16, 0xfe55,
   0xfe56, 0xfe5f, 0xfe6b, 0xff03, 0xff0f, 0xff1a, 0xff1f, 0xff20]

/-- Whether a character could be mistaken for a mark that ends an authority. -/
def isDeceptive (c : Char) : Bool := deceptive.contains c.toNat

/-- Checks the characters of an authority. -/
def checkChars (authority : List Char) : Except AddressError Unit :=
  if authority.any isDeceptive then .error (.deceptive authority) else .ok ()

end Host

end Commissioning
