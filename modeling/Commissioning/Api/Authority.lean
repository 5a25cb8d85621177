import Commissioning.Api.HostName
import Commissioning.Assoc
import Commissioning.Gateway.Host

/-!
# Authorities

The authority of a target names a host, perhaps with a user in front and a port behind
(`Commissioning.Authority.ofChars`). The user reaches to the last at sign. A host in
brackets reaches to the last closing one, any other host to the first colon; what is left
is the port, with or without a colon.

A host in brackets must be an address of sixteen bytes, and one that is styled like an
address of four bytes (`Commissioning.Authority.isShortStyled`) must be one. A host with
characters beyond the first 128 must be a name (`Commissioning.HostName.isName`); every
other host is taken as one. A port may be any whole numeral, whatever its size or sign.
-/

namespace Commissioning

/-- An authority, part by part; a part that is missing is empty. -/
structure Authority where
  /-- The user. -/
  user : List Char
  /-- The host, without brackets. -/
  host : List Char
  /-- The port, unless it is the usual one. -/
  port : Option Int
deriving DecidableEq, Repr

/-- Why a text is no authority. -/
inductive AuthorityError where
  /-- The host is styled like an address of four bytes, and is none. -/
  | notShort (host : List Char)
  /-- The host stands in brackets, and is no address of sixteen bytes. -/
  | notLong (host : List Char)
  /-- The host is no name. -/
  | notAName (host : List Char)
  /-- The port is no whole numeral. -/
  | notAPort (port : List Char)
deriving DecidableEq, Repr

/-- The wording of an error. -/
def AuthorityError.message : AuthorityError → String
  | .notShort host => s!"Invalid IPv4 address: {Text.quoted (String.ofList host)}"
  | .notLong host => s!"Invalid IPv6 address: {Text.quoted (String.ofList host)}"
  | .notAName host => s!"Invalid IDNA hostname: {Text.quoted (String.ofList host)}"
  | .notAPort port => s!"Invalid port: {Text.quoted (String.ofList port)}"

namespace Authority

/-! ### Hosts -/

/-- Where a character leads on the way through a host of four numbers. A state says how
many marks between numbers are to come, and whether a number has been begun behind the
last one. A digit may also be a mark. -/
def styleStep (c : Char) (state : Nat × Bool) : List (Nat × Bool) :=
  (if c.isDigit then [(state.1, true)] else []) ++
    match state with
    | (marks + 1, true) => [(marks, false)]
    | _ => []

/-- Whether a host is styled like an address of four bytes: four numbers, and between them
one character each, whichever it is. -/
def isShortStyled (host : List Char) : Bool :=
  (host.foldl (fun states c => (states.flatMap (styleStep c)).eraseDups) [(3, false)]).contains
    (0, true)

/-- The host in front of a text, with its brackets if it has them, and the text behind. -/
def splitHost (cs : List Char) : List Char × List Char :=
  match cs.head?, Text.cutLast ']' cs with
  | some '[', (some front, back) => (front ++ [']'], back)
  | _, _ => (cs.takeWhile (· != ':'), cs.dropWhile (· != ':'))

/-- A host without its brackets, if it is in order. -/
def readHost (host : List Char) : Except AuthorityError (List Char) :=
  if isShortStyled host then
    if Host.isShort host then .ok host else .error (.notShort host)
  else if host.head? = some '[' ∧ host.getLast? = some ']' then
    let address := (host.drop 1).dropLast
    if Host.isLong address then .ok address else .error (.notLong host)
  else if host.all HostName.Punycode.isPlain || HostName.isName host then .ok host
  else .error (.notAName host)

/-! ### Ports -/

/-- The port that is meant where a scheme is given without one. -/
def usualPort? (scheme : List Char) : Option Int :=
  Assoc.get? [("ftp", 21), ("http", 80), ("https", 443), ("ws", 80), ("wss", 443)]
    (String.ofList scheme)

/-- The port that a text behind a host writes, unless it is the usual one. -/
def readPort (scheme cs : List Char) : Except AuthorityError (Option Int) :=
  let cs := match cs with
    | ':' :: port => port
    | cs => cs
  if cs.isEmpty then .ok none
  else match intOfText? (String.ofList cs) with
    | some port => .ok (if usualPort? scheme = some port then none else some port)
    | none => .error (.notAPort cs)

/-! ### Authorities -/

/-- **The authority that a text writes** behind a scheme. -/
def ofChars (scheme cs : List Char) : Except AuthorityError Authority := do
  let (user?, place) := Text.cutLast '@' cs
  let (host, port) := splitHost place
  return ⟨user?.getD [], ← readHost host, ← readPort scheme port⟩

/-- Whether nothing at all is named. -/
def isEmpty (a : Authority) : Bool := a.user.isEmpty && a.host.isEmpty && a.port.isNone

/-- The host and the port as text, with brackets about a host that has colons. -/
def place (a : Authority) : List Char :=
  (if a.host.contains ':' then ['['] ++ a.host ++ [']'] else a.host) ++
    match a.port with
    | some port => ':' :: (toString port).toList
    | none => []

end Authority

end Commissioning
