import Commissioning.Api.Authority
import Commissioning.Gateway.Address
import Commissioning.Json.Display
import Commissioning.Text.Percent

/-!
# Targets of requests

A request is sent to a target: a path, and behind a question mark the parameters of a query
(`Commissioning.Target.ofText`). A scheme and an authority may stand in front, and a
fragment behind. The fragment does not matter. The segments `.` and `..` of the path are
worked off as they are written, and only then are percent signs read.

A target with both a scheme and a host stands for itself, and its scheme must be one that
the server speaks. Every other target is meant at the server: its path begins with exactly
one slash, and what stands in front of it does not matter, as long as it is in order.

Some texts are no targets (`Commissioning.TargetError`): those with control characters,
those that are too long or have a part that is, those with an authority that is none, and
those whose path could be taken for something else.
-/

namespace Commissioning

/-- Where a request is sent. -/
structure Target where
  /-- The path. -/
  path : List Char
  /-- The parameters of the query; of several with one name the last counts. -/
  query : Assoc String String
deriving DecidableEq, Repr, Inhabited

/-- Why a text is no target. -/
inductive TargetError where
  /-- It has too many characters. -/
  | tooLong
  /-- One of its parts has too many characters in the form in which it is sent. -/
  | partTooLong (part : String)
  /-- It holds a control character. -/
  | control (c : Char) (position : Nat)
  /-- Its authority is not in order. -/
  | authority (why : AuthorityError)
  /-- Its path begins like a host. -/
  | likeHost
  /-- Its path begins like what stands behind a scheme. -/
  | likeScheme
  /-- Its scheme is none that the server speaks. -/
  | foreignScheme (scheme : List Char)
  /-- What stands behind the first colon of its host and port is no port. -/
  | unreachable (port : List Char)
deriving DecidableEq, Repr

/-- The wording of an error. -/
def TargetError.message : TargetError → String
  | .tooLong => "URL too long"
  | .partTooLong part => s!"URL component '{part}' too long"
  | .control c position =>
    s!"Invalid non-printable ASCII character in URL, {Text.quoted (String.singleton c)} " ++
      s!"at position {position}."
  | .authority why => why.message
  | .likeHost => "Relative URLs cannot have a path starting with '//'"
  | .likeScheme => "Relative URLs cannot have a path starting with ':'"
  | .foreignScheme scheme => Text.quoted (String.ofList scheme)
  | .unreachable port =>
    s!"invalid literal for int() with base 10: {Text.quoted (String.ofList port)}"

namespace Target

/-! ### Paths -/

/-- Segments with those that mean this one or the one above worked off, behind the segments
so far, the last one in front. The empty segment in front of the first slash stays. -/
def workOff : List (List Char) → List (List Char) → List (List Char)
  | done, [] => done.reverse
  | done, segment :: rest =>
    if segment = ['.'] then workOff done rest
    else if segment = ['.', '.'] then workOff (if done = [[]] then done else done.tail) rest
    else workOff (segment :: done) rest

/-- A path without segments that lead elsewhere. -/
def normalized (path : List Char) : List Char :=
  Text.joinWith '/' (workOff [] (Text.splitOn '/' path))

/-- A path with exactly one slash in front, as it is meant at the server. -/
def rooted (path : List Char) : List Char := '/' :: path.dropWhile (· == '/')

/-! ### Queries -/

/-- The text that a part of a query stands for. -/
def queryText (cs : List Char) : String :=
  String.ofList (Text.percentDecoded (cs.map fun c => if c == '+' then ' ' else c))

/-- A parameter of a query. -/
def parameter (cs : List Char) : String × String :=
  let (name, value?) := Text.cutFirst '=' cs
  (queryText name, queryText (value?.getD []))

/-- The parameters of a query, in order. -/
def parameters (cs : List Char) : List (String × String) :=
  ((Text.splitOn '&' cs).filter (!·.isEmpty)).map parameter

/-- The text of a value that is sent as a parameter. -/
def valueText : Json → String
  | .null => ""
  | .bool b => if b then "true" else "false"
  | j => j.display?.getD ""

/-- The texts of a value that is sent as parameters of one name: a list gives one each. -/
def valueTexts : Json → List String
  | .arr items => items.map valueText
  | j => [valueText j]

/-- A parameter that is given as a list of its name and its value. -/
def pairParameter? : Json → Option (String × String)
  | .arr [name, value] => some (valueText name, valueText value)
  | _ => none

/-- The parameters that a document gives, in order: an object by name, a list one by one, and
a text as they are written. -/
def givenParameters : Json → List (String × String)
  | .obj members => members.flatMap fun m => (valueTexts m.2).map fun t => (m.1, t)
  | .arr pairs => pairs.filterMap pairParameter?
  | .str query => parameters query.toList
  | _ => []

/-! ### Targets -/

/-- The greatest number of characters of a target, and of a part of it as it is sent. -/
def lengthLimit : Nat := 65536

/-- How many characters a text takes where it is sent. Characters that cannot be sent as they
are take three for each of their bytes. -/
def sentLength (isPlain : Char → Bool) (cs : List Char) : Nat :=
  cs.foldl (fun n c => n + if isPlain c then 1 else 3 * c.utf8Size) 0

/-- Whether a character of a query can be sent as it is. -/
def isPlainInQuery (c : Char) : Bool :=
  c.toNat < 0x7f && !([' ', '"', '#', '<', '>'].contains c)

/-- Whether a character of a path can be sent as it is. -/
def isPlainInPath (c : Char) : Bool :=
  isPlainInQuery c && !(['?', '\x60', '\x7b', '\x7d'].contains c)

/-- Whether a character of a parameter can be sent as it is, or as a plus sign. -/
def isPlainInParameter (c : Char) : Bool :=
  c.isAlphanum || [' ', '_', '.', '-', '~'].contains c

/-- Checks the lengths of a path and a query. -/
def checkLengths (path : List Char) (query? : Option (List Char)) : Except TargetError Unit :=
  if lengthLimit < sentLength isPlainInPath path then .error (.partTooLong "path")
  else if lengthLimit < sentLength isPlainInQuery (query?.getD []) then
    .error (.partTooLong "query")
  else .ok ()

/-- How many characters parameters take where they are sent, each with a mark behind its name
and one in front of the next. -/
def parametersLength (ps : List (String × String)) : Nat :=
  let length (s : String) := sentLength isPlainInParameter s.toList + 1
  ps.foldl (fun n p => n + length p.1 + length p.2) 0 - 1

/-- Whether a character is one of the first 128 and cannot be shown. -/
def isControl (c : Char) : Bool := c.toNat < 0x20 || c.toNat == 0x7f

/-- Checks the characters of a target. -/
def checkChars (cs : List Char) : Except TargetError Unit :=
  if lengthLimit < cs.length then .error .tooLong
  else match cs.find? isControl with
    | some c => .error (.control c (cs.idxOf c))
    | none => .ok ()

/-- Whether a text may stand in front of the colon behind a scheme. It may be empty. -/
def isScheme : List Char → Bool
  | [] => true
  | c :: cs => c.isAlpha && cs.all Address.isSchemeChar

/-- The scheme in front of a text, if a colon stands behind it, and the text behind. -/
def splitScheme (cs : List Char) : List Char × List Char :=
  match Text.cutFirst ':' cs with
  | (scheme, some rest) => if isScheme scheme then (scheme, rest) else ([], cs)
  | (_, none) => ([], cs)

/-- Checks the path of a target with neither scheme nor authority. -/
def checkPath (path : List Char) : Except TargetError Unit :=
  if ['/', '/'].isPrefixOf path then .error .likeHost
  else if path.head? = some ':' then .error .likeScheme
  else .ok ()

/-- The schemes that the server speaks. -/
def schemes : List (List Char) := ["http", "https", "ws", "wss"].map String.toList

/-- Checks that a target which stands for itself can be reached. -/
def checkReach (scheme : List Char) (a : Authority) : Except TargetError Unit :=
  if !schemes.contains scheme then .error (.foreignScheme scheme)
  else if a.host.contains ':' then .error (.unreachable ((Text.cutFirst ':' a.place).2.getD []))
  else .ok ()

/-- **The target that a text writes.** -/
def ofText (s : String) : Except TargetError Target := do
  checkChars s.toList
  let (scheme, cs) := splitScheme s.toList
  let (authority, cs) := Address.splitAuthority cs
  let (cs, _) := Text.cutFirst '#' cs
  let (path, query?) := Text.cutFirst '?' cs
  let authority ← (Authority.ofChars scheme authority).mapError .authority
  let isBare := scheme.isEmpty && authority.isEmpty
  if isBare then checkPath path
  let path := if isBare then path else normalized path
  let path ←
    if scheme.isEmpty || authority.host.isEmpty then do
      checkLengths (rooted path) query?
      pure (normalized (rooted path))
    else do
      checkReach (scheme.map Char.toLower) authority
      pure path
  return { path := Text.percentDecoded (if path.isEmpty then ['/'] else path)
           query := Assoc.ofList (parameters (query?.getD [])) }

/-- A target with the given parameters in place of those that are written, unless the
absent value is given. -/
def withParameters (t : Target) : Json → Except TargetError Target
  | .null => .ok t
  | given =>
    let ps := givenParameters given
    if lengthLimit < parametersLength ps then .error (.partTooLong "query")
    else .ok { t with query := Assoc.ofList ps }

end Target

end Commissioning
