import Commissioning.Gateway.Host
import Commissioning.Text.Blank

/-!
# Addresses

An address has six parts: a scheme, an authority, a path, parameters, a query and a
fragment (`Commissioning.Address`). `Commissioning.Address.resolve` gives the address
that a reference means when it is met at a base: parts that the reference has are its
own, parts before them are those of the base, and the segments `.` and `..` of the path
are worked off.

A reference with a scheme of its own, or with one that has no hierarchy, stands for
itself.
-/

namespace Commissioning

/-- An address, part by part; a part that is missing is empty. -/
structure Address where
  /-- The scheme, in small letters. -/
  scheme : List Char
  /-- The host, with user and port. -/
  authority : List Char
  /-- The path. -/
  path : List Char
  /-- The parameters of the last segment of the path. -/
  parameters : List Char
  /-- The query. -/
  query : List Char
  /-- The fragment. -/
  fragment : List Char
deriving DecidableEq, Repr

namespace Address

/-- The schemes in which a reference can be relative. -/
def hierarchical : List (List Char) :=
  ["", "ftp", "http", "gopher", "nntp", "imap", "wais", "file", "https", "shttp", "mms",
   "prospero", "rtsp", "rtspu", "sftp", "svn", "svn+ssh", "ws", "wss"].map String.toList

/-- The schemes with parameters behind the path. -/
def withParameters : List (List Char) :=
  ["", "ftp", "hdl", "prospero", "http", "imap", "https", "shttp", "rtsp", "rtspu",
   "sip", "sips", "mms", "sftp", "tel"].map String.toList

/-! ### Taking an address apart -/

/-- A text without what no address holds: control characters and blanks in front, and
breaks and tabs anywhere. -/
def cleaned (cs : List Char) : List Char :=
  (cs.dropWhile fun c => c.toNat ≤ 0x20).filter fun c => c != '\t' && c != '\r' && c != '\n'

/-- Whether a character can stand in a scheme. -/
def isSchemeChar (c : Char) : Bool := c.isAlphanum || c == '+' || c == '-' || c == '.'

/-- The scheme in front of a text, if it has one, and the text behind. -/
def splitScheme (fallback cs : List Char) : List Char × List Char :=
  match Text.cutFirst ':' cs with
  | (c :: scheme, some rest) =>
    if c.isAlpha && scheme.all isSchemeChar then ((c :: scheme).map Char.toLower, rest)
    else (fallback, cs)
  | _ => (fallback, cs)

/-- Whether a character can stand in an authority. -/
def isAuthorityChar (c : Char) : Bool := c != '/' && c != '?' && c != '#'

/-- The authority in front of a text, if it has one, and the text behind. -/
def splitAuthority : List Char → List Char × List Char
  | '/' :: '/' :: cs => (cs.takeWhile isAuthorityChar, cs.dropWhile isAuthorityChar)
  | cs => ([], cs)

/-- The parameters behind the last segment of a path. -/
def splitParameters (scheme path : List Char) : List Char × List Char :=
  if withParameters.contains scheme then
    match Text.cutLast '/' path with
    | (front, last) =>
      let (segment, parameters) := Text.cutFirst ';' last
      ((match front with
        | some front => front ++ '/' :: segment
        | none => segment), parameters.getD [])
  else (path, [])

/-- **Takes an address apart**; one without a scheme has the given one. -/
def split (fallback cs : List Char) : Except AddressError Address := do
  let (scheme, cs) := splitScheme fallback (cleaned cs)
  let (authority, cs) := splitAuthority cs
  Host.checkBrackets authority
  Host.checkChars authority
  let (cs, fragment) := Text.cutFirst '#' cs
  let (path, query) := Text.cutFirst '?' cs
  let (path, parameters) := splitParameters scheme path
  return ⟨scheme, authority, path, parameters, query.getD [], fragment.getD []⟩

/-! ### Putting an address together -/

/-- A part of an address behind its mark; nothing if the part is empty. -/
def marked (mark : Char) (part : List Char) : List Char :=
  if part.isEmpty then [] else mark :: part

/-- Whether a path would be taken for an authority in front of a text. -/
def opensAuthority : List Char → Bool
  | '/' :: '/' :: _ => true
  | _ => false

/-- The authority and the path of an address. An empty authority is written behind a scheme
only, and not where the path begins as if one stood there. -/
def authorityAndPath (a : Address) : List Char :=
  let path := a.path ++ marked ';' a.parameters
  if a.authority.isEmpty && (a.scheme.isEmpty || opensAuthority path) then path
  else
    ['/', '/'] ++ a.authority ++
      (if path.isEmpty || path.head? == some '/' then path else '/' :: path)

/-- **An address as text.** -/
def chars (a : Address) : List Char :=
  (if a.scheme.isEmpty then [] else a.scheme ++ [':']) ++ a.authorityAndPath ++
    marked '?' a.query ++ marked '#' a.fragment

/-! ### References -/

/-- The empty segments inside a path taken out; the first and the last one stay. -/
def dropEmptyInside : List (List Char) → List (List Char)
  | [] => []
  | first :: rest =>
    first :: (rest.dropLast.filter (!·.isEmpty) ++ rest.getLast?.toList)

/-- Segments with those that mean this one or the one above worked off; the segments
so far come first, the last one in front. -/
def workOff : List (List Char) → List (List Char) → List (List Char)
  | done, [] => done.reverse
  | done, segment :: rest =>
    if segment = ['.', '.'] then workOff done.tail rest
    else if segment = ['.'] then workOff done rest
    else workOff (segment :: done) rest

/-- The segments of the directory that a path lies in. -/
def directory (path : List Char) : List (List Char) :=
  let segments := Text.splitOn '/' path
  if segments.getLast? = some [] then segments else segments.dropLast

/-- The path that a path means at a base. -/
def resolvePath (base path : List Char) : List Char :=
  let segments :=
    if path.head? = some '/' then Text.splitOn '/' path
    else dropEmptyInside (directory base ++ Text.splitOn '/' path)
  let ends := segments.getLast?
  let done := workOff [] segments ++
    if ends = some ['.'] ∨ ends = some ['.', '.'] then [[]] else []
  let joined := Text.joinWith '/' done
  if joined.isEmpty then ['/'] else joined

/-- The address that a reference means at a base of the same scheme. -/
def resolveWithin (base reference : Address) : Address :=
  if !reference.authority.isEmpty then reference
  else if reference.path.isEmpty && reference.parameters.isEmpty then
    { reference with
      authority := base.authority, path := base.path, parameters := base.parameters
      query := if reference.query.isEmpty then base.query else reference.query }
  else
    { reference with
      authority := base.authority, path := resolvePath base.path reference.path }

/-- **The address that a reference means at a base.** -/
def resolve (base reference : List Char) : Except AddressError (List Char) :=
  if base.isEmpty then .ok reference
  else if reference.isEmpty then .ok base
  else do
    let b ← split [] base
    let r ← split b.scheme reference
    if r.scheme ≠ b.scheme ∨ !hierarchical.contains r.scheme then return reference
    else return (b.resolveWithin r).chars

/-! ### Addresses of requests -/

/-- The word that may stand in front of an address. -/
def label : List Char := ['U', 'R', 'L', ':']

/-- An address without blanks, angle brackets and a label about it. -/
def bare (cs : List Char) : List Char :=
  let cs := Text.trim cs
  let cs := match cs with
    | '<' :: rest => if rest.getLast? = some '>' then Text.trim rest.dropLast else cs
    | _ => cs
  if label.isPrefixOf cs then Text.trim (cs.drop label.length) else cs

/-- Whether an address says how it is reached: a name and a colon stand in front. -/
def hasKind (cs : List Char) : Bool :=
  match cs.dropWhile fun c => c != '/' && c != ':' with
  | ':' :: _ => cs.head? != some ':'
  | _ => false

/-- An address cut at its last fragment; an empty fragment counts as none. -/
def splitFragment (cs : List Char) : List Char × List Char :=
  match Text.cutLast '#' cs with
  | (some front, fragment) => (front, fragment)
  | (none, cs) => (cs, [])

/-- **The address under which a request is sent**, and whether it says how it is
reached. -/
def ofRequest (cs : List Char) : List Char × Bool :=
  let (front, fragment) := splitFragment (bare cs)
  (front ++ marked '#' fragment, hasKind front)

/-- Checks that an address can be taken apart. -/
def check (cs : List Char) : Except AddressError Unit := do
  let _ ← split [] cs

end Address

end Commissioning
