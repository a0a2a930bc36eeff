import WalletDashboard.Text.Digits
import WalletDashboard.Text.Split
import WalletDashboard.Url

/-!
# Reading URLs

`Url.read?` reads a text as a URL that begins with its scheme. Controls and blanks at the ends, and
tabs and the ends of lines anywhere, do not count. What follows the scheme is taken apart by the
kind of the scheme: a special scheme has an authority behind any number of slashes, a file may have
a host behind two, and any other scheme has an authority behind two slashes, a path with segments
behind one, and else a text.
-/

namespace WalletDashboard

/-- The credentials that are written before a host, if there are any. -/
def Credentials.read? (text : List Char) : Option Credentials :=
  let (user, password) := text.span (· != ':')
  let c : Credentials :=
    { user := Percent.encode .credentials user
      password :=
        if password.length ≤ 1 then none
        else some (Percent.encode .credentials (password.drop 1)) }
  if c = {} then none else some c

namespace Authority

/-- What comes before the last at sign of a text, and what comes after it. -/
def splitCredentials (text : List Char) : List Char × List Char :=
  let (address, credentials) := text.reverse.span (· != '@')
  ((credentials.drop 1).reverse, address.reverse)

/-- A host, and what follows it from the first colon outside of brackets. -/
def splitHost (inBrackets : Bool) : List Char → List Char × List Char
  | [] => ([], [])
  | c :: rest =>
    if c = ':' ∧ !inBrackets then ([], c :: rest)
    else
      let (host, port) := splitHost (c == '[' || (c != ']' && inBrackets)) rest
      (c :: host, port)

/-- The largest port. -/
def portLimit : Nat := 65535

/-- The port at the beginning of a text, and what follows it, at which a path begins. The usual
port of a scheme is not kept. -/
def readPort? (scheme : String) (text : List Char) : Option (Option Nat × List Char) :=
  let (digits, rest) := text.span Char.isDigit
  let port := Text.numberOf 10 digits
  if portLimit < port ∨ rest.head?.any (· != '\\') then none
  else if digits = [] ∨ Scheme.usualPorts.lookup scheme = some port then some (none, rest)
  else some (some port, rest)

/-- The host of a scheme, where there need not be one. -/
def readHost? (kind : SchemeKind) (text : List Char) : Option (Option Host) :=
  if kind = .plain then
    if text = [] then some none else (Host.readAny? text).map some
  else (Host.read? text).map some

/-- The authority that is written, and the beginning of a path behind it. Neither credentials nor a
port stand without a host. -/
def read? (scheme : String) (text : List Char) : Option (Authority × List Char) := do
  let (credentials, address) := splitCredentials text
  let credentials := Credentials.read? credentials
  let (host, port) := splitHost false address
  let host ← readHost? (Scheme.kind scheme) host
  if host.isNone ∧ (credentials.isSome ∨ port ≠ []) then none
  let (port, rest) ← readPort? scheme (port.drop 1)
  return ({ credentials, host, port }, rest)

end Authority

namespace Url

/-- A control or a space. They do not count at the ends of a URL. -/
def isEdge (c : Char) : Bool := c.toNat ≤ 0x20

/-- A character that does not count anywhere. -/
def isSkipped (c : Char) : Bool := c == '\t' || c == '\n' || c == '\r'

/-- The characters of a text that count. -/
def counted (text : String) : List Char :=
  ((text.toList.dropWhile isEdge).reverse.dropWhile isEdge).reverse.filter (!isSkipped ·)

/-- A character at which the query or the fragment begins. -/
def endsPath (c : Char) : Bool := c == '?' || c == '#'

/-- The rest of a text behind a slash, if it begins with one. -/
def dropSlash (kind : SchemeKind) : List Char → List Char
  | [] => []
  | c :: rest => if kind.isSlash c then rest else c :: rest

/-- The way along the segments that are written with slashes between them. -/
def follow (kind : SchemeKind) (text : List Char) : UrlPath.Trail :=
  UrlPath.Trail.pushAll (kind == .file) (Text.splitWhere kind.isSlash text) {}

/-- The URL with the query and the fragment that are written in `tail`. -/
def withTail (tail : List Char) (u : Url) : Url :=
  let (query, fragment) := tail.span (· != '#')
  let queryPart := if Scheme.kind u.scheme = .plain then .query else .specialQuery
  { u with
    query := if query = [] then none else some (Percent.encode queryPart (query.drop 1))
    fragment :=
      if fragment = [] then none else some (Percent.encode .fragment (fragment.drop 1)) }

/-- The path behind an authority. Only the special schemes always have one. -/
def readPath (kind : SchemeKind) (text : List Char) : UrlPath :=
  if text = [] ∧ kind = .plain then .rooted [] else (follow kind (dropSlash kind text)).path

/-- A URL with an authority at the beginning of `text`. An at sign alone may only end the URL. -/
def readWithAuthority? (scheme : String) (text : List Char) : Option Url := do
  let kind := Scheme.kind scheme
  let (authority, rest) := text.span fun c => !(kind.isSlash c || endsPath c)
  if authority = ['@'] ∧ rest ≠ [] then none
  let (authority, start) ← Authority.read? scheme authority
  let (path, tail) := (start ++ rest).span fun c => !endsPath c
  return withTail tail { scheme, authority, path := readPath kind path }

/-- The host of a file behind two slashes, and the segments behind it. The letter of a drive is no
host, and this machine is not named; then the slash that follows does not count as the first. -/
def readFileHost? (text : List Char) : Option (Option Host × List Char) := do
  let (host, path) := text.span fun c => !SchemeKind.file.isSlash c
  if UrlPath.Segment.isDrive host then return (none, text)
  if host = [] then return (none, path)
  match ← Host.read? host with
  | .name "localhost" => return (none, path)
  | host => return (some host, dropSlash .file path)

/-- A URL of a file. A drive at the beginning of the path is on this machine. -/
def readFile? (text : List Char) : Option Url := do
  let (text, tail) := text.span fun c => !endsPath c
  let (host, segments) ←
    match text with
    | a :: b :: rest =>
      if SchemeKind.file.isSlash a && SchemeKind.file.isSlash b then readFileHost? rest
      else some (none, dropSlash .file text)
    | _ => some (none, dropSlash .file text)
  let trail := follow .file segments
  let host := if trail.hasDrive then none else host
  return withTail tail { scheme := "file", authority := some { host }, path := trail.filePath }

/-- A URL of any other scheme without an authority. -/
def readPlain (scheme : String) (text : List Char) : Url :=
  let (path, tail) := text.span fun c => !endsPath c
  withTail tail
    { scheme
      path :=
        match path with
        | '/' :: segments => (follow .plain segments).path
        | _ => .loose (Percent.encode .loose path) }

/-- The URL that a text writes. -/
def read? (text : String) : Option Url := do
  let (scheme, rest) ← Scheme.split? (counted text)
  match Scheme.kind scheme with
  | .file => readFile? rest
  | .special => readWithAuthority? scheme (rest.dropWhile SchemeKind.special.isSlash)
  | .plain =>
    match rest with
    | '/' :: '/' :: rest => readWithAuthority? scheme rest
    | _ => some (readPlain scheme rest)

end Url

end WalletDashboard
