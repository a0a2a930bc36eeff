import WalletDashboard.Url.Host
import WalletDashboard.Url.Path
import WalletDashboard.Url.Scheme

/-!
# URLs

A URL names a thing by a scheme and, as far as the scheme needs them, an authority, a path, a query
and a fragment. `Url.text` writes it. All parts are kept as they are written, with percent signs.
Who asks at a URL tells the credentials apart from it (`Url.withoutCredentials`).
-/

namespace WalletDashboard

/-- The name of a user and a password. -/
structure Credentials where
  user : String := ""
  password : Option String := none
  deriving DecidableEq, Repr, Inhabited

/-- Who answers at a URL. -/
structure Authority where
  credentials : Option Credentials := none
  host : Option Host := none
  /-- The port, unless it is the usual one of the scheme. -/
  port : Option Nat := none
  deriving DecidableEq, Repr, Inhabited

/-- A uniform resource locator. -/
structure Url where
  /-- The scheme in small letters. -/
  scheme : String
  authority : Option Authority := none
  path : UrlPath
  query : Option String := none
  fragment : Option String := none
  deriving DecidableEq, Repr, Inhabited

/-- Credentials before a host. -/
def Credentials.text (c : Credentials) : String :=
  c.user ++ (c.password.map (":" ++ ·)).getD "" ++ "@"

/-- Whether the name can be read, and whether it or the password says anything then. -/
def Credentials.isReadable (c : Credentials) : Bool :=
  let canRead := fun (part : String) => (Percent.decode? part.toList).isSome
  canRead c.user && (c.user != "" || c.password.any canRead)

/-- An authority behind two slashes. -/
def Authority.text (a : Authority) : String :=
  (a.credentials.map Credentials.text).getD "" ++ (a.host.map Host.text).getD "" ++
    (a.port.map fun n => ":" ++ Nat.repr n).getD ""

/-- What keeps the two slashes at the beginning of a path from beginning an authority. -/
def UrlPath.guardText : UrlPath → String
  | rooted ("" :: _ :: _) => "/."
  | _ => ""

namespace Url

/-- How a URL is written. -/
def text (u : Url) : String :=
  u.scheme ++ ":" ++
    (match u.authority with
      | some a => "//" ++ a.text
      | none => u.path.guardText) ++
    u.path.text ++ (u.query.map ("?" ++ ·)).getD "" ++ (u.fragment.map ("#" ++ ·)).getD ""

/-- The host of a URL. -/
def host? (u : Url) : Option Host := u.authority.bind (·.host)

/-- The URL without credentials that can be read; those that cannot stay. -/
def withoutCredentials (u : Url) : Url :=
  match u.authority with
  | some a =>
    if a.credentials.any Credentials.isReadable then
      { u with authority := some { a with credentials := none } }
    else u
  | none => u

end Url

end WalletDashboard
