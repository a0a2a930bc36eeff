import WalletDashboard.Url.Read

/-!
# Endpoints of nodes

Which texts name an endpoint that a request can be made to: URLs of web servers (`Endpoint.read`).
The URL is told without credentials.
-/

namespace WalletDashboard

/-- Where a node is called, as it was given. -/
inductive Endpoint
  /-- The URL of a web server. -/
  | web (url : String)
  /-- A URL to which no request can be made. -/
  | foreign (url : String)
  /-- No URL. -/
  | malformed
  deriving DecidableEq, Repr, Inhabited

namespace Endpoint

/-- A character that a host name may have, but not the host of a request. -/
def isUnsent (c : Char) : Bool := c ∈ ['"', Char.ofNat 0x60, '\x7b', '\x7d']

/-- The most bytes of a URL in a request. -/
def sizeLimit : Nat := 65534

/-- Whether a request can be made to a URL. -/
def isWeb (u : Url) : Bool :=
  Scheme.web.contains u.scheme && u.host?.any (fun host => !host.text.toList.any isUnsent) &&
    u.text.utf8ByteSize ≤ sizeLimit

/-- The endpoint at a URL. -/
def ofUrl (u : Url) : Endpoint :=
  let u := u.withoutCredentials
  if isWeb u then web u.text else foreign u.text

/-- The endpoint that a text names. -/
def read (text : String) : Endpoint :=
  match Url.read? text with
  | some u => ofUrl u
  | none => malformed

end Endpoint

end WalletDashboard
