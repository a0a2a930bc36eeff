/-!
# Schemes of URLs

A URL begins with its scheme, on which its form depends. The special schemes name hosts that are
looked up, and have a usual port.
-/

namespace WalletDashboard

/-- How the URLs of a scheme are formed. -/
inductive SchemeKind
  | special
  | file
  /-- All other schemes. -/
  | plain
  deriving DecidableEq, Repr, Inhabited

namespace Scheme

/-- The special schemes, with their usual ports. -/
def usualPorts : List (String × Nat) :=
  [("http", 80), ("https", 443), ("ws", 80), ("wss", 443), ("ftp", 21)]

/-- The schemes of web servers. -/
def web : List String := ["http", "https"]

/-- How the URLs of the scheme are formed. -/
def kind (scheme : String) : SchemeKind :=
  if scheme = "file" then .file
  else if (usualPorts.lookup scheme).isSome then .special
  else .plain

/-- A character of a scheme. -/
def isSchemeChar (c : Char) : Bool := c.isAlphanum || c == '+' || c == '-' || c == '.'

/-- The scheme of a text in small letters, and what follows its colon. -/
def split? (text : List Char) : Option (String × List Char) :=
  match text.span isSchemeChar with
  | (c :: scheme, ':' :: rest) =>
    if c.isAlpha then some (String.ofList ((c :: scheme).map Char.toLower), rest) else none
  | _ => none

end Scheme

/-- A slash in the URLs of a scheme. -/
def SchemeKind.isSlash (kind : SchemeKind) (c : Char) : Bool :=
  c == '/' || (c == '\\' && kind != .plain)

end WalletDashboard
