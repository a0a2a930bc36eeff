import WalletDashboard.HostName
import WalletDashboard.Url.Ipv4
import WalletDashboard.Url.Ipv6
import WalletDashboard.Url.Percent

/-!
# Hosts of URLs

The host of a URL is a name or an address.

* `Host.read?` reads the host of a special scheme: an IPv6 address in brackets, an IPv4 address, or
  a host name in any script.
* `Host.readAny?` reads the host of any other scheme: an IPv6 address in brackets, or a name of
  which nothing is known but that it does not end too early.
-/

namespace WalletDashboard

/-- The host of a URL. -/
inductive Host
  /-- A name, as it is written. -/
  | name (text : String)
  | v4 (address : Ipv4)
  | v6 (address : Ipv6)
  deriving DecidableEq, Repr

namespace Host

/-- How a host is written. -/
def text : Host → String
  | name text => text
  | v4 address => address.text
  | v6 address => "[" ++ address.text ++ "]"

/-- The IPv6 address in brackets, of which the first is left out already. -/
def readBracketed? (cs : List Char) : Option Host :=
  if cs.getLast? = some ']' then (Ipv6.read? cs.dropLast).map v6 else none

/-- The host of a special scheme. -/
def read? : List Char → Option Host
  | '[' :: cs => readBracketed? cs
  | cs => do
    let ascii ← HostName.toAscii? (← Percent.decode? cs)
    if Ipv4.endsInNumber ascii.toList then (Ipv4.read? ascii.toList).map v4 else some (name ascii)

/-- A character that would end a host. -/
def isRefused (c : Char) : Bool :=
  c ∈ ['\x00', '\t', '\n', '\r', ' ', '#', '/', ':', '<', '>', '?', '@', '[', '\\', ']', '^', '|']

/-- The host of a scheme that is not special. -/
def readAny? : List Char → Option Host
  | '[' :: cs => readBracketed? cs
  | cs => if cs.any isRefused then none else some (name (Percent.encode .loose cs))

end Host

end WalletDashboard
