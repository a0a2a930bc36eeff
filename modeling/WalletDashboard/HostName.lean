import WalletDashboard.HostName.Direction
import WalletDashboard.HostName.Joining
import WalletDashboard.HostName.Mapping
import WalletDashboard.HostName.Punycode
import WalletDashboard.Text.Canonical

/-!
# Host names

A host name is made of labels with dots between them. `HostName.toAscii?` writes a name in any
script in the form in which it is looked up: in small letters, the labels that are not ASCII as
Punycode behind `xn--`. Labels may be empty, and of any length.

* `Label.read?` reads a label, in either form.
* A name with letters that run from right to left has labels that keep to one direction each.
-/

namespace WalletDashboard.HostName

/-- A character of ASCII. -/
def isAscii (c : Char) : Bool := c.toNat < 0x80

/-- A character that no host name has, because it would end the name or look empty. -/
def isRefused (c : Char) : Bool :=
  c.toNat ≤ 0x20 || c.toNat == 0x7F ||
    c ∈ ['%', '#', '/', ':', '<', '>', '?', '@', '[', '\\', ']', '^', '|']

/-- A label of a host name. -/
structure Label where
  /-- What the label says. -/
  text : List Char
  /-- How it is written in ASCII. -/
  ascii : List Char
  deriving DecidableEq, Repr, Inhabited

namespace Label

/-- What Punycode stands behind. -/
def mark : List Char := ['x', 'n', '-', '-']

/-- The longest label that is written as Punycode. -/
def writtenLimit : Nat := 1000

/-- The longest Punycode that is read. -/
def readLimit : Nat := 2000

/-- Whether the characters of a label may stand together. -/
def isWellFormed (text : List Char) : Bool := !text.head?.any Text.isMark && allowsJoiners text

/-- Whether the label, read from Punycode, could not have been written without it, or otherwise. -/
def isSettled (text : List Char) : Bool :=
  text.all (fun c => isKept c && !isRefused c && c != '.') && Text.canonical text == text

/-- The label that Punycode stands for. -/
def decode? (digits : List Char) : Option Label := do
  if digits.getLast? ∈ [none, some '-'] ∨ readLimit < digits.length then none
  let text ← Punycode.decode? digits
  if isSettled text && isWellFormed text then some { text, ascii := mark ++ digits } else none

/-- The label that a text writes. -/
def read? (text : List Char) : Option Label :=
  if mark.isPrefixOf text then
    if text.all isAscii then decode? (text.drop mark.length) else none
  else if text.all isAscii then some { text, ascii := text }
  else if isWellFormed text && text.length ≤ writtenLimit then
    some { text, ascii := mark ++ Punycode.encode text }
  else none

/-- How the characters of a label run. -/
def directions (l : Label) : List Direction := l.text.map Direction.of

end Label

/-- Whether a name with the labels can be read in one order only. -/
def allowsOrder (labels : List Label) : Bool :=
  let runs := labels.map Label.directions
  !runs.any (·.any Direction.isRightward) || runs.all allowsDirections

/-- The name in which every character is taken for what it is taken for in host names. -/
def normalize? (name : List Char) : Option (List Char) := do
  let text := Text.canonical (← name.mapM mapping).flatten
  if text.any isRefused then none else some text

/-- The form in which a host name is looked up, unless it is no name of a host. -/
def toAscii? (name : List Char) : Option String := do
  let labels ← (Text.splitWhere (· == '.') (← normalize? name)).mapM Label.read?
  let ascii := ".".intercalate (labels.map fun l => String.ofList l.ascii)
  if allowsOrder labels && ascii != "" then some ascii else none

end WalletDashboard.HostName
