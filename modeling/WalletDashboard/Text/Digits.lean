/-!
# Digits

Numbers that are written in digits of a base up to 36, where letters, large or small, are the digits
from ten on.
-/

namespace WalletDashboard.Text

/-- The value of a digit. -/
def digitValue (c : Char) : Nat :=
  if c.isDigit then c.toNat - '0'.toNat else c.toLower.toNat - 'a'.toNat + 10

/-- A digit of the base. -/
def isDigitOf (base : Nat) (c : Char) : Bool := c.isAlphanum && digitValue c < base

/-- The value of a digit of the base. -/
def digit? (base : Nat) (c : Char) : Option Nat :=
  if isDigitOf base c then some (digitValue c) else none

/-- The number that digits of the base write. -/
def numberOf (base : Nat) (digits : List Char) : Nat :=
  digits.foldl (fun n c => n * base + digitValue c) 0

/-- The number that a text writes, if it has nothing but digits of the base. -/
def number? (base : Nat) (text : List Char) : Option Nat :=
  if text.all (isDigitOf base) then some (numberOf base text) else none

end WalletDashboard.Text
