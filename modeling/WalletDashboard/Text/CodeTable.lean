import WalletDashboard.Text.Digits
import WalletDashboard.Text.Split

/-!
# Tables of code points

A table says something of ranges of code points. It is written in rows; between the blanks of a row
stand entries such as `300-314=230`: the first and the last code point in hexadecimal digits, and
what is said of them. A range of one is written as its only code point, and a class of code points
says nothing of its members but that they are members.
-/

namespace WalletDashboard.Text

/-- What is said of the code points from `first` to `last`. -/
structure CodeEntry where
  first : Nat
  last : Nat
  label : String
  deriving DecidableEq, Repr, Inhabited

/-- The entry that is written so. -/
def CodeEntry.read (text : List Char) : CodeEntry :=
  let (range, label) := text.span (· != '=')
  let (first, last) := range.span (· != '-')
  { first := numberOf 16 first
    last := numberOf 16 (if last = [] then first else last.drop 1)
    label := String.ofList (label.drop 1) }

/-- A table of code points. -/
abbrev CodeTable := Array CodeEntry

namespace CodeTable

/-- The table that is written in the given rows. -/
def ofRows (rows : Array String) : CodeTable :=
  rows.flatMap fun row => ((splitWhere (· == ' ') row.toList).map CodeEntry.read).toArray

/-- The entry of a character. -/
def entry? (table : CodeTable) (c : Char) : Option CodeEntry :=
  table.find? fun e => e.first ≤ c.toNat && c.toNat ≤ e.last

/-- What the table says of a character. -/
def label? (table : CodeTable) (c : Char) : Option String := (table.entry? c).map (·.label)

/-- Whether the table has the character. -/
def covers (table : CodeTable) (c : Char) : Bool := (table.entry? c).isSome

end CodeTable

end WalletDashboard.Text
