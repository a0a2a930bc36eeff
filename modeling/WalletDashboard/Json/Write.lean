import WalletDashboard.Binary64.Shortest
import WalletDashboard.Json

/-!
# Writing JSON texts

`Json.write` writes a value on one line, without blanks. In strings only the quote, the backslash
and the controls are escaped.
-/

namespace WalletDashboard.Json

/-- Four hexadecimal digits. -/
def hexDigits (n : Nat) : List Char :=
  [n / 4096 % 16, n / 256 % 16, n / 16 % 16, n % 16].map Nat.digitChar

/-- A character inside a string. -/
def writeChar (c : Char) : List Char :=
  if c = '"' then ['\\', '"']
  else if c = '\\' then ['\\', '\\']
  else if c = '\n' then ['\\', 'n']
  else if c = '\r' then ['\\', 'r']
  else if c = '\t' then ['\\', 't']
  else if c.toNat < 0x20 then '\\' :: 'u' :: hexDigits c.toNat
  else [c]

/-- A string with its quotes. -/
def writeString (s : String) : String :=
  String.ofList ('"' :: (s.toList.flatMap writeChar ++ ['"']))

/-- A number as it is read again. -/
def Number.write : Number → String
  | .natural n => Nat.repr n.toNat
  | .negative n => Int.repr n
  | .real isNegative x => (if isNegative then "-" else "") ++ x.scientificText

/-- Items with commas between them. -/
def commaSeparated (items : List String) : String := ",".intercalate items

mutual

/-- The text of a value. -/
def write : Json → String
  | .null => "null"
  | .bool b => if b then "true" else "false"
  | .number n => n.write
  | .string s => writeString s
  | .array items => "[" ++ commaSeparated (writeItems items) ++ "]"
  | .object entries => "\x7b" ++ commaSeparated (writeEntries entries) ++ "\x7d"

/-- The texts of the items of an array. -/
def writeItems : List Json → List String
  | [] => []
  | j :: rest => j.write :: writeItems rest

/-- The texts of the entries of an object. -/
def writeEntries : List (String × Json) → List String
  | [] => []
  | (key, j) :: rest => (writeString key ++ ":" ++ j.write) :: writeEntries rest

end

end WalletDashboard.Json
