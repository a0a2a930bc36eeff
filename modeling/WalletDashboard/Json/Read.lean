import WalletDashboard.Json.Number
import WalletDashboard.Text.Digits

/-!
# Reading JSON texts

`Json.read?` reads a text that holds one value and nothing else.

The reader of values goes down on the number of containers that may still be opened
(`Json.nestingLimit` at the start); the loops over the items of a container go down on the length of
the text. A reader gives back what it read and the rest of the text, or nothing if the text does
not begin as it should.
-/

namespace WalletDashboard.Json

/-- The text without the blanks at its start. -/
def skipBlanks : List Char → List Char
  | [] => []
  | c :: rest => if c = ' ' ∨ c = '\n' ∨ c = '\t' ∨ c = '\r' then skipBlanks rest else c :: rest

/-- The rest of the text behind `word`. -/
def expect? : List Char → List Char → Option (List Char)
  | [], s => some s
  | w :: word, c :: s => if w = c then expect? word s else none
  | _ :: _, [] => none

/-- The number that four hexadecimal digits write. -/
def hexWord? (a b c d : Char) : Option Nat := Text.number? 16 [a, b, c, d]

/-- The character that one letter behind a backslash stands for. -/
def simpleEscape? (c : Char) : Option Char :=
  if c = '"' ∨ c = '\\' ∨ c = '/' then some c
  else if c = 'b' then some (Char.ofNat 8)
  else if c = 'f' then some (Char.ofNat 12)
  else if c = 'n' then some '\n'
  else if c = 'r' then some '\r'
  else if c = 't' then some '\t'
  else none

/-- Numbers of the first half of a pair that writes one character. -/
def isLeading (n : Nat) : Bool := 0xD800 ≤ n && n < 0xDC00

/-- Numbers of the second half of a pair that writes one character. -/
def isTrailing (n : Nat) : Bool := 0xDC00 ≤ n && n < 0xE000

/-- The character that a pair of numbers writes. -/
def pairedChar (leading trailing : Nat) : Char :=
  Char.ofNat (0x10000 + (leading - 0xD800) * 0x400 + (trailing - 0xDC00))

/-- The characters of a string up to the closing quote, in reverse order before `read`. Half a pair
on its own writes no character. -/
def readString (read : List Char) : List Char → Option (String × List Char)
  | [] => none
  | '"' :: rest => some (String.ofList read.reverse, rest)
  | '\\' :: 'u' :: a :: b :: c :: d :: rest =>
    match hexWord? a b c d with
    | none => none
    | some n =>
      if isTrailing n then none
      else if isLeading n then
        match rest with
        | '\\' :: 'u' :: a :: b :: c :: d :: rest =>
          match hexWord? a b c d with
          | none => none
          | some m => if isTrailing m then readString (pairedChar n m :: read) rest else none
        | _ => none
      else readString (Char.ofNat n :: read) rest
  | '\\' :: c :: rest =>
    match simpleEscape? c with
    | none => none
    | some c => readString (c :: read) rest
  | c :: rest => if c.toNat < 0x20 then none else readString (c :: read) rest

/-- One item or more, with commas between them, up to the closing bracket. -/
def readItems {α : Type} (item : List Char → Option (α × List Char)) (closing : Char) :
    Nat → List Char → Option (List α × List Char)
  | 0, _ => none
  | fuel + 1, s => do
    let (a, s) ← item s
    match skipBlanks s with
    | [] => none
    | c :: rest =>
      if c = ',' then (readItems item closing fuel rest).map fun (as, s) => (a :: as, s)
      else if c = closing then some ([a], rest)
      else none

/-- The items of a container of which the opening bracket was read. -/
def readContainer {α : Type} (item : List Char → Option (α × List Char)) (closing : Char)
    (s : List Char) : Option (List α × List Char) :=
  match skipBlanks s with
  | [] => none
  | c :: rest =>
    if c = closing then some ([], rest) else readItems item closing (rest.length + 1) (c :: rest)

/-- A key with its value. -/
def readEntry (value : List Char → Option (Json × List Char)) (s : List Char) :
    Option ((String × Json) × List Char) :=
  match skipBlanks s with
  | '"' :: rest => do
    let (key, rest) ← readString [] rest
    match skipBlanks rest with
    | ':' :: rest => (value rest).map fun (v, s) => ((key, v), s)
    | _ => none
  | _ => none

/-- A value that is no container. -/
def readScalar (s : List Char) : Option (Json × List Char) :=
  match s with
  | '"' :: rest => (readString [] rest).map fun (text, s) => (.string text, s)
  | 'n' :: rest => (expect? ['u', 'l', 'l'] rest).map (.null, ·)
  | 't' :: rest => (expect? ['r', 'u', 'e'] rest).map (.bool true, ·)
  | 'f' :: rest => (expect? ['a', 'l', 's', 'e'] rest).map (.bool false, ·)
  | s => (readNumber s).map fun (n, s) => (.number n, s)

/-- A value with at most `nesting` containers inside each other. -/
def readValue : Nat → List Char → Option (Json × List Char)
  | 0, s => readScalar (skipBlanks s)
  | nesting + 1, s =>
    match skipBlanks s with
    | '[' :: rest => do
      let (items, s) ← readContainer (readValue nesting) ']' rest
      return (.array items, s)
    | '\x7b' :: rest => do
      let (entries, s) ← readContainer (readEntry (readValue nesting)) '\x7d' rest
      return (.ofEntries entries, s)
    | s => readScalar s

/-- How many containers may stand inside each other. -/
def nestingLimit : Nat := 127

/-- The value that a text holds. -/
def read? (text : String) : Option Json :=
  match readValue nestingLimit text.toList with
  | none => none
  | some (j, rest) => if skipBlanks rest = [] then some j else none

end WalletDashboard.Json
