import WalletDashboard.Json.Read
import WalletDashboard.Text.Digits

/-!
# Texts and keys in TOML texts

Texts stand between quotes, in four forms: with escapes or without, on one line or on several. A
text on several lines has three quotes on each side, and a line feed at its start does not count.
Keys are texts on one line, or words without quotes.
-/

namespace WalletDashboard.Toml

/-- A blank inside a line. -/
def isSpace (c : Char) : Bool := c == ' ' || c == '\t'

/-- The text without the blanks at its start. -/
def skipSpaces (s : List Char) : List Char := s.dropWhile isSpace

/-- A character that may stand in a text or a comment. -/
def isPlain (c : Char) : Bool := c == '\t' || (0x20 ≤ c.toNat && c.toNat != 0x7F)

/-- The rest of the text behind the end of a line. -/
def lineEnd? : List Char → Option (List Char)
  | '\n' :: s => some s
  | '\r' :: '\n' :: s => some s
  | _ => none

/-- The character of a number, if it has one. -/
def charOf? (n : Nat) : Option Char := if n.isValidChar then some (Char.ofNat n) else none

/-- The character that one letter behind a backslash stands for. -/
def letterEscape? (c : Char) : Option Char := if c = '/' then none else Json.simpleEscape? c

/-- A text with escapes on one line, up to the closing quote; `read` are its characters so far,
last first. -/
def readEscaped (read : List Char) : List Char → Option (String × List Char)
  | [] => none
  | '"' :: s => some (String.ofList read.reverse, s)
  | '\\' :: 'u' :: a :: b :: c :: d :: s => do
    readEscaped ((← charOf? (← Text.number? 16 [a, b, c, d])) :: read) s
  | '\\' :: 'U' :: a :: b :: c :: d :: e :: f :: g :: h :: s => do
    readEscaped ((← charOf? (← Text.number? 16 [a, b, c, d, e, f, g, h])) :: read) s
  | '\\' :: c :: s => do readEscaped ((← letterEscape? c) :: read) s
  | c :: s => if isPlain c then readEscaped (c :: read) s else none

/-- A text without escapes on one line, up to the closing quote. -/
def readLiteral (s : List Char) : Option (String × List Char) :=
  match s.span fun c => isPlain c && c != '\'' with
  | (cs, '\'' :: s) => some (String.ofList cs, s)
  | _ => none

/-- Closing quotes of a text on several lines: of up to five quotes the last three end the text, and
the others belong to it. -/
def closeLines (quote : Char) (read s : List Char) : String × List Char :=
  let quotes := (s.take 5).takeWhile (· == quote)
  (String.ofList (read.reverse ++ quotes.drop 3), s.drop quotes.length)

/-- Whether the text begins with three quotes. -/
def startsQuotes (quote : Char) : List Char → Bool
  | a :: b :: c :: _ => a == quote && b == quote && c == quote
  | _ => false

/-- A text with escapes on several lines, up to the closing quotes. A backslash at the end of a line
takes the blanks and line ends after it away; while that lasts, `skipping` is true. -/
def readEscapedLines (skipping : Bool) (read : List Char) : List Char → Option (String × List Char)
  | [] => none
  | '\r' :: '\n' :: s => readEscapedLines skipping (if skipping then read else '\n' :: read) s
  | '\n' :: s => readEscapedLines skipping (if skipping then read else '\n' :: read) s
  | '\\' :: 'u' :: a :: b :: c :: d :: s => do
    readEscapedLines false ((← charOf? (← Text.number? 16 [a, b, c, d])) :: read) s
  | '\\' :: 'U' :: a :: b :: c :: d :: e :: f :: g :: h :: s => do
    readEscapedLines false ((← charOf? (← Text.number? 16 [a, b, c, d, e, f, g, h])) :: read) s
  | '\\' :: c :: s =>
    if (lineEnd? (skipSpaces (c :: s))).isSome then readEscapedLines true read (c :: s)
    else do readEscapedLines false ((← letterEscape? c) :: read) s
  | c :: s =>
    if c = '"' ∧ startsQuotes '"' (c :: s) then some (closeLines '"' read (c :: s))
    else if skipping ∧ isSpace c then readEscapedLines true read s
    else if isPlain c then readEscapedLines false (c :: read) s
    else none

/-- A text without escapes on several lines, up to the closing quotes. -/
def readLiteralLines (read : List Char) : List Char → Option (String × List Char)
  | [] => none
  | '\r' :: '\n' :: s => readLiteralLines ('\n' :: read) s
  | '\n' :: s => readLiteralLines ('\n' :: read) s
  | c :: s =>
    if c = '\'' ∧ startsQuotes '\'' (c :: s) then some (closeLines '\'' read (c :: s))
    else if isPlain c then readLiteralLines (c :: read) s
    else none

/-- The text without a line end at its start. -/
def skipLineEnd (s : List Char) : List Char := (lineEnd? s).getD s

/-- A text at the start, with its quotes, and the rest. -/
def readText (s : List Char) : Option (String × List Char) :=
  if startsQuotes '"' s then readEscapedLines false [] (skipLineEnd (s.drop 3))
  else if startsQuotes '\'' s then readLiteralLines [] (skipLineEnd (s.drop 3))
  else
    match s with
    | '"' :: s => readEscaped [] s
    | '\'' :: s => readLiteral s
    | _ => none

/-! ### Keys -/

/-- A character of a key without quotes. -/
def isKeyChar (c : Char) : Bool := c.isAlphanum || c == '_' || c == '-'

/-- A key without dots, and the rest. -/
def readSimpleKey (s : List Char) : Option (String × List Char) :=
  match s with
  | '"' :: s => readEscaped [] s
  | '\'' :: s => readLiteral s
  | s =>
    match s.span isKeyChar with
    | ([], _) => none
    | (name, s) => some (String.ofList name, s)

/-- The parts of a key, and the rest. There may be blanks around every part. -/
def readKeyParts : Nat → List Char → Option (List String × List Char)
  | 0, _ => none
  | fuel + 1, s => do
    let (part, s) ← readSimpleKey (skipSpaces s)
    match skipSpaces s with
    | '.' :: s => (readKeyParts fuel s).map fun (parts, s) => (part :: parts, s)
    | s => some ([part], s)

/-- Keys have fewer parts than this. -/
def keyLimit : Nat := 80

/-- A key with dots between its parts, and the rest. -/
def readKey (s : List Char) : Option (List String × List Char) := readKeyParts (keyLimit - 1) s

end WalletDashboard.Toml
