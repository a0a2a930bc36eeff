import WalletDashboard.Toml.Scalar
import WalletDashboard.Toml.Tables
import WalletDashboard.Toml.Text

/-!
# Reading TOML texts

`Toml.read?` reads a text of TOML 1.0 as the settings in its root table.

Values are read by going down on the number of lists and tables that may still be opened, and lists
by going down on the length of the text, as are the lines of the text.
-/

namespace WalletDashboard.Toml

/-- The text without a comment at its start. -/
def skipComment : List Char → List Char
  | '#' :: s => s.dropWhile isPlain
  | s => s

/-- The text without blanks, line ends and comments at its start. -/
def skipLines : Nat → List Char → List Char
  | 0, s => s
  | fuel + 1, s =>
    match s with
    | ' ' :: rest => skipLines fuel rest
    | '\t' :: rest => skipLines fuel rest
    | '\n' :: rest => skipLines fuel rest
    | '\r' :: '\n' :: rest => skipLines fuel rest
    | '#' :: rest => skipLines fuel (rest.dropWhile isPlain)
    | s => s

/-- The text without blanks, line ends and comments at its start, however many. -/
def skipAll (s : List Char) : List Char := skipLines s.length s

/-- The items of a list up to the closing bracket. A comma may follow the last one. -/
def readItems {α : Type} (item : List Char → Option (α × List Char)) :
    Nat → List Char → Option (List α × List Char)
  | 0, _ => none
  | fuel + 1, s =>
    match skipAll s with
    | ']' :: rest => some ([], rest)
    | s => do
      let (a, s) ← item s
      match skipAll s with
      | ',' :: rest => (readItems item fuel rest).map fun (as, s) => (a :: as, s)
      | ']' :: rest => some ([a], rest)
      | _ => none

/-- A key, an equals sign and a value. -/
def readAssignment (value : List Char → Option (Value × List Char)) (s : List Char) :
    Option ((List String × Value) × List Char) := do
  let (key, s) ← readKey s
  match s with
  | '=' :: s => (value (skipSpaces s)).map fun (v, s) => ((key, v), s)
  | _ => none

/-- One entry or more of a table on one line, up to the closing brace. -/
def readEntries (value : List Char → Option (Value × List Char)) :
    Nat → List Char → Option (List (List String × Value) × List Char)
  | 0, _ => none
  | fuel + 1, s => do
    let (entry, s) ← readAssignment value s
    match skipSpaces s with
    | ',' :: rest => (readEntries value fuel rest).map fun (es, s) => (entry :: es, s)
    | '\x7d' :: rest => some ([entry], rest)
    | _ => none

/-- The entries of a table on one line, behind the opening brace. -/
def readInline (value : List Char → Option (Value × List Char)) (s : List Char) :
    Option (List (List String × Value) × List Char) :=
  match skipSpaces s with
  | '\x7d' :: rest => some ([], rest)
  | s => readEntries value (s.length + 1) s

/-- The table with the given entries. -/
def inlineTable? (entries : List (List String × Value)) : Option Value := do
  let es ← entries.foldlM (fun es (key, v) => assignIn key v .stated es) []
  return .table (finishEntries es)

/-- A value that is no list and no table. -/
def readScalar (s : List Char) : Option (Value × List Char) :=
  match s with
  | '"' :: _ => (readText s).map fun (t, s) => (.plain (.text t), s)
  | '\'' :: _ => (readText s).map fun (t, s) => (.plain (.text t), s)
  | s => readBareScalar s

/-- A value with at most `nesting` lists and tables inside each other. -/
def readValue : Nat → List Char → Option (Value × List Char)
  | 0, s => readScalar s
  | nesting + 1, s =>
    match s with
    | '[' :: rest => do
      let (items, s) ← readItems (readValue nesting) (rest.length + 1) rest
      return (.list items, s)
    | '\x7b' :: rest => do
      let (entries, s) ← readInline (readValue nesting) rest
      return (← inlineTable? entries, s)
    | s => readScalar s

/-- How many lists and tables may stand inside each other. -/
def nestingLimit : Nat := 79

/-- The rest of the text after the end of a line, before which there may be blanks and a comment.
The last line need not end. -/
def finishLine (s : List Char) : Option (List Char) :=
  match skipComment (skipSpaces s) with
  | [] => some []
  | s => lineEnd? s

/-- The key of a header up to its closing brackets, and the lines after it. -/
def readHeader (closing : List Char) (s : List Char) : Option (List String × List Char) := do
  let (path, s) ← readKey s
  return (path, ← finishLine (← Json.expect? closing s))

/-- The lines of a text, with the path of the last header and the tables so far. -/
def readLines : Nat → List String → Entries → List Char → Option Entries
  | 0, _, _, _ => none
  | fuel + 1, path, root, s =>
    match skipSpaces s with
    | [] => some root
    | '#' :: s => do readLines fuel path root (← finishLine ('#' :: s))
    | '\n' :: s => readLines fuel path root s
    | '\r' :: '\n' :: s => readLines fuel path root s
    | '[' :: '[' :: s => do
      let (path, s) ← readHeader [']', ']'] s
      readLines fuel path (← openRow path root) s
    | '[' :: s => do
      let (path, s) ← readHeader [']'] s
      readLines fuel path (← openTable path root) s
    | s => do
      let ((key, v), s) ← readAssignment (readValue nestingLimit) s
      readLines fuel path (← assign path key v root) (← finishLine s)

/-- The text without a byte order mark at its start. -/
def skipMark : List Char → List Char
  | c :: s => if c.toNat = 0xFEFF then s else c :: s
  | [] => []

/-- The settings in the root table of a text. -/
def read? (text : String) : Option (List (String × Setting)) := do
  let s := skipMark text.toList
  match ← (Value.table (finishEntries (← readLines (s.length + 1) [] [] s))).setting? with
  | .table es => some es
  | _ => none

end WalletDashboard.Toml
