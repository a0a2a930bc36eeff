import WalletDashboard.Toml.Value

/-!
# The tables of a TOML text

A TOML text fills its tables piece by piece. What was stated once cannot be stated again, so a table
remembers how it came about (`TableOrigin`).

* `descend` goes along a key into the tables and makes those that are missing.
* `openTable` and `openRow` are what headers do, and `assign` is what a line with a value does.
-/

namespace WalletDashboard.Toml

/-- How a table came about. -/
inductive TableOrigin
  /-- By its own header, or as a row of a list of tables. -/
  | stated
  /-- By the header of a table inside it. -/
  | implied
  /-- By a value with a dotted key. -/
  | dotted
  deriving DecidableEq, Repr, Inhabited

/-- What a key stands for in a text that is being read. -/
inductive Node
  /-- A value. It is complete. -/
  | value (v : Value)
  | table (origin : TableOrigin) (entries : List (String × Node))
  /-- A list of tables, each with a header. The rows before the last one are complete. -/
  | rows (done : List (List (String × Node))) (last : List (String × Node))
  deriving Repr, Inhabited

/-- The entries of a table that is being read, in the order in which they were stated first. -/
abbrev Entries := List (String × Node)

/-- The entries with `node` under `key`: in the place of what stood there before, or at the end. -/
def putEntry (key : String) (node : Node) : Entries → Entries
  | [] => [(key, node)]
  | (k, n) :: rest => if k = key then (key, node) :: rest else (k, n) :: putEntry key node rest

/-- Changes the table that a key leads to from a table of the given origin. A dotted key in front of
a value must not lead into a table that has a header, nor may any key lead into a value. -/
def descend (dotted : Bool) (change : TableOrigin → Entries → Option Entries) :
    List String → TableOrigin → Entries → Option Entries
  | [], origin, es => change origin es
  | key :: path, _, es =>
    match es.lookup key with
    | none => do
      let origin : TableOrigin := if dotted then .dotted else .implied
      return putEntry key (.table origin (← descend dotted change path origin [])) es
    | some (.value _) => none
    | some (.table origin inner) =>
      if dotted ∧ origin = .stated then none
      else do
        return putEntry key (.table origin (← descend dotted change path origin inner)) es
    | some (.rows done last) => do
      return putEntry key (.rows done (← descend dotted change path .stated last)) es

/-- The table with a new table under `key`, or with an implied one that is now stated. Only now does
it count as an entry, so it goes to the end. -/
def stateTable (key : String) (es : Entries) : Option Entries :=
  match es.lookup key with
  | none => some (es ++ [(key, .table .stated [])])
  | some (.table .implied inner) =>
    some (es.filter (fun (k, _) => k != key) ++ [(key, .table .stated inner)])
  | some _ => none

/-- The table with a new row in the list of tables under `key`. -/
def stateRow (key : String) (es : Entries) : Option Entries :=
  match es.lookup key with
  | none => some (putEntry key (.rows [] []) es)
  | some (.rows done last) => some (putEntry key (.rows (done ++ [last]) []) es)
  | some _ => none

/-- The path without its last part, and the last part. -/
def splitLast : List String → Option (List String × String)
  | [] => none
  | path => path.getLast?.map (path.dropLast, ·)

/-- The header of the table at `path`. -/
def openTable (path : List String) (root : Entries) : Option Entries := do
  let (parents, key) ← splitLast path
  descend false (fun _ es => stateTable key es) parents .stated root

/-- The header of a row of the list of tables at `path`. -/
def openRow (path : List String) (root : Entries) : Option Entries := do
  let (parents, key) ← splitLast path
  descend false (fun _ es => stateRow key es) parents .stated root

/-- A new value under a key without dots. Only a dotted key may add to a table that came about by
one, and only such a table may be added to by one. -/
def addValue (isDotted : Bool) (key : String) (v : Value) (origin : TableOrigin) (es : Entries) :
    Option Entries :=
  if isDotted = decide (origin = .dotted) ∧ es.lookup key = none then
    some (putEntry key (.value v) es)
  else none

/-- A value with a key, inside the table of the given origin. -/
def assignIn (key : List String) (v : Value) (origin : TableOrigin) (es : Entries) :
    Option Entries := do
  let (parents, name) ← splitLast key
  descend true (addValue (parents ≠ []) name v) parents origin es

/-- A value with a key, in a text where the last header was that of the table at `path`. -/
def assign (path key : List String) (v : Value) (root : Entries) : Option Entries :=
  descend false (fun _ es => assignIn key v .stated es) path .stated root

mutual

/-- What a key stands for when the text has been read. -/
def Node.finish : Node → Value
  | .value v => v
  | .table _ es => .table (finishEntries es)
  | .rows done last => .list (finishRows done ++ [.table (finishEntries last)])

/-- The finished entries of a table. -/
def finishEntries : List (String × Node) → List (String × Value)
  | [] => []
  | (key, node) :: es => (key, node.finish) :: finishEntries es

/-- The finished rows of a list of tables. -/
def finishRows : List (List (String × Node)) → List Value
  | [] => []
  | es :: rows => .table (finishEntries es) :: finishRows rows

end

end WalletDashboard.Toml
