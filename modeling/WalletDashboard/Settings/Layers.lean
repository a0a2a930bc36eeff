import WalletDashboard.Json
import WalletDashboard.Settings.Value

/-!
# Layers of settings

Settings come in layers, each over the ones before. A layer is a list of values with their keys, and
`Setting.overlay` puts one over what is there.

* Keys are matched without case. A table is merged into a table entry by entry; any other value
  takes the place of what was there (`mergeInto`).
* The key of a layer can be a path that leads into tables and lists, such as `service.api_url`
  (`parsePath`). On its way a path makes the tables and lists that it needs (`place?`). There is no
  item before the start of a list, and none beyond `itemLimit`; a path to one leads nowhere, and
  then there are no settings at all.
-/

namespace WalletDashboard.Setting

/-- The entries of a table. Anything else has none. -/
def entries : Setting → List (String × Setting)
  | table es => es
  | _ => []

/-- The items of a list. Anything else has none. -/
def items : Setting → List Setting
  | list xs => xs
  | _ => []

mutual

/-- The value that stands where `target` was, after `value` was put over it. -/
def mergeInto (target : Setting) : Setting → Setting
  | table es => mergeEntries target es
  | value => value

/-- `target` after the entries of a table were put over it. -/
def mergeEntries (target : Setting) : List (String × Setting) → Setting
  | [] => target
  | (key, value) :: rest =>
    let key := Text.lower key
    let before := (target.entries.lookup key).getD (table [])
    mergeEntries (table (Json.insertEntry key (mergeInto before value) target.entries)) rest

end

/-- The table `target` with `value` put over what it holds under `key`. -/
def put (key : String) (value target : Setting) : Setting := mergeEntries target [(key, value)]

/-! ### Paths -/

/-- A step of a path: to an entry of a table, or to an item of a list, which may be counted from the
end. -/
inductive PathStep
  | key (name : String)
  | item (index : Int)
  deriving DecidableEq, Repr

/-- A character of a key in a path. -/
def isKeyChar (c : Char) : Bool := c.isAlphanum || c == ' ' || c == '_' || c == '-'

/-- A blank inside brackets. -/
def isPathBlank (c : Char) : Bool := c == ' ' || c == '\t'

/-- The whole number between brackets, with blanks around it, and the rest behind the closing one.
It fits a machine word with a sign. -/
def readIndex? (s : List Char) : Option (Int × List Char) :=
  let (isNegative, s) :=
    match s.dropWhile isPathBlank with
    | '-' :: s => (true, s)
    | s => (false, s)
  let (digits, s) := s.span Char.isDigit
  let n : Int := Text.numberOf 10 digits
  let n := if isNegative then -n else n
  match s.dropWhile isPathBlank with
  | ']' :: s => if digits ≠ [] ∧ -2 ^ 63 ≤ n ∧ n < 2 ^ 63 then some (n, s) else none
  | _ => none

/-- The steps after the first one. Every step takes more than one character. -/
def parseSteps : Nat → List Char → Option (List PathStep)
  | _, [] => some []
  | 0, _ :: _ => none
  | fuel + 1, '.' :: rest =>
    match rest.span isKeyChar with
    | ([], _) => none
    | (name, rest) => (parseSteps fuel rest).map (PathStep.key (String.ofList name) :: ·)
  | fuel + 1, '[' :: rest =>
    match readIndex? rest with
    | some (n, rest) => (parseSteps fuel rest).map (PathStep.item n :: ·)
    | none => none
  | _ + 1, _ :: _ => none

/-- The path that a key writes. A key that writes none is a path of one step. -/
def parsePath (key : String) : List PathStep :=
  match key.toList.span isKeyChar with
  | ([], _) => [.key key]
  | (name, rest) =>
    match parseSteps rest.length rest with
    | some steps => .key (String.ofList name) :: steps
    | none => [.key key]

/-- No list has more items than this. -/
def itemLimit : Nat := 2 ^ 27

/-- The position of an item in a list of `length` items, which may be made longer. -/
def itemPosition? (length : Nat) (index : Int) : Option Nat :=
  if index < 0 then
    if index.natAbs ≤ length then some (length - index.natAbs) else none
  else if index.toNat < itemLimit then some index.toNat
  else none

/-- The list with another item. It is filled up with `null` as far as needed. -/
def setItem (position : Nat) (value : Setting) (xs : List Setting) : List Setting :=
  (xs ++ List.replicate (position + 1 - xs.length) null).set position value

/-- `root` after `value` was put over what a path leads to. -/
def place? (value : Setting) : List PathStep → Setting → Option Setting
  | [], _ => some value
  | [.key name], root => some (put name value root)
  | .key name :: steps, root => do
    let name := Text.lower name
    let inner ← place? value steps ((root.entries.lookup name).getD null)
    return table (Json.insertEntry name inner root.entries)
  | .item index :: steps, root => do
    let position ← itemPosition? root.items.length index
    let inner ← place? value steps (root.items.getD position null)
    return list (setItem position inner root.items)

/-- `root` with a layer over it. -/
def overlay? (root : Setting) (layer : List (String × Setting)) : Option Setting :=
  layer.foldlM (fun root (key, value) => place? value (parsePath key) root) root

/-- All layers, the first at the bottom. -/
def overlayAll? (layers : List (List (String × Setting))) : Option Setting :=
  layers.foldlM overlay? (table [])

end WalletDashboard.Setting
