import WalletDashboard.Binary64.Shortest
import WalletDashboard.Chain
import WalletDashboard.Json
import WalletDashboard.Text.Quoted

/-!
# Records from JSON values

A decoder finds a value of some type in a JSON value, or says what is wrong with it.

A record may be an object, of which other keys are ignored, or an array of its fields in their
order. In an object the entries are looked at first, in the order of their keys, and then the fields
that have no entry, in the order of the record; in an array everything is looked at in its order.
What is found wrong first is what counts (`RecordReader`).
-/

namespace WalletDashboard

/-- Why a JSON value is not what was expected. -/
inductive DecodeError
  /-- It is of another kind. -/
  | wrongKind (found : Json) (expected : String)
  /-- It is a whole number that is out of range. -/
  | outOfRange (found : Int) (expected : String)
  /-- It has too few or too many items. -/
  | wrongLength (found : Nat) (expected : String)
  /-- A record has no such field. -/
  | missingField (name : String)
  deriving Repr, Inhabited

/-- A JSON value in an error. -/
def Json.describe : Json → String
  | .null => "null"
  | .bool b => "boolean " ++ "`" ++ (if b then "true" else "false") ++ "`"
  | .number (.natural n) => "integer `" ++ Nat.repr n.toNat ++ "`"
  | .number (.negative n) => "integer `" ++ Int.repr n ++ "`"
  | .number (.real negative x) =>
    "floating point `" ++ (if negative then "-" else "") ++ x.scientificText ++ "`"
  | .string s => "string " ++ Text.quoted s
  | .array _ => "sequence"
  | .object _ => "map"

/-- The error as it is shown. -/
def DecodeError.message : DecodeError → String
  | wrongKind found expected => "invalid type: " ++ found.describe ++ ", expected " ++ expected
  | outOfRange found expected =>
    "invalid value: integer `" ++ Int.repr found ++ "`, expected " ++ expected
  | wrongLength found expected => "invalid length " ++ Nat.repr found ++ ", expected " ++ expected
  | missingField name => "missing field `" ++ name ++ "`"

/-- Finds a value of type `α` in a JSON value. -/
abbrev Decoder (α : Type) := Json → Except DecodeError α

namespace Decoder

/-- Any value. -/
def any : Decoder Json := .ok

/-- Nothing, written as `null`. -/
def nothing : Decoder Unit
  | .null => .ok ()
  | j => .error (.wrongKind j "unit")

/-- A natural number that fits a machine word. -/
def word : Decoder UInt64
  | .number (.natural n) => .ok n
  | .number (.negative n) => .error (.outOfRange n "u64")
  | j => .error (.wrongKind j "u64")

/-- A whole number that fits a signed machine word. -/
def signedWord : Decoder Int
  | .number (.natural n) =>
    if n.toNat < 2 ^ 63 then .ok n.toNat else .error (.outOfRange n.toNat "i64")
  | .number (.negative n) => .ok n
  | j => .error (.wrongKind j "i64")

/-- A string. -/
def text : Decoder String
  | .string s => .ok s
  | j => .error (.wrongKind j "a string")

/-- The items of an array. -/
def list {α : Type} (item : Decoder α) : Decoder (List α)
  | .array items => items.mapM item
  | j => .error (.wrongKind j "a sequence")

/-- A value, or `null` for none. -/
def optional {α : Type} (value : Decoder α) : Decoder (Option α)
  | .null => .ok none
  | j => (value j).map some

/-- Says whether a value can be decoded, and forgets what it is. -/
def check {α : Type} (value : Decoder α) : Decoder Unit := fun j => (value j).map fun _ => ()

end Decoder

/-- A record in a JSON value: its entries by key, or its items by position. -/
inductive RecordReader
  | byName (entries : List (String × Json))
  | byPosition (record : String) (fields : Nat) (items : List Json)

namespace RecordReader

/-- Decodes the entries in their order, as far as they belong to a field. -/
def checkEntries (fields : List (String × Decoder Unit)) :
    List (String × Json) → Except DecodeError Unit
  | [] => .ok ()
  | (key, value) :: rest =>
    match fields.lookup key with
    | none => checkEntries fields rest
    | some check =>
      match check value with
      | .ok () => checkEntries fields rest
      | .error e => .error e

/-- Starts to read a record that has the given fields. -/
def start (record : String) (fields : List (String × Decoder Unit)) :
    Json → Except DecodeError RecordReader
  | .object entries => (checkEntries fields entries).map fun _ => .byName entries
  | .array items => .ok (.byPosition record fields.length items)
  | j => .error (.wrongKind j ("struct " ++ record))

/-- The value of a field, if there is one. -/
def value? (r : RecordReader) (position : Nat) (name : String) : Option Json :=
  match r with
  | byName entries => entries.lookup name
  | byPosition _ _ items => items[position]?

/-- What is wrong if a field has no value. -/
def absent (r : RecordReader) (position : Nat) (name : String) : DecodeError :=
  match r with
  | byName _ => .missingField name
  | byPosition record fields _ =>
    .wrongLength position ("struct " ++ record ++ " with " ++ Nat.repr fields ++ " elements")

/-- A field that has to be there. -/
def field {α : Type} (r : RecordReader) (position : Nat) (name : String) (decode : Decoder α) :
    Except DecodeError α :=
  match r.value? position name with
  | some j => decode j
  | none => .error (r.absent position name)

/-- A field with a default. -/
def fieldOr {α : Type} (r : RecordReader) (position : Nat) (name : String) (decode : Decoder α)
    (default : α) : Except DecodeError α :=
  match r.value? position name with
  | some j => decode j
  | none => .ok default

/-- A field that may be `null`, or be left out of an object. -/
def optionalField {α : Type} (r : RecordReader) (position : Nat) (name : String)
    (decode : Decoder α) : Except DecodeError (Option α) :=
  match r, r.value? position name with
  | _, some j => Decoder.optional decode j
  | byName _, none => .ok none
  | byPosition .., none => .error (r.absent position name)

/-- Ends the record. An array must not have more items than the record has fields. -/
def finish : RecordReader → Except DecodeError Unit
  | byName _ => .ok ()
  | byPosition _ fields items =>
    if fields < items.length then .error (.wrongLength items.length "fewer elements in array")
    else .ok ()

end RecordReader

namespace Decoder

/-- A transaction. -/
def transaction : Decoder Transaction := fun j => do
  let r ← RecordReader.start "Transaction"
    [("id", text.check), ("sender", text.check), ("receiver", text.check), ("amount", word.check),
      ("timestamp", word.check), ("signature", text.check)] j
  let id ← r.field 0 "id" text
  let sender ← r.field 1 "sender" text
  let receiver ← r.field 2 "receiver" text
  let amount ← r.field 3 "amount" word
  let timestamp ← r.field 4 "timestamp" word
  let signature ← r.field 5 "signature" text
  r.finish
  return { id, sender, receiver, amount, timestamp, signature }

/-- A block. It may leave out its transactions if it has none. -/
def block : Decoder Block := fun j => do
  let r ← RecordReader.start "Block"
    [("index", word.check), ("timestamp", word.check), ("author", text.check),
      ("transactions", (list transaction).check)] j
  let index ← r.field 0 "index" word
  let timestamp ← r.field 1 "timestamp" word
  let author ← r.field 2 "author" text
  let transactions ← r.fieldOr 3 "transactions" (list transaction) []
  r.finish
  return { index, timestamp, author, transactions }

/-- A wallet. -/
def wallet : Decoder Wallet := fun j => do
  let r ← RecordReader.start "Wallet" [("address", text.check), ("balance", word.check)] j
  let address ← r.field 0 "address" text
  let balance ← r.field 1 "balance" word
  r.finish
  return { address, balance }

/-- The secrets of a wallet. -/
def walletExport : Decoder WalletExport := fun j => do
  let r ← RecordReader.start "WalletExport"
    [("address", text.check), ("private_key", text.check), ("mnemonic", text.check)] j
  let address ← r.field 0 "address" text
  let privateKey ← r.field 1 "private_key" text
  let mnemonic ← r.field 2 "mnemonic" text
  r.finish
  return { address, privateKey, mnemonic }

end Decoder

end WalletDashboard
