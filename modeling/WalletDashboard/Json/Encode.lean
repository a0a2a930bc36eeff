import WalletDashboard.Chain
import WalletDashboard.Json
import WalletDashboard.Rewards

/-!
# Records as JSON values

Every record is an object with an entry for each field.
-/

namespace WalletDashboard

namespace Json

/-- A list of values. -/
def ofList {α : Type} (f : α → Json) (xs : List α) : Json := .array (xs.map f)

/-- A value, or `null` for none. -/
def ofOption {α : Type} (f : α → Json) : Option α → Json
  | some a => f a
  | none => .null

end Json

/-- The entries of a transaction. -/
def Transaction.jsonEntries (t : Transaction) : List (String × Json) :=
  [("id", .string t.id), ("sender", .string t.sender), ("receiver", .string t.receiver),
    ("amount", .nat t.amount), ("timestamp", .nat t.timestamp), ("signature", .string t.signature)]

/-- A transaction has its entries and no more. -/
def Transaction.toJson (t : Transaction) : Json := .ofEntries t.jsonEntries

/-- The transactions are written even if there are none. -/
def Block.toJson (b : Block) : Json :=
  .ofEntries
    [("index", .nat b.index), ("timestamp", .nat b.timestamp), ("author", .string b.author),
      ("transactions", .ofList Transaction.toJson b.transactions)]

/-- A wallet has its address and its balance. -/
def Wallet.toJson (w : Wallet) : Json :=
  .ofEntries [("address", .string w.address), ("balance", .nat w.balance)]

/-- An export is written with its secrets. -/
def WalletExport.toJson (e : WalletExport) : Json :=
  .ofEntries
    [("address", .string e.address), ("private_key", .string e.privateKey),
      ("mnemonic", .string e.mnemonic)]

/-- How a reward became known, in one word. -/
def RewardSource.label : RewardSource → String
  | explicit => "explicit"
  | synthetic => "synthetic"

/-- A reward has the fields of its payment, the number of its block, and its source. -/
def RewardEvent.toJson (r : RewardEvent) : Json :=
  .ofEntries (r.toTransaction.jsonEntries ++
    [("block_index", .nat r.blockIndex), ("source", .string r.source.label)])

end WalletDashboard
