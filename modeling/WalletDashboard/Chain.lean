/-!
# The chain and its wallets

The records that a wallet service hands out: transactions, the blocks that hold them, the wallet in
use, and the secrets of a wallet that has just been created.

Amounts, times and block numbers are machine words, as the service counts them; an amount is a
number of smallest units.
-/

namespace WalletDashboard

/-- The sender of the transactions by which the chain mints coins. -/
def systemSender : String := "SYSTEM"

/-- A payment recorded in a block. -/
structure Transaction where
  id : String
  sender : String
  receiver : String
  amount : UInt64
  timestamp : UInt64
  signature : String
  deriving DecidableEq, Repr, Inhabited

/-- A transaction that mints coins instead of moving them. -/
def Transaction.isSystem (t : Transaction) : Bool := t.sender == systemSender

/-- A block: its number, its time, who made it, and what it records. -/
structure Block where
  index : UInt64
  timestamp : UInt64
  author : String
  transactions : List Transaction := []
  deriving DecidableEq, Repr, Inhabited

/-- A wallet as it is shown: its address and the balance last computed for it. -/
structure Wallet where
  address : String
  balance : UInt64
  deriving DecidableEq, Repr, Inhabited

/-- The secrets of a wallet, handed out once, when it is created. -/
structure WalletExport where
  address : String
  privateKey : String
  mnemonic : String
  deriving DecidableEq, Repr, Inhabited

end WalletDashboard
