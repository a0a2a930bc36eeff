import WalletDashboard.Amount
import WalletDashboard.Chain

/-!
# The reward feed

Which rewards a wallet earned in a list of blocks, in block order.

A block that pays the wallet by system transactions contributes these (`RewardEvent.recorded`). A
block that the wallet made and that pays it nothing contributes one reward that making the block
implies (`RewardEvent.implied`). Any other block contributes nothing, so the two kinds never meet
in one block (`blockRewards`).
-/

namespace WalletDashboard

/-- Paid for making block 0: five million coins. -/
def genesisReward : Amount := 5000000 * Amount.unitsPerCoin

/-- Paid for making any later block: forty coins. -/
def laterReward : Amount := 40 * Amount.unitsPerCoin

/-- What making the block numbered `index` pays. -/
def blockReward (index : UInt64) : Amount := if index = 0 then genesisReward else laterReward

/-- How a reward became known. -/
inductive RewardSource
  /-- A system transaction in the block. -/
  | explicit
  /-- The wallet made the block, and the block records no payment to it. -/
  | synthetic
  deriving DecidableEq, Repr, Inhabited

/-- A reward that a wallet earned: the payment, the block it belongs to, and how it became known. -/
structure RewardEvent extends Transaction where
  blockIndex : UInt64
  source : RewardSource
  deriving DecidableEq, Repr, Inhabited

namespace RewardEvent

/-- The reward that the chain recorded as the system transaction `t`. -/
def recorded (t : Transaction) (blockIndex : UInt64) : RewardEvent :=
  { t with blockIndex, source := .explicit }

/-- The reward that making `b` implies. -/
def implied (b : Block) : RewardEvent where
  id := "reward-" ++ Nat.repr b.index.toNat
  sender := systemSender
  receiver := b.author
  amount := blockReward b.index
  timestamp := b.timestamp
  signature := "reward"
  blockIndex := b.index
  source := .synthetic

def isSynthetic (r : RewardEvent) : Bool := r.source == .synthetic

@[simp] theorem isSynthetic_recorded (t : Transaction) (i : UInt64) :
    (recorded t i).isSynthetic = false := rfl

@[simp] theorem isSynthetic_implied (b : Block) : (implied b).isSynthetic = true := rfl

end RewardEvent

/-- The transactions by which `b` pays a reward to `address`. -/
def rewardPayments (address : String) (b : Block) : List Transaction :=
  b.transactions.filter fun t => t.isSystem && t.receiver == address

/-- The rewards of `address` in one block. -/
def blockRewards (address : String) (b : Block) : List RewardEvent :=
  match rewardPayments address b with
  | [] => if b.author = address then [.implied b] else []
  | payments => payments.map (RewardEvent.recorded · b.index)

/-- The rewards of `address`, if there is one, in a list of blocks. -/
def rewardFeed (address : Option String) (blocks : List Block) : List RewardEvent :=
  match address with
  | none => []
  | some address => blocks.flatMap (blockRewards address)

@[simp] theorem rewardFeed_none (blocks : List Block) : rewardFeed none blocks = [] := rfl

@[simp] theorem rewardFeed_nil (address : Option String) : rewardFeed address [] = [] := by
  cases address <;> rfl

theorem rewardFeed_append (address : Option String) (xs ys : List Block) :
    rewardFeed address (xs ++ ys) = rewardFeed address xs ++ rewardFeed address ys := by
  cases address <;> simp [rewardFeed]

end WalletDashboard
