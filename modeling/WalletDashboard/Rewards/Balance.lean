import WalletDashboard.Rewards

/-!
# Balances

What an address owns after a list of blocks: all its rewards first, then its payments in chain
order, each step kept inside the machine word.
-/

namespace WalletDashboard

/-- The balance of `address` after the payment `t`. A payment to oneself counts as received. -/
def settle (address : String) (balance : Amount) (t : Transaction) : Amount :=
  if t.receiver = address then Amount.addCapped balance t.amount
  else if t.sender = address then Amount.subFloored balance t.amount
  else balance

/-- The payments among the transactions of `blocks`, in order. -/
def payments (blocks : List Block) : List Transaction :=
  (blocks.flatMap (·.transactions)).filter fun t => !t.isSystem

/-- The sum of the rewards of `address`. -/
def rewardTotal (address : String) (blocks : List Block) : Amount :=
  (rewardFeed (some address) blocks).foldl (fun total r => Amount.addCapped total r.amount) 0

/-- What `address` owns after `blocks`. -/
def balanceOf (address : String) (blocks : List Block) : Amount :=
  (payments blocks).foldl (settle address) (rewardTotal address blocks)

@[simp] theorem balanceOf_nil (address : String) : balanceOf address [] = 0 := rfl

end WalletDashboard
