import Mathlib.Data.List.Basic
import Mathlib.Data.List.Count
import Mathlib.Data.List.Pairwise
import Mathlib.Tactic.SplitIfs
import WalletDashboard.Rewards

/-!
# The reward feed, block by block

Every block contributes to a feed by itself, whatever stands before it. `blockRewards_eq` says what
it contributes, and `mem_blockRewards_iff` where a reward of it can come from: a system transaction
that pays the wallet, or, if there is none, the making of the block.

A feed can also be collected in one list that grows from block to block (`collectRewards`). Whether a
block recorded a payment is then seen from whether the list has grown, and the outcome is the same
(`foldl_collectRewards`).

`rewardFeed_blockwise` puts together what follows for whole feeds: their order, to whom they belong,
and that every system transaction stands in one feed as often as it stands in the blocks
(`count_recorded_rewardFeed`).
-/

namespace WalletDashboard

variable {address : String} {b : Block} {r : RewardEvent}

/-! ### One block -/

theorem isSystem_iff {t : Transaction} : t.isSystem = true ↔ t.sender = systemSender := beq_iff_eq

theorem mem_rewardPayments_iff {t : Transaction} :
    t ∈ rewardPayments address b ↔
      t ∈ b.transactions ∧ t.sender = systemSender ∧ t.receiver = address := by
  rw [rewardPayments, List.mem_filter, Bool.and_eq_true, isSystem_iff, beq_iff_eq]

theorem rewardPayments_eq (address : String) (b : Block) :
    rewardPayments address b =
      b.transactions.filter fun t => t.sender = systemSender ∧ t.receiver = address := by
  refine List.filter_congr fun t _ => ?_
  rw [Bool.eq_iff_iff, Bool.and_eq_true, isSystem_iff, beq_iff_eq, decide_eq_true_iff]

/-- What is recorded comes first; what making the block implies counts only without it. -/
theorem blockRewards_eq (address : String) (b : Block) :
    blockRewards address b =
      if rewardPayments address b ≠ [] then
        (rewardPayments address b).map (RewardEvent.recorded · b.index)
      else if b.author = address then [.implied b]
      else [] := by
  unfold blockRewards
  cases rewardPayments address b with
  | nil => simp
  | cons t ts => simp

/-- Where a reward of a block can come from. -/
theorem mem_blockRewards_iff :
    r ∈ blockRewards address b ↔
      (∃ t ∈ rewardPayments address b, r = .recorded t b.index) ∨
        rewardPayments address b = [] ∧ b.author = address ∧ r = .implied b := by
  rw [blockRewards_eq]
  split_ifs with hpaid hmade
  · -- Something is recorded, so nothing is implied.
    simp [hpaid, eq_comm (a := r)]
  · have hnone : rewardPayments address b = [] := not_not.mp hpaid
    simp [hnone, hmade]
  · have hnone : rewardPayments address b = [] := not_not.mp hpaid
    simp [hnone, hmade]

theorem blockIndex_of_mem_blockRewards (h : r ∈ blockRewards address b) :
    r.blockIndex = b.index := by
  rcases mem_blockRewards_iff.mp h with ⟨t, -, rfl⟩ | ⟨-, -, rfl⟩ <;> rfl

theorem parties_of_mem_blockRewards (h : r ∈ blockRewards address b) :
    r.sender = systemSender ∧ r.receiver = address := by
  rcases mem_blockRewards_iff.mp h with ⟨t, ht, rfl⟩ | ⟨-, hmade, rfl⟩
  · exact (mem_rewardPayments_iff.mp ht).2
  · exact ⟨rfl, hmade⟩

/-- Recorded and implied rewards do not meet in one block. -/
theorem source_eq_of_mem_blockRewards {r' : RewardEvent} (h : r ∈ blockRewards address b)
    (h' : r' ∈ blockRewards address b) : r.source = r'.source := by
  rcases mem_blockRewards_iff.mp h with ⟨t, ht, rfl⟩ | ⟨hnone, -, rfl⟩ <;>
    rcases mem_blockRewards_iff.mp h' with ⟨t', ht', rfl⟩ | ⟨hnone', -, rfl⟩
  · rfl
  · rw [hnone'] at ht
    cases ht
  · rw [hnone] at ht'
    cases ht'
  · rfl

/-- The recorded rewards of a block are those of its payments, in their order. -/
theorem filter_explicit_blockRewards (address : String) (b : Block) :
    (blockRewards address b).filter (·.source = .explicit) =
      (rewardPayments address b).map (RewardEvent.recorded · b.index) := by
  rw [blockRewards_eq]
  split_ifs with hpaid hmade
  · refine List.filter_eq_self.mpr fun r hr => ?_
    obtain ⟨t, -, rfl⟩ := List.mem_map.mp hr
    rfl
  · rw [not_not.mp hpaid]
    rfl
  · rw [not_not.mp hpaid]
    rfl

/-! ### Collecting a feed in one list -/

/-- Adds what a block contributes to the rewards collected before it: its payments, and, if the list
has not grown by them, what making the block implies. -/
def collectRewards (address : String) (rewards : List RewardEvent) (b : Block) : List RewardEvent :=
  let extended := rewards ++ (rewardPayments address b).map (RewardEvent.recorded · b.index)
  if extended.length = rewards.length ∧ b.author = address then extended ++ [.implied b]
  else extended

/-- The length of the list tells whether the block recorded a payment, whatever came before. -/
theorem collectRewards_eq (address : String) (rewards : List RewardEvent) (b : Block) :
    collectRewards address rewards b = rewards ++ blockRewards address b := by
  have hgrown :
      (rewards ++ (rewardPayments address b).map (RewardEvent.recorded · b.index)).length =
        rewards.length ↔ rewardPayments address b = [] := by
    rw [List.length_append, List.length_map, Nat.add_eq_left, List.length_eq_zero_iff]
  simp only [collectRewards, hgrown]
  rw [blockRewards_eq]
  by_cases hpaid : rewardPayments address b = []
  · by_cases hmade : b.author = address
    · simp [hpaid, hmade]
    · simp [hpaid, hmade]
  · simp [hpaid]

theorem foldl_collectRewards (address : String) (rewards : List RewardEvent) (blocks : List Block) :
    blocks.foldl (collectRewards address) rewards =
      rewards ++ rewardFeed (some address) blocks := by
  induction blocks generalizing rewards with
  | nil => rw [List.foldl_nil, rewardFeed_nil, List.append_nil]
  | cons b blocks ih =>
    rw [List.foldl_cons, ih, collectRewards_eq, List.append_assoc]
    rfl

/-! ### Whole feeds -/

theorem rewardFeed_singleton (address : String) (b : Block) :
    rewardFeed (some address) [b] = blockRewards address b :=
  List.flatMap_singleton ..

theorem parties_of_mem_rewardFeed {blocks : List Block} (h : r ∈ rewardFeed (some address) blocks) :
    r.sender = systemSender ∧ r.receiver = address := by
  obtain ⟨b, -, hr⟩ := List.mem_flatMap.mp h
  exact parties_of_mem_blockRewards hr

/-- A feed goes through the numbers of its blocks in their order. -/
theorem pairwise_blockIndex_rewardFeed {blocks : List Block}
    (h : (blocks.map (·.index)).Pairwise (· ≤ ·)) :
    ((rewardFeed (some address) blocks).map (·.blockIndex)).Pairwise (· ≤ ·) := by
  rw [List.pairwise_map] at h ⊢
  refine List.pairwise_flatMap.mpr ⟨fun b _ => ?_, h.imp fun {b b'} hle r hr r' hr' => ?_⟩
  · -- Within one block all numbers are equal.
    refine List.pairwise_of_forall_mem_list fun r hr r' hr' => ?_
    rw [blockIndex_of_mem_blockRewards hr, blockIndex_of_mem_blockRewards hr']
    exact UInt64.le_refl b.index
  · rwa [blockIndex_of_mem_blockRewards hr, blockIndex_of_mem_blockRewards hr']

theorem filter_explicit_rewardFeed (address : String) (blocks : List Block) :
    (rewardFeed (some address) blocks).filter (·.source = .explicit) =
      blocks.flatMap fun b => (rewardPayments address b).map (RewardEvent.recorded · b.index) := by
  rw [rewardFeed, List.filter_flatMap]
  exact List.flatMap_congr fun b _ => filter_explicit_blockRewards address b

theorem recorded_inj {t t' : Transaction} {i i' : UInt64} :
    RewardEvent.recorded t i = .recorded t' i' ↔ t = t' ∧ i = i' := by
  simp [RewardEvent.recorded]

theorem count_rewardPayments (address : String) (b : Block) (t : Transaction) :
    (rewardPayments address b).count t =
      if t.sender = systemSender ∧ t.receiver = address then b.transactions.count t else 0 := by
  split_ifs with h
  · rw [rewardPayments_eq]
    exact List.count_filter (decide_eq_true h)
  · exact List.count_eq_zero_of_not_mem fun ht => h (mem_rewardPayments_iff.mp ht).2

theorem count_recorded_blockRewards (address : String) (b : Block) (t : Transaction) (i : UInt64) :
    (blockRewards address b).count (.recorded t i) =
      if b.index = i then (rewardPayments address b).count t else 0 := by
  have hfilter := List.count_filter (p := fun r : RewardEvent => decide (r.source = .explicit))
    (l := blockRewards address b) (a := .recorded t i) rfl
  rw [← hfilter, filter_explicit_blockRewards]
  split_ifs with hi
  · subst hi
    exact List.count_map_of_injective _ _ (fun t t' h => (recorded_inj.mp h).1) t
  · refine List.count_eq_zero_of_not_mem fun h => hi ?_
    obtain ⟨t', -, heq⟩ := List.mem_map.mp h
    exact (recorded_inj.mp heq).2

/-- Of the transactions that blocks of the number `i` record, each stands in the feed of its
receiver as often as in these blocks if the system sent it, and in no feed otherwise. -/
theorem count_recorded_rewardFeed (address : String) (blocks : List Block) (t : Transaction)
    (i : UInt64) :
    (rewardFeed (some address) blocks).count (.recorded t i) =
      if t.sender = systemSender ∧ t.receiver = address then
        ((blocks.filter (·.index = i)).flatMap (·.transactions)).count t
      else 0 := by
  induction blocks with
  | nil => simp
  | cons b blocks ih =>
    have hcons : rewardFeed (some address) (b :: blocks) =
        blockRewards address b ++ rewardFeed (some address) blocks := rfl
    rw [hcons, List.count_append, ih, count_recorded_blockRewards, count_rewardPayments]
    by_cases hi : b.index = i
    · by_cases ht : t.sender = systemSender ∧ t.receiver = address
      · simp [hi, ht]
      · simp [ht]
    · simp [hi]

/-- **A feed is put together from what each block contributes**: the payments that it records for
the wallet, in their order and with the number of the block; or else, if the wallet made the block,
one reward for that; or else nothing. So the two kinds do not meet in one block, all rewards go from
the system to the wallet, they keep the order of the blocks, and every payment of the system stands
in the feed of its receiver as often as in the blocks, and in no other. -/
theorem rewardFeed_blockwise (address : String) (xs ys : List Block) :
    rewardFeed (some address) (xs ++ ys) =
        rewardFeed (some address) xs ++ rewardFeed (some address) ys ∧
    xs.foldl (collectRewards address) [] = rewardFeed (some address) xs ∧
    (∀ b : Block,
      let recorded := (b.transactions.filter fun t =>
        t.sender = "SYSTEM" ∧ t.receiver = address).map fun t => RewardEvent.mk t b.index .explicit
      let implied : RewardEvent :=
        { id := "reward-" ++ Nat.repr b.index.toNat, sender := "SYSTEM", receiver := address
          amount := blockReward b.index, timestamp := b.timestamp, signature := "reward"
          blockIndex := b.index, source := .synthetic }
      rewardFeed (some address) [b] =
        if recorded ≠ [] then recorded else if b.author = address then [implied] else []) ∧
    (∀ b, ∀ r ∈ rewardFeed (some address) [b], ∀ r' ∈ rewardFeed (some address) [b],
      r.source = r'.source) ∧
    (∀ r ∈ rewardFeed (some address) xs, r.sender = "SYSTEM" ∧ r.receiver = address) ∧
    ((xs.map (·.index)).Pairwise (· ≤ ·) →
      ((rewardFeed (some address) xs).map (·.blockIndex)).Pairwise (· ≤ ·)) ∧
    (rewardFeed (some address) xs).filter (·.source = .explicit) =
      (xs.flatMap fun b => (b.transactions.filter fun t =>
        t.sender = "SYSTEM" ∧ t.receiver = address).map fun t => .mk t b.index .explicit) ∧
    ∀ t i, (rewardFeed (some address) xs).count (.mk t i .explicit) =
      if t.sender = "SYSTEM" ∧ t.receiver = address then
        ((xs.filter (·.index = i)).flatMap (·.transactions)).count t
      else 0 := by
  have hrecorded (b : Block) : (b.transactions.filter fun t =>
      t.sender = "SYSTEM" ∧ t.receiver = address).map (RewardEvent.mk · b.index .explicit) =
        (rewardPayments address b).map (RewardEvent.recorded · b.index) := by
    rw [rewardPayments_eq]
    rfl
  refine ⟨rewardFeed_append _ xs ys, foldl_collectRewards address [] xs, fun b => ?_,
    fun b r hr r' hr' => ?_, fun r hr => parties_of_mem_rewardFeed hr,
    pairwise_blockIndex_rewardFeed, ?_, count_recorded_rewardFeed address xs⟩
  · simp only [hrecorded, rewardFeed_singleton, blockRewards_eq, ne_eq, List.map_eq_nil_iff]
    split_ifs with hnone hmade
    · subst hmade
      rfl
    · rfl
    · rfl
  · rw [rewardFeed_singleton] at hr hr'
    exact source_eq_of_mem_blockRewards hr hr'
  · simp only [hrecorded]
    exact filter_explicit_rewardFeed address xs

/-- Two blocks of one number, of which the first records a payment that looks like an implied
reward, and the second the payment of another. -/
theorem rewardFeed_blockwise_same_number :
    let t : Transaction := ⟨"reward-5", "SYSTEM", "A", 7, 60, "reward"⟩
    let xs : List Block := [⟨5, 60, "A", [t, ⟨"u", "B", "A", 1, 60, ""⟩, t]⟩,
      ⟨5, 61, "A", [⟨"v", "SYSTEM", "B", 2, 61, ""⟩]⟩]
    (xs.map (·.index)).Pairwise (· ≤ ·) ∧
      ((rewardFeed (some "A") xs).map (·.blockIndex)).Pairwise (· ≤ ·) ∧
      (rewardFeed (some "A") xs).count (.mk t 5 .explicit) = 2 ∧
      (rewardFeed (some "B") xs).count (.mk t 5 .explicit) = 0 := by
  intro t xs
  have hsorted : (xs.map (·.index)).Pairwise (· ≤ ·) := by decide
  obtain ⟨-, -, -, -, -, horder, -, hcount⟩ := rewardFeed_blockwise "A" xs []
  obtain ⟨-, -, -, -, -, -, -, hother⟩ := rewardFeed_blockwise "B" xs []
  exact ⟨hsorted, horder hsorted, (hcount t 5).trans (by decide), (hother t 5).trans (by decide)⟩

end WalletDashboard
