import Mathlib.Algebra.BigOperators.Group.Finset.Piecewise
import Mathlib.Algebra.BigOperators.Ring.Finset
import Mathlib.Data.List.Infix
import WalletDashboard.Powers
import WalletDashboard.Rewards.Balance

/-!
# Where the coins come from

Coins are minted as rewards, and payments move them from one wallet to another. So all wallets
together own what was minted, as long as no balance is cut off at an end of the machine word.

* `bookings` is what is booked for a wallet, in order: its rewards first, then its payments. If no
  running total leaves the machine word, the balance is their sum (`toNat_balanceOf`).
* `sum_booked`: a payment that does not go back to its sender is taken from one wallet and given to
  another, so it adds nothing to all of them together.
* `sum_blockMint`: what a block mints goes to somebody once, whether it is recorded or implied.

`sum_balanceOf` puts them together, over the wallets that occur in the blocks (`addressesIn`).
-/

namespace WalletDashboard

/-! ### What is booked for a wallet -/

/-- What the payment `t` adds to what `address` owns. -/
def booked (address : String) (t : Transaction) : Int :=
  if t.receiver = address then t.amount.toNat
  else if t.sender = address then -t.amount.toNat
  else 0

/-- What is booked for `address`: its rewards first, then its payments in chain order. -/
def bookings (address : String) (blocks : List Block) : List Int :=
  (rewardFeed (some address) blocks).map (fun r => (r.amount.toNat : Int)) ++
    (payments blocks).map (booked address)

/-- No running total of `steps` leaves the machine word. -/
def StaysInWord (steps : List Int) : Prop :=
  ∀ past, past <+: steps → 0 ≤ past.sum ∧ past.sum < 2 ^ 64

instance (steps : List Int) : Decidable (StaysInWord steps) :=
  decidable_of_iff (∀ past ∈ steps.inits, 0 ≤ past.sum ∧ past.sum < 2 ^ 64)
    (by simp only [StaysInWord, List.mem_inits])

/-- As long as the running totals stay in the machine word, a fold that books one step after another
comes to the exact sum. -/
theorem toNat_foldl {α : Type} {book : Amount → α → Amount} {step : α → Int}
    (hbook : ∀ (x : Amount) (a : α), 0 ≤ (x.toNat : Int) + step a →
      (x.toNat : Int) + step a < 2 ^ 64 → ((book x a).toNat : Int) = x.toNat + step a)
    (as : List α) (x : Amount)
    (h : ∀ past, past <+: as.map step →
      0 ≤ (x.toNat : Int) + past.sum ∧ (x.toNat : Int) + past.sum < 2 ^ 64) :
    ((as.foldl book x).toNat : Int) = x.toNat + (as.map step).sum := by
  induction as generalizing x with
  | nil => simp
  | cons a as ih =>
    rw [List.map_cons] at h ⊢
    -- The first step stays in the word, and from there on the others do.
    have hfirst : ((book x a).toNat : Int) = x.toNat + step a := by
      have h1 := h [step a] (List.cons_prefix_cons.mpr ⟨rfl, List.nil_prefix⟩)
      rw [List.sum_singleton] at h1
      exact hbook x a h1.1 h1.2
    have hrest : ∀ past, past <+: as.map step →
        0 ≤ ((book x a).toNat : Int) + past.sum ∧
          ((book x a).toNat : Int) + past.sum < 2 ^ 64 := by
      intro past hpast
      have h2 := h (step a :: past) (List.cons_prefix_cons.mpr ⟨rfl, hpast⟩)
      rw [List.sum_cons] at h2
      rw [hfirst]
      omega
    rw [List.foldl_cons, ih (book x a) hrest, hfirst, List.sum_cons, Int.add_assoc]

theorem toNat_addCapped_of_lt {a b : Amount} (h : (a.toNat : Int) + b.toNat < 2 ^ 64) :
    ((Amount.addCapped a b).toNat : Int) = a.toNat + b.toNat := by
  rw [Amount.toNat_addCapped]
  omega

theorem toNat_settle {address : String} {x : Amount} {t : Transaction}
    (h0 : 0 ≤ (x.toNat : Int) + booked address t)
    (h1 : (x.toNat : Int) + booked address t < 2 ^ 64) :
    ((settle address x t).toNat : Int) = x.toNat + booked address t := by
  unfold booked at h0 h1 ⊢
  unfold settle
  split_ifs at h0 h1 ⊢ with hr hs
  · exact toNat_addCapped_of_lt h1
  · rw [Amount.toNat_subFloored]
    omega
  · rw [Int.add_zero]

theorem StaysInWord.of_append {xs ys : List Int} (h : StaysInWord (xs ++ ys)) : StaysInWord xs :=
  fun past hpast => h past (hpast.trans (List.prefix_append xs ys))

theorem toNat_rewardTotal {address : String} {blocks : List Block}
    (h : StaysInWord ((rewardFeed (some address) blocks).map fun r => (r.amount.toNat : Int))) :
    ((rewardTotal address blocks).toNat : Int) =
      ((rewardFeed (some address) blocks).map fun r => (r.amount.toNat : Int)).sum := by
  have hbook : ∀ (total : Amount) (r : RewardEvent), 0 ≤ (total.toNat : Int) + r.amount.toNat →
      (total.toNat : Int) + r.amount.toNat < 2 ^ 64 →
        ((total.addCapped r.amount).toNat : Int) = total.toNat + r.amount.toNat :=
    fun _ _ _ h1 => toNat_addCapped_of_lt h1
  have hfold := toNat_foldl hbook (rewardFeed (some address) blocks) 0
    (fun past hpast => by simpa using h past hpast)
  rw [rewardTotal, hfold]
  simp

/-- The balance is the exact sum of what was booked, if no running total leaves the machine word. -/
theorem toNat_balanceOf {address : String} {blocks : List Block}
    (h : StaysInWord (bookings address blocks)) :
    ((balanceOf address blocks).toNat : Int) = (bookings address blocks).sum := by
  have hpayments : ∀ past, past <+: (payments blocks).map (booked address) →
      0 ≤ ((rewardTotal address blocks).toNat : Int) + past.sum ∧
        ((rewardTotal address blocks).toNat : Int) + past.sum < 2 ^ 64 := by
    intro past hpast
    have hall := h _ ((List.prefix_append_right_inj _).mpr hpast)
    rwa [List.sum_append, ← toNat_rewardTotal h.of_append] at hall
  rw [balanceOf, toNat_foldl (fun _ _ => toNat_settle) _ _ hpayments,
    toNat_rewardTotal h.of_append, bookings, List.sum_append]

/-! ### All wallets together -/

/-- The addresses that occur in a block: its author, and whoever sends or receives in it. -/
def Block.addresses (b : Block) : List String :=
  b.author :: b.transactions.flatMap fun t => [t.sender, t.receiver]

/-- The addresses that occur in `blocks`. -/
def addressesIn (blocks : List Block) : Finset String := (blocks.flatMap Block.addresses).toFinset

theorem sum_sum_map {α ι M : Type} [AddCommMonoid M] (s : Finset ι) (f : ι → α → M) (as : List α) :
    ∑ i ∈ s, (as.map (f i)).sum = (as.map fun a => ∑ i ∈ s, f i a).sum := by
  simpa using (Multiset.sum_map_sum (m := (as : Multiset α)) (s := s) (f := fun a i => f i a)).symm

theorem addresses_subset {blocks : List Block} {b : Block} (hb : b ∈ blocks) {address : String}
    (h : address ∈ b.addresses) : address ∈ addressesIn blocks :=
  List.mem_toFinset.mpr (List.mem_flatMap.mpr ⟨b, hb, h⟩)

theorem sender_mem_addresses {b : Block} {t : Transaction} (ht : t ∈ b.transactions) :
    t.sender ∈ b.addresses :=
  List.mem_cons_of_mem _ (List.mem_flatMap.mpr ⟨t, ht, by simp⟩)

theorem receiver_mem_addresses {b : Block} {t : Transaction} (ht : t ∈ b.transactions) :
    t.receiver ∈ b.addresses :=
  List.mem_cons_of_mem _ (List.mem_flatMap.mpr ⟨t, ht, by simp⟩)

/-- A payment to somebody else is taken from one wallet and given to another. -/
theorem sum_booked {s : Finset String} {t : Transaction} (hsender : t.sender ∈ s)
    (hreceiver : t.receiver ∈ s) (hne : t.sender ≠ t.receiver) :
    ∑ a ∈ s, booked a t = 0 := by
  have hsplit (a : String) : booked a t =
      (if t.receiver = a then (t.amount.toNat : Int) else 0) +
        (if t.sender = a then -(t.amount.toNat : Int) else 0) := by
    unfold booked
    split_ifs with hr hs
    · exact absurd (hs.trans hr.symm) hne
    · rw [Int.add_zero]
    · rw [Int.zero_add]
    · rw [Int.zero_add]
  simp_rw [hsplit]
  rw [Finset.sum_add_distrib, Finset.sum_ite_eq, Finset.sum_ite_eq, if_pos hreceiver,
    if_pos hsender, Int.add_right_neg]

theorem sum_payments {blocks : List Block}
    (hself : ∀ t ∈ payments blocks, t.sender ≠ t.receiver) :
    ∑ a ∈ addressesIn blocks, ((payments blocks).map (booked a)).sum = 0 := by
  rw [sum_sum_map]
  refine List.sum_eq_zero fun x hx => ?_
  obtain ⟨t, ht, rfl⟩ := List.mem_map.mp hx
  obtain ⟨b, hb, htb⟩ := List.mem_flatMap.mp (List.mem_of_mem_filter ht)
  exact sum_booked (addresses_subset hb (sender_mem_addresses htb))
    (addresses_subset hb (receiver_mem_addresses htb)) (hself t ht)

/-! ### What is minted -/

/-- What is minted to `address` in the blocks: the sum of its rewards. -/
def minted (address : String) (blocks : List Block) : Nat :=
  ((rewardFeed (some address) blocks).map fun r => r.amount.toNat).sum

/-- The system transactions of a block. -/
def Block.systemTransactions (b : Block) : List Transaction := b.transactions.filter (·.isSystem)

/-- Whether a system transaction of the block goes to its author. -/
def Block.paysAuthor (b : Block) : Bool := b.systemTransactions.any (·.receiver = b.author)

/-- The amounts of all system transactions. -/
def systemTotal (blocks : List Block) : Nat :=
  ((blocks.flatMap Block.systemTransactions).map fun t => t.amount.toNat).sum

/-- What making the blocks pays whose authors get no system transaction. -/
def impliedTotal (blocks : List Block) : Nat :=
  ((blocks.filter fun b => !b.paysAuthor).map fun b => (blockReward b.index).toNat).sum

theorem rewardPayments_eq_filter (address : String) (b : Block) :
    rewardPayments address b = b.systemTransactions.filter (·.receiver == address) := by
  rw [rewardPayments, Block.systemTransactions, List.filter_filter]
  simp only [Bool.and_comm]

theorem rewardPayments_author_eq_nil_iff (b : Block) :
    rewardPayments b.author b = [] ↔ b.paysAuthor = false := by
  simp [rewardPayments_eq_filter, Block.paysAuthor, List.filter_eq_nil_iff]

/-- A wallet gets what a block records for it, and else, if it made the block, what that pays. -/
theorem sum_blockRewards (address : String) (b : Block) :
    ((blockRewards address b).map fun r => r.amount.toNat).sum =
      ((rewardPayments address b).map fun t => t.amount.toNat).sum +
        if b.author = address then (if b.paysAuthor then 0 else (blockReward b.index).toNat)
        else 0 := by
  have hauthor : b.author = address → (rewardPayments address b = [] ↔ b.paysAuthor = false) := by
    rintro rfl
    exact rewardPayments_author_eq_nil_iff b
  unfold blockRewards
  cases hp : rewardPayments address b with
  | nil =>
    by_cases ha : b.author = address
    · have hpays : b.paysAuthor = false := (hauthor ha).mp hp
      simp [ha, hpays, RewardEvent.implied]
    · simp [ha]
  | cons t ts =>
    -- Something is recorded for the wallet, so nothing is implied.
    have hnone : (if b.author = address then
        (if b.paysAuthor then 0 else (blockReward b.index).toNat) else 0) = 0 := by
      split_ifs with ha hpays
      · rfl
      · rw [(hauthor ha).mpr (Bool.eq_false_of_not_eq_true hpays)] at hp
        cases hp
      · rfl
    rw [hnone, Nat.add_zero, List.map_map]
    rfl

theorem sum_rewardPayments (address : String) (b : Block) :
    ((rewardPayments address b).map fun t => t.amount.toNat).sum =
      (b.systemTransactions.map fun t =>
        if t.receiver = address then t.amount.toNat else 0).sum := by
  rw [rewardPayments_eq_filter]
  induction b.systemTransactions with
  | nil => rfl
  | cons t ts ih => by_cases h : t.receiver = address <;> simp [h, ih]

/-- What a block mints, to all wallets together: every system transaction goes to one of them, and
what making the block pays to its author, unless that one is paid already. -/
theorem sum_blockMint {s : Finset String} {b : Block} (hs : ∀ a ∈ b.addresses, a ∈ s) :
    ∑ a ∈ s, ((blockRewards a b).map fun r => r.amount.toNat).sum =
      (b.systemTransactions.map fun t => t.amount.toNat).sum +
        if b.paysAuthor then 0 else (blockReward b.index).toNat := by
  have hreceiver : ∀ t ∈ b.systemTransactions,
      (∑ a ∈ s, if t.receiver = a then t.amount.toNat else 0) = t.amount.toNat := by
    intro t ht
    rw [Finset.sum_ite_eq, if_pos (hs _ (receiver_mem_addresses (List.mem_of_mem_filter ht)))]
  simp_rw [sum_blockRewards, sum_rewardPayments]
  rw [Finset.sum_add_distrib, sum_sum_map, List.map_congr_left hreceiver, Finset.sum_ite_eq,
    if_pos (hs _ List.mem_cons_self)]

theorem minted_eq (address : String) (blocks : List Block) :
    minted address blocks =
      (blocks.map fun b => ((blockRewards address b).map fun r => r.amount.toNat).sum).sum := by
  induction blocks with
  | nil => rfl
  | cons b blocks ih =>
    rw [List.map_cons, List.sum_cons, ← ih]
    simp [minted, rewardFeed]

theorem systemTotal_add_impliedTotal (blocks : List Block) :
    systemTotal blocks + impliedTotal blocks =
      (blocks.map fun b => (b.systemTransactions.map fun t => t.amount.toNat).sum +
        if b.paysAuthor then 0 else (blockReward b.index).toNat).sum := by
  induction blocks with
  | nil => rfl
  | cons b blocks ih =>
    rw [List.map_cons, List.sum_cons, ← ih]
    cases hb : b.paysAuthor <;> simp [systemTotal, impliedTotal, hb] <;> omega

theorem sum_minted (blocks : List Block) :
    ∑ a ∈ addressesIn blocks, minted a blocks = systemTotal blocks + impliedTotal blocks := by
  simp_rw [minted_eq]
  rw [sum_sum_map, systemTotal_add_impliedTotal]
  refine congrArg List.sum (List.map_congr_left fun b hb => ?_)
  exact sum_blockMint fun a ha => addresses_subset hb ha

/-! ### Conservation -/

/-- **All wallets together own what was minted,** if nobody pays to himself and no running total
leaves the machine word: what was booked for one as a payment was booked for another against it. And
what was minted is what the system transactions pay, and what making the blocks pays whose authors
get no system transaction. -/
theorem sum_balanceOf {blocks : List Block}
    (hself : ∀ t ∈ payments blocks, t.sender ≠ t.receiver)
    (hword : ∀ a ∈ addressesIn blocks, StaysInWord (bookings a blocks)) :
    ∑ a ∈ addressesIn blocks, (balanceOf a blocks).toNat =
        ∑ a ∈ addressesIn blocks, minted a blocks ∧
      ∑ a ∈ addressesIn blocks, minted a blocks = systemTotal blocks + impliedTotal blocks := by
  refine ⟨?_, sum_minted blocks⟩
  have hbooked : ∀ a ∈ addressesIn blocks, ((balanceOf a blocks).toNat : Int) =
      (minted a blocks : Int) + ((payments blocks).map (booked a)).sum := by
    intro a ha
    rw [toNat_balanceOf (hword a ha), bookings, List.sum_append, minted, Nat.cast_list_sum,
      List.map_map]
    rfl
  have hsum : ((∑ a ∈ addressesIn blocks, (balanceOf a blocks).toNat : Nat) : Int) =
      (∑ a ∈ addressesIn blocks, minted a blocks : Nat) := by
    rw [Nat.cast_sum, Nat.cast_sum, Finset.sum_congr rfl hbooked, Finset.sum_add_distrib,
      sum_payments hself, Int.add_zero]
  exact Int.ofNat_inj.mp hsum

/-- Coins are implied for `A` and recorded for `B`, the system pays itself, and `A` and `B` pay each
other and a third wallet. -/
theorem sum_balanceOf_three_wallets :
    let pay (sender receiver : String) (amount : UInt64) : Transaction :=
      ⟨"", sender, receiver, amount, 0, ""⟩
    let blocks : List Block :=
      [⟨0, 0, "A", [pay "A" "B" 70, pay "SYSTEM" "SYSTEM" 9]⟩,
        ⟨1, 60, "B", [pay "SYSTEM" "B" 5, pay "B" "C" 40, pay "B" "A" 35]⟩]
    (∀ t ∈ payments blocks, t.sender ≠ t.receiver) ∧
      (∀ a ∈ addressesIn blocks, StaysInWord (bookings a blocks)) ∧
      ∑ a ∈ addressesIn blocks, (balanceOf a blocks).toNat =
          ∑ a ∈ addressesIn blocks, minted a blocks ∧
        ∑ a ∈ addressesIn blocks, minted a blocks = systemTotal blocks + impliedTotal blocks := by
  intro pay blocks
  have hself : ∀ t ∈ payments blocks, t.sender ≠ t.receiver := by decide
  have hword : ∀ a ∈ addressesIn blocks, StaysInWord (bookings a blocks) := by decide
  exact ⟨hself, hword, sum_balanceOf hself hword⟩

end WalletDashboard
