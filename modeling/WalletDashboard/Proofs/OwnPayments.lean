import WalletDashboard.Proofs.Conservation

/-!
# Payments to oneself

A wallet should own its rewards and what it received, less what it sent. A payment that goes back to
its sender counts in both sums, so it should change nothing. But it is booked as received alone
(`settle`), and the wallet then owns more than it should.

* `moves` is what the rewards and payments of a wallet should change, in order; its sum is the rewards
  and what was received, less what was sent (`sum_moves`).
* `MakesUp`: the payments to oneself do not show any more, since there were none, or since the total
  has been at the end of the machine word after the last of them.

`balanceOf_eq_due_iff` says how far the balance is off, and exactly when it is right.
-/

namespace WalletDashboard

/-- What the payment `t` should change about what `address` owns: it is received, sent, or both. -/
def moved (address : String) (t : Transaction) : Int :=
  (if t.receiver = address then (t.amount.toNat : Int) else 0) -
    if t.sender = address then (t.amount.toNat : Int) else 0

/-- What should change about what `address` owns: its rewards first, then its payments in chain
order. -/
def moves (address : String) (blocks : List Block) : List Int :=
  (rewardFeed (some address) blocks).map (fun r => (r.amount.toNat : Int)) ++
    (payments blocks).map (moved address)

/-- The amounts of the transactions that `p` holds of. -/
def amountsOf (p : Transaction → Bool) (ts : List Transaction) : Nat :=
  ((ts.filter p).map fun t => t.amount.toNat).sum

/-- What `address` received, also from itself. -/
def receivedTotal (address : String) (blocks : List Block) : Nat :=
  amountsOf (·.receiver = address) (payments blocks)

/-- What `address` sent, also to itself. -/
def sentTotal (address : String) (blocks : List Block) : Nat :=
  amountsOf (·.sender = address) (payments blocks)

/-- What `address` sent to itself. -/
def ownTotal (address : String) (blocks : List Block) : Nat :=
  amountsOf (fun t => t.sender = address ∧ t.receiver = address) (payments blocks)

/-- What `address` should own: rewards plus transfers in, minus transfers out. -/
def due (address : String) (blocks : List Block) : Int :=
  minted address blocks + receivedTotal address blocks - sentTotal address blocks

/-- The payment brings something from `address` back to it. -/
def Transaction.IsOwn (address : String) (t : Transaction) : Prop :=
  t.sender = address ∧ t.receiver = address ∧ t.amount ≠ 0

/-- On the way from the total `start` nothing is left of the payments of `address` to itself: there
are none but in a beginning that leads to the end of the machine word. -/
def MakesUp (address : String) (start : Int) (ts : List Transaction) : Prop :=
  ∃ before after, ts = before ++ after ∧ (∀ t ∈ after, ¬t.IsOwn address) ∧
    (before = [] ∨ start + (before.map (moved address)).sum = 2 ^ 64 - 1)

theorem amountsOf_cons (p : Transaction → Bool) (t : Transaction) (ts : List Transaction) :
    amountsOf p (t :: ts) = (if p t then t.amount.toNat else 0) + amountsOf p ts := by
  unfold amountsOf
  cases h : p t <;> simp [h]

theorem amountsOf_concat (p : Transaction → Bool) (ts : List Transaction) (t : Transaction) :
    amountsOf p (ts ++ [t]) = amountsOf p ts + if p t then t.amount.toNat else 0 := by
  unfold amountsOf
  cases h : p t <;> simp [h]

theorem sum_moved (address : String) (ts : List Transaction) :
    (ts.map (moved address)).sum =
      (amountsOf (·.receiver = address) ts : Int) - amountsOf (·.sender = address) ts := by
  induction ts with
  | nil => rfl
  | cons t ts ih =>
    rw [List.map_cons, List.sum_cons, ih, amountsOf_cons, amountsOf_cons]
    simp only [moved, decide_eq_true_eq]
    split_ifs <;> push_cast <;> omega

theorem sum_moves (address : String) (blocks : List Block) :
    (moves address blocks).sum = due address blocks := by
  have hminted : ((rewardFeed (some address) blocks).map fun r => (r.amount.toNat : Int)).sum =
      minted address blocks := by
    rw [minted, Nat.cast_list_sum, List.map_map]
    rfl
  rw [moves, List.sum_append, sum_moved, hminted, due, receivedTotal, sentTotal]
  omega

/-- A payment to oneself is booked as received alone. -/
theorem booked_eq (address : String) (t : Transaction) :
    booked address t = moved address t +
      if t.sender = address ∧ t.receiver = address then (t.amount.toNat : Int) else 0 := by
  by_cases hr : t.receiver = address <;> by_cases hs : t.sender = address <;>
    simp [booked, moved, hr, hs]

theorem sum_bookings (address : String) (blocks : List Block) :
    (bookings address blocks).sum = due address blocks + ownTotal address blocks := by
  have hbooked (ts : List Transaction) : (ts.map (booked address)).sum =
      (ts.map (moved address)).sum +
        amountsOf (fun t => t.sender = address ∧ t.receiver = address) ts := by
    induction ts with
    | nil => rfl
    | cons t ts ih =>
      rw [List.map_cons, List.sum_cons, List.map_cons, List.sum_cons, ih, booked_eq, amountsOf_cons]
      simp only [decide_eq_true_eq]
      split_ifs <;> push_cast <;> omega
  rw [bookings, List.sum_append, hbooked, ← sum_moves, moves, List.sum_append, ownTotal,
    Int.add_assoc]

theorem makesUp_nil (address : String) (start : Int) : MakesUp address start [] :=
  ⟨[], [], rfl, fun _ ht => (List.not_mem_nil ht).elim, .inl rfl⟩

/-- Another payment leaves the balance right unless it is one to oneself, and anything is made up for
by coming to the end of the machine word. -/
theorem makesUp_concat_iff {address : String} {start : Int} {ts : List Transaction}
    {t : Transaction} :
    MakesUp address start (ts ++ [t]) ↔
      (MakesUp address start ts ∧ ¬t.IsOwn address) ∨
        start + ((ts ++ [t]).map (moved address)).sum = 2 ^ 64 - 1 := by
  constructor
  · rintro ⟨before, after, hts, hafter, hbefore⟩
    rcases List.eq_nil_or_concat after with rfl | ⟨after, t', rfl⟩
    · rw [List.append_nil] at hts
      subst hts
      exact .inr (hbefore.resolve_left (by simp))
    · rw [List.concat_eq_append, ← List.append_assoc] at hts
      obtain ⟨rfl, ht⟩ := List.append_inj' hts rfl
      obtain rfl : t = t' := List.singleton_inj.mp ht
      refine .inl ⟨⟨before, after, rfl, fun u hu => hafter u ?_, hbefore⟩, hafter t ?_⟩
      · simp [hu]
      · simp
  · rintro (⟨⟨before, after, rfl, hafter, hbefore⟩, ht⟩ | hend)
    · refine ⟨before, after ++ [t], List.append_assoc .., fun u hu => ?_, hbefore⟩
      rcases List.mem_append.mp hu with hu | hu
      · exact hafter u hu
      · rwa [List.mem_singleton.mp hu]
    · exact ⟨ts ++ [t], [], (List.append_nil _).symm, fun _ hu => (List.not_mem_nil hu).elim,
        .inr hend⟩

/-- One payment, booked on a balance that is right or too high. -/
theorem settle_above {address : String} {x : Amount} {total : Int} {t : Transaction}
    (hx : total ≤ x.toNat) (h0 : 0 ≤ total) (hnow : 0 ≤ total + moved address t)
    (h1 : total + moved address t < 2 ^ 64) :
    total + moved address t ≤ (settle address x t).toNat ∧
      ((settle address x t).toNat : Int) ≤ x.toNat + moved address t +
        (if t.sender = address ∧ t.receiver = address then t.amount.toNat else 0 : Nat) ∧
      (((settle address x t).toNat : Int) = total + moved address t ↔
        ((x.toNat : Int) = total ∧ ¬t.IsOwn address) ∨ total + moved address t = 2 ^ 64 - 1) := by
  have hword : x.toNat < 2 ^ 64 := x.toNat_lt
  have hzero : t.amount = 0 ↔ t.amount.toNat = 0 := by
    rw [← UInt64.toNat_inj]
    rfl
  unfold Transaction.IsOwn
  rw [ne_eq, hzero]
  unfold moved at hnow h1 ⊢
  unfold settle
  by_cases hr : t.receiver = address <;> by_cases hs : t.sender = address <;>
    simp only [hr, hs, if_true, if_false, true_and, false_and, and_false, and_true,
      not_false_iff] at hnow h1 ⊢
  · rw [Amount.toNat_addCapped]
    omega
  · rw [Amount.toNat_addCapped]
    omega
  · rw [Amount.toNat_subFloored]
    omega
  · omega

/-- The payments, booked from a balance that is right. -/
theorem foldl_settle {address : String} (x : Amount) (ts : List Transaction)
    (h : ∀ past, past <+: ts.map (moved address) →
      0 ≤ (x.toNat : Int) + past.sum ∧ (x.toNat : Int) + past.sum < 2 ^ 64) :
    (x.toNat : Int) + (ts.map (moved address)).sum ≤ (ts.foldl (settle address) x).toNat ∧
      ((ts.foldl (settle address) x).toNat : Int) ≤ x.toNat + (ts.map (moved address)).sum +
        amountsOf (fun t => t.sender = address ∧ t.receiver = address) ts ∧
      (((ts.foldl (settle address) x).toNat : Int) = x.toNat + (ts.map (moved address)).sum ↔
        MakesUp address x.toNat ts) := by
  induction ts using List.reverseRecOn with
  | nil => simpa [amountsOf] using makesUp_nil address x.toNat
  | append_singleton ts t ih =>
    have hprefix : ts.map (moved address) <+: (ts ++ [t]).map (moved address) := by
      rw [List.map_append]
      exact List.prefix_append ..
    obtain ⟨hle, hge, heq⟩ := ih fun past hpast => h past (hpast.trans hprefix)
    have hbefore := h _ hprefix
    have hnow := h _ (List.prefix_refl _)
    have hsum : (x.toNat : Int) + ((ts ++ [t]).map (moved address)).sum =
        x.toNat + (ts.map (moved address)).sum + moved address t := by
      rw [List.map_append, List.sum_append, List.map_singleton, List.sum_singleton, Int.add_assoc]
    rw [makesUp_concat_iff, ← heq, hsum, List.foldl_append, amountsOf_concat]
    rw [hsum] at hnow
    obtain ⟨hle', hge', heq'⟩ := settle_above hle hbefore.1 hnow.1 hnow.2
    refine ⟨hle', ?_, heq'⟩
    simp only [decide_eq_true_eq, List.foldl_cons, List.foldl_nil]
    push_cast at hge' ⊢
    omega

/-- **The balance is rewards plus transfers in, minus transfers out, exactly if nothing is left of
the payments of the wallet to itself.** It is never too low, and at most by these payments too high;
it is too high by all of them as long as no total that is booked leaves the machine word either. -/
theorem balanceOf_eq_due_iff {address : String} {blocks : List Block}
    (h : StaysInWord (moves address blocks)) :
    (((balanceOf address blocks).toNat : Int) = due address blocks ↔
        MakesUp address (minted address blocks) (payments blocks)) ∧
      (due address blocks ≤ (balanceOf address blocks).toNat ∧
        ((balanceOf address blocks).toNat : Int) ≤
          due address blocks + ownTotal address blocks) ∧
      (StaysInWord (bookings address blocks) →
        ((balanceOf address blocks).toNat : Int) =
          due address blocks + ownTotal address blocks) := by
  have hrewards : ((rewardTotal address blocks).toNat : Int) = minted address blocks := by
    rw [toNat_rewardTotal h.of_append, minted, Nat.cast_list_sum, List.map_map]
    rfl
  have hpayments : ∀ past, past <+: (payments blocks).map (moved address) →
      0 ≤ ((rewardTotal address blocks).toNat : Int) + past.sum ∧
        ((rewardTotal address blocks).toNat : Int) + past.sum < 2 ^ 64 := by
    intro past hpast
    have hall := h _ ((List.prefix_append_right_inj _).mpr hpast)
    rwa [List.sum_append, ← toNat_rewardTotal h.of_append] at hall
  have hdue : ((rewardTotal address blocks).toNat : Int) +
      ((payments blocks).map (moved address)).sum = due address blocks := by
    rw [← sum_moves, moves, List.sum_append, toNat_rewardTotal h.of_append]
  obtain ⟨hle, hge, heq⟩ := foldl_settle (rewardTotal address blocks) (payments blocks) hpayments
  rw [hdue] at hle hge heq
  rw [hrewards] at heq
  refine ⟨heq, ⟨hle, hge⟩, fun hbookings => ?_⟩
  rw [toNat_balanceOf hbookings, sum_bookings]

/-- `A` makes a block, pays `B` and gets something back; only `B` pays itself. -/
theorem balanceOf_eq_due_iff_without_own :
    let pay (sender receiver : String) (amount : UInt64) : Transaction :=
      ⟨"", sender, receiver, amount, 0, ""⟩
    let blocks : List Block :=
      [⟨0, 0, "A", []⟩, ⟨1, 60, "B", [pay "A" "B" 70, pay "B" "B" 7, pay "B" "A" 30]⟩]
    StaysInWord (moves "A" blocks) ∧
      MakesUp "A" (minted "A" blocks) (payments blocks) ∧
      ((balanceOf "A" blocks).toNat : Int) = due "A" blocks := by
  intro pay blocks
  have hword : StaysInWord (moves "A" blocks) := by decide
  have hnone : ∀ t ∈ payments blocks, ¬t.IsOwn "A" := by
    intro t ht
    have : t.sender = "A" → t.receiver ≠ "A" := by
      revert t
      decide
    exact fun hown => this hown.1 hown.2.1
  have hup : MakesUp "A" (minted "A" blocks) (payments blocks) :=
    ⟨[], payments blocks, rfl, hnone, .inl rfl⟩
  exact ⟨hword, hup, (balanceOf_eq_due_iff hword).1.mpr hup⟩

/-- A payment of `A` to itself makes its balance too high. -/
theorem balanceOf_ne_due :
    let blocks : List Block := [⟨0, 0, "A", []⟩, ⟨1, 60, "B", [⟨"t", "A", "A", 5, 60, ""⟩]⟩]
    StaysInWord (moves "A" blocks) ∧ due "A" blocks = 500000000000000 ∧
      (balanceOf "A" blocks).toNat = 500000000000005 := by
  decide

end WalletDashboard
