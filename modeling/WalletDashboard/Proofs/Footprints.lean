import Mathlib.Data.List.Forall2
import WalletDashboard.Proofs.MemoryRuns

/-!
# What a call of the service in memory leaves alone

Every call has a small part of the state that it may write to, and it writes there only if it
succeeds.

* `MemoryState.Rebalanced`: nothing but the balance of one wallet is written.
* `MemoryState.Footprint` says for every kind of call what a successful one writes; whatever it
  does not mention stays as it was.
* `MemoryState.Framed` puts it beside what a refused call does, which is nothing. How often secrets
  were drawn (`MemoryState.draws`) belongs to where they come from, and is left out of that.

`MemoryState.framed_call` is the frame rule for all calls.
-/

namespace WalletDashboard

namespace MemoryState

/-- The entry `y` is the entry `x`, but for its balance if it is the one of `address`. -/
def SameEntry (address : String) (x y : String × StoredWallet) : Prop :=
  y = (x.1, { x.2 with balance := y.2.balance }) ∧ (y = x ∨ x.1 = address)

/-- Nothing but the balance of the wallet at `address` is written, and it is the one that the chain
gives. -/
structure Rebalanced (address : String) (m m' : MemoryState) : Prop where
  rest : m' = { m with wallets := m'.wallets }
  entries : List.Forall₂ (SameEntry address) m.wallets m'.wallets
  balance : m'.stored? address =
    (m.stored? address).map ({ · with balance := balanceOf address m.blocks })

/-- What a successful call writes, and that it writes nothing else. -/
def Footprint (mint : Nat → WalletExport) (m m' : MemoryState) : ServiceCall → Prop
  | .getWallet | .recentBlocks => m' = m
  | .createWallet =>
    let fresh := mint m.draws
    m.stored? fresh.address = none ∧
      m' =
        { m with
          wallets := m.wallets ++ [(fresh.address, ⟨fresh.privateKey, fresh.mnemonic, 0⟩)]
          active := some fresh.address
          draws := m.draws + 1 }
  | .importWallet key =>
    ∃ address w, (address, w) ∈ m.wallets ∧ w.matches (phraseOf key) = true ∧
      m' = { m with active := some address }
  | .refreshWallet => ∃ address, m.active = some address ∧ Rebalanced address m m'
  | .refreshBlockHeight => m' = { m with blockHeight := m.lastIndex }
  | .logout => m' = { m with active := none }

/-- A reply to the call `c` in the state `m` that has the footprint of the call, or none if the call
was refused. -/
def Framed {α : Type} (mint : Nat → WalletExport) (m : MemoryState) (c : ServiceCall)
    (r : Reply MemoryState α) : Prop :=
  match r.outcome with
  | .ok _ => Footprint mint m r.state c
  | .error _ => r.state = { m with draws := r.state.draws }

variable {α β : Type} {mint : Nat → WalletExport} {window : Nat} {m : MemoryState} {c : ServiceCall}

/-! ### Replies -/

theorem framed_refuse (failure : Failure) :
    Framed mint m c (.refuse failure m : Reply MemoryState α) :=
  rfl

theorem framed_answer (value : α) {m' : MemoryState} (h : Footprint mint m m' c) :
    Framed mint m c (.answer value m') :=
  h

theorem Framed.wrap {r : Reply MemoryState α} (h : Framed mint m c r) (f : α → ServiceAnswer) :
    Framed mint m c (r.wrap f) := by
  obtain ⟨outcome, state, log⟩ := r
  cases outcome <;> exact h

/-! ### Registered wallets -/

/-- A wallet with a new address is put behind the others. -/
theorem register_of_lookup_eq_none {address : String} (stored : StoredWallet)
    {wallets : List (String × StoredWallet)} (h : wallets.lookup address = none) :
    register address stored wallets = wallets ++ [(address, stored)] := by
  induction wallets with
  | nil => rfl
  | cons entry rest ih =>
    obtain ⟨a, w⟩ := entry
    rw [Json.lookup_cons_eq_ite] at h
    by_cases ha : address = a
    · rw [if_pos ha] at h
      cases h
    · rw [if_neg ha] at h
      rw [register, if_neg (Ne.symm ha), ih h, List.cons_append]

theorem SameEntry.refl (address : String) (x : String × StoredWallet) : SameEntry address x x :=
  ⟨rfl, .inl rfl⟩

/-- Registering a wallet once more, with another balance, changes the balance of its entry only. -/
theorem sameEntry_register {address : String} {w : StoredWallet} (balance : UInt64)
    {wallets : List (String × StoredWallet)} (h : wallets.lookup address = some w) :
    List.Forall₂ (SameEntry address) wallets
      (register address { w with balance } wallets) := by
  induction wallets with
  | nil => cases h
  | cons entry rest ih =>
    obtain ⟨a, v⟩ := entry
    rw [Json.lookup_cons_eq_ite] at h
    by_cases ha : address = a
    · rw [if_pos ha] at h
      cases h
      rw [register, if_pos ha.symm, ha]
      refine .cons ⟨rfl, .inr rfl⟩ ?_
      exact List.forall₂_same.mpr fun x _ => SameEntry.refl a x
    · rw [if_neg ha] at h
      rw [register, if_neg (Ne.symm ha)]
      exact .cons (SameEntry.refl address _) (ih h)

/-! ### The calls -/

theorem framed_createWallet : Framed mint m .createWallet (createWallet mint m) := by
  unfold createWallet
  simp only
  split
  · rfl
  · next h =>
    have hfree : m.stored? (mint m.draws).address = none := Option.not_isSome_iff_eq_none.mp h
    refine ⟨hfree, ?_⟩
    rw [← register_of_lookup_eq_none _ hfree]

theorem framed_importWallet (key : String) :
    Framed mint m (.importWallet key) (importWallet key m) := by
  unfold importWallet
  split
  · exact framed_refuse _
  · next address w hfind =>
    have hmatches := List.find?_some hfind
    exact ⟨address, w, List.mem_of_find?_eq_some hfind, hmatches, rfl⟩

theorem rebalanced_of_stored?_eq_none {address : String} (h : m.stored? address = none) :
    Rebalanced address m m where
  rest := rfl
  entries := List.forall₂_same.mpr fun x _ => SameEntry.refl address x
  balance := by rw [h, Option.map_none]

theorem rebalanced_register {address : String} {w : StoredWallet}
    (h : m.stored? address = some w) :
    Rebalanced address m
      { m with
        wallets := register address { w with balance := balanceOf address m.blocks } m.wallets } where
  rest := rfl
  entries := sameEntry_register _ h
  balance := by
    rw [h, Option.map_some]
    exact (lookup_register address address _ m.wallets).trans (if_pos rfl)

theorem framed_refreshWallet : Framed mint m .refreshWallet (refreshWallet m) := by
  unfold refreshWallet
  split
  · exact framed_refuse _
  · split
    · exact framed_refuse _
    · split
      · exact framed_refuse _
      · next address ha =>
        split
        · next hw => exact framed_answer () ⟨address, ha, rebalanced_of_stored?_eq_none hw⟩
        · next w hw => exact framed_answer () ⟨address, ha, rebalanced_register hw⟩

theorem framed_refreshBlockHeight :
    Framed mint m .refreshBlockHeight (refreshBlockHeight m) := by
  unfold refreshBlockHeight
  split
  · exact framed_refuse _
  · split
    · exact framed_refuse _
    · exact framed_answer _ rfl

theorem framed_logout : Framed mint m .logout (logout m) := by
  unfold logout
  split
  · exact framed_refuse _
  · rfl

theorem framed_recentBlocks : Framed mint m .recentBlocks (recentBlocks window m) := by
  unfold recentBlocks
  split
  · exact framed_refuse _
  · exact framed_answer _ rfl

/-- **The frame rule.** A call that is refused leaves the whole state as it was, and a successful
one changes its own part only. -/
theorem framed_call (mint : Nat → WalletExport) (window : Nat) (m : MemoryState)
    (c : ServiceCall) : Framed mint m c ((service mint window).call c m) := by
  cases c with
  | getWallet => exact (framed_answer (c := .getWallet) _ rfl).wrap _
  | createWallet => exact framed_createWallet.wrap _
  | importWallet key => exact (framed_importWallet key).wrap _
  | refreshWallet => exact framed_refreshWallet.wrap _
  | refreshBlockHeight => exact framed_refreshBlockHeight.wrap _
  | logout => exact framed_logout.wrap _
  | recentBlocks => exact framed_recentBlocks.wrap _

end MemoryState

end WalletDashboard
