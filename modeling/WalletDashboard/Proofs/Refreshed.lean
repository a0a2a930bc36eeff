import WalletDashboard.Proofs.MemoryRuns

/-!
# What a refresh over the service in memory shows

A refresh in the view of a wallet has the balance and the block height computed anew and then loads
the view. Over the service in memory it goes through exactly if the service is online, neither of
the two computations is made to fail, and a wallet is active. Then the dashboard shows the active
wallet, whichever was shown before, with its balance after the whole chain, over the feed of the
recent blocks (`refresh_reached`).
-/

namespace WalletDashboard

namespace MemoryState

variable {mint : Nat → WalletExport} {window : Nat} {m : MemoryState}

theorem outcome_refreshWallet_eq_ok_iff :
    (refreshWallet m).outcome = .ok () ↔
      m.offline = false ∧ m.failWalletRefresh = false ∧ m.active.isSome := by
  unfold refreshWallet
  split
  · next h => simp [Reply.refuse, h]
  · next ho =>
    split
    · next h => simp [Reply.refuse, h]
    · next hf =>
      split
      · next h => simp [Reply.refuse, h]
      · next address h =>
        split <;> simp [Reply.answer, h, ho, hf]

theorem outcome_refreshBlockHeight_eq_ok_iff {height : UInt64} :
    (refreshBlockHeight m).outcome = .ok height ↔
      m.offline = false ∧ m.failBlockHeight = false ∧ m.lastIndex = height := by
  unfold refreshBlockHeight
  split
  · next h => simp [Reply.refuse, h]
  · next ho =>
    split
    · next h => simp [Reply.refuse, h]
    · next hf => simp [Reply.answer, ho, hf]

theorem state_refreshWallet_of_known {address : String} {w : StoredWallet}
    (ho : m.offline = false) (hf : m.failWalletRefresh = false) (ha : m.active = some address)
    (hw : m.stored? address = some w) :
    (refreshWallet m).state =
      { m with
        wallets :=
          register address { w with balance := balanceOf address m.blocks } m.wallets } := by
  simp only [refreshWallet, ho, hf, ha, hw, Bool.false_eq_true, if_false, Reply.answer]

theorem state_refreshBlockHeight_of_ok (ho : m.offline = false) (hf : m.failBlockHeight = false) :
    (refreshBlockHeight m).state = { m with blockHeight := m.lastIndex } := by
  simp only [refreshBlockHeight, ho, hf, Bool.false_eq_true, if_false, Reply.answer]

theorem outcome_recentBlocks_of_online (ho : m.offline = false) :
    (recentBlocks window m).outcome = .ok (m.blocks.drop (m.blocks.length - window)) := by
  simp only [recentBlocks, ho, Bool.false_eq_true, if_false, Reply.answer]

/-- What a refresh needs: the service is online, neither computation is made to fail, and a wallet
is active. -/
structure Ready (m : MemoryState) : Prop where
  online : m.offline = false
  balance : m.failWalletRefresh = false
  height : m.failBlockHeight = false
  active : m.active.isSome

section Refresh

variable (mint window) {s : Session MemoryState} {w₀ : Wallet}

theorem ready_of_refresh (hknown : s.service.ActiveKnown) (hm : s.dashboard.mode = .active w₀)
    (h : (s.refresh (service mint window)).1 = true) : s.service.Ready := by
  cases hb : (s.refreshBoth (service mint window)).1 with
  | error e =>
    rw [Session.refresh_of_error hm hb] at h
    cases h
  | ok height =>
    obtain ⟨hw, hh⟩ := Session.fst_refreshBoth_eq_ok_iff.mp hb
    obtain ⟨ho, hf, hactive⟩ := outcome_refreshWallet_eq_ok_iff.mp hw
    obtain ⟨address, ha⟩ := Option.isSome_iff_exists.mp hactive
    obtain ⟨w, hs⟩ := Option.isSome_iff_exists.mp (hknown address ha)
    obtain ⟨-, hfail, -⟩ := outcome_refreshBlockHeight_eq_ok_iff.mp hh
    -- The height is looked up after the balance was registered, which moves no switch.
    have hstate : ((service mint window).refreshWallet s.service).state = _ :=
      state_refreshWallet_of_known ho hf ha hs
    rw [hstate] at hfail
    exact ⟨ho, hf, hfail, hactive⟩

/-- A refresh that has what it needs shows the active wallet with its new balance, over the recent
blocks. -/
theorem refresh_of_ready (hknown : s.service.ActiveKnown) (hm : s.dashboard.mode = .active w₀)
    (hr : s.service.Ready) {address : String} (ha : s.service.active = some address) :
    let blocks := s.service.blocks
    (s.refresh (service mint window)).1 = true ∧
      (s.refresh (service mint window)).2.dashboard =
        (({ s.dashboard with
          refreshing := false, blockHeight := some s.service.lastIndex }).turnTo
            (.active ⟨address, balanceOf address blocks⟩)).setBlocks
              (blocks.drop (blocks.length - window)) := by
  intro blocks
  obtain ⟨w, hs⟩ := Option.isSome_iff_exists.mp (hknown address ha)
  -- The states after the balance was computed, and after the height was.
  let m₁ : MemoryState :=
    { s.service with
      wallets := register address { w with balance := balanceOf address blocks } s.service.wallets }
  let m₂ : MemoryState := { m₁ with blockHeight := m₁.lastIndex }
  have hm₁ : (refreshWallet s.service).state = m₁ :=
    state_refreshWallet_of_known hr.online hr.balance ha hs
  have hm₂ : (refreshBlockHeight m₁).state = m₂ :=
    state_refreshBlockHeight_of_ok hr.online hr.height
  have hboth : (s.refreshBoth (service mint window)).1 = .ok s.service.lastIndex := by
    rw [Session.fst_refreshBoth_eq_ok_iff]
    refine ⟨outcome_refreshWallet_eq_ok_iff.mpr ⟨hr.online, hr.balance, hr.active⟩, ?_⟩
    show (refreshBlockHeight (refreshWallet s.service).state).outcome = _
    rw [hm₁]
    exact outcome_refreshBlockHeight_eq_ok_iff.mpr ⟨hr.online, hr.height, rfl⟩
  have hservice : (s.refreshBoth (service mint window)).2.service = m₂ := by
    rw [Session.service_refreshBoth]
    show (refreshBlockHeight (refreshWallet s.service).state).state = m₂
    rw [hm₁, hm₂]
  have hwallet : (getWallet m₂).outcome = .ok (some ⟨address, balanceOf address blocks⟩) := by
    have hstored : m₂.stored? address = some { w with balance := balanceOf address blocks } := by
      show List.lookup address (register address _ s.service.wallets) = _
      rw [lookup_register, if_pos rfl]
    simp only [getWallet, Reply.answer]
    rw [show m₂.active = some address from ha, Option.bind_some, hstored]
    rfl
  have hblocks : (recentBlocks window m₂).outcome =
      .ok (blocks.drop (blocks.length - window)) := outcome_recentBlocks_of_online hr.online
  rw [Session.refresh_of_ok hm hboth]
  let s₁ := (s.refreshBoth (service mint window)).2.onDashboard
    ({ · with blockHeight := some s.service.lastIndex })
  have hw : ((service mint window).getWallet s₁.service).outcome =
      .ok (some ⟨address, balanceOf address blocks⟩) := by
    rwa [Session.service_onDashboard, hservice]
  have hb : ((service mint window).recentBlocks
      ((service mint window).getWallet s₁.service).state).outcome =
        .ok (blocks.drop (blocks.length - window)) := by
    rwa [Session.service_onDashboard, hservice]
  have hload := Session.load_of_wallet hw hb
  rwa [Session.dashboard_onDashboard, Session.dashboard_refreshBoth] at hload

end Refresh

/-! ### The numbers in the feed -/

/-- Every reward in a feed belongs to one of the blocks. -/
theorem exists_block_of_mem_rewardFeed {address : String} {blocks : List Block} {r : RewardEvent}
    (h : r ∈ rewardFeed (some address) blocks) : ∃ b ∈ blocks, r.blockIndex = b.index := by
  obtain ⟨b, hb, hr⟩ := List.mem_flatMap.mp h
  refine ⟨b, hb, ?_⟩
  unfold blockRewards at hr
  split at hr
  · split at hr
    · rw [List.mem_singleton.mp hr]
      rfl
    · cases hr
  · obtain ⟨t, -, rfl⟩ := List.mem_map.mp hr
    rfl

/-- No block of a numbered chain has a greater number than the last, as long as the numbers do not
begin anew. -/
theorem index_le_lastIndex (hn : Numbered m.blocks) (hlen : m.blocks.length ≤ 2 ^ 64) {b : Block}
    (hb : b ∈ m.blocks) : b.index ≤ m.lastIndex := by
  obtain ⟨i, hi⟩ := List.mem_iff_getElem?.mp hb
  have hlt : i < m.blocks.length := (List.getElem?_eq_some_iff.mp hi).1
  obtain ⟨last, hlast⟩ : ∃ last, m.blocks[m.blocks.length - 1]? = some last :=
    ⟨_, List.getElem?_eq_getElem (by omega)⟩
  have hl : m.lastIndex = last.index := by
    rw [lastIndex, List.getLast?_eq_getElem?, hlast]
    rfl
  rw [hl, hn i b hi, hn _ last hlast, UInt64.le_iff_toNat_le, UInt64.toNat_ofNat',
    UInt64.toNat_ofNat', Nat.mod_eq_of_lt (by omega), Nat.mod_eq_of_lt (by omega)]
  omega

/-- **A refresh in the view of a wallet goes through exactly if the service is online, lets the
balance and the height be computed, and has an active wallet; then the view is up to date.** The
balance is that after all the blocks ever mined, and the feed that of the last `window` of them. The
numbers in the feed are bounded by the block height as long as there are not more blocks than
numbers for them. -/
theorem refresh_reached (mint : Nat → WalletExport) (window : Nat) (size : PageSize)
    (events : List (Event Change)) {w₀ : Wallet}
    (hm : (reached mint window size events).dashboard.mode = .active w₀) :
    let s := reached mint window size events
    let r := s.refresh (service mint window)
    let chain := minedBlocks events
    (r.1 = true ↔
      s.service.offline = false ∧ s.service.failWalletRefresh = false ∧
        s.service.failBlockHeight = false ∧ s.service.active.isSome) ∧
    (r.1 = true →
      ∃ w height, r.2.dashboard.mode = .active w ∧ s.service.active = some w.address ∧
        w.balance = balanceOf w.address chain ∧
        r.2.dashboard.blockHeight = some height ∧
        height = (chain.getLast?.map (·.index)).getD 0 ∧
        r.2.dashboard.rewards =
          rewardFeed (some w.address) (chain.drop (chain.length - window)) ∧
        (chain.length ≤ 2 ^ 64 → ∀ e ∈ r.2.dashboard.rewards, e.blockIndex ≤ height)) := by
  intro s r chain
  have hknown : s.service.ActiveKnown := activeKnown_reached size events
  obtain ⟨hblocks, hn⟩ : s.service.blocks = chain ∧ Numbered chain :=
    blocks_reached mint window size events
  constructor
  · constructor
    · intro h
      obtain ⟨ho, hf, hb, ha⟩ := ready_of_refresh mint window hknown hm h
      exact ⟨ho, hf, hb, ha⟩
    · rintro ⟨ho, hf, hb, hactive⟩
      obtain ⟨address, ha⟩ := Option.isSome_iff_exists.mp hactive
      exact (refresh_of_ready mint window hknown hm ⟨ho, hf, hb, hactive⟩ ha).1
  · intro h
    have hready := ready_of_refresh mint window hknown hm h
    obtain ⟨address, ha⟩ := Option.isSome_iff_exists.mp hready.active
    obtain ⟨-, hd⟩ := refresh_of_ready mint window hknown hm hready ha
    have hrewards : r.2.dashboard.rewards =
        rewardFeed (some address) (chain.drop (chain.length - window)) := by
      rw [show r.2.dashboard = _ from hd, ← hblocks]
      rfl
    refine ⟨⟨address, balanceOf address chain⟩, s.service.lastIndex, ?_, ha, rfl, ?_, ?_, hrewards,
      fun hlen e he => ?_⟩
    · rw [show r.2.dashboard = _ from hd, ← hblocks]
      rfl
    · rw [show r.2.dashboard = _ from hd]
      rfl
    · rw [← hblocks]
      rfl
    · rw [hrewards] at he
      obtain ⟨b, hb, hindex⟩ := exists_block_of_mem_rewardFeed he
      rw [hindex]
      rw [← hblocks] at hb hn hlen
      exact index_le_lastIndex hn hlen (List.mem_of_mem_drop hb)

/-- A wallet that was made and acknowledged, on a chain of one block. -/
theorem refresh_reached_after_mining :
    let mint : Nat → WalletExport := fun _ => ⟨"A", "aa", "acid"⟩
    let events : List (Event Change) :=
      [.act .createWallet, .act .acknowledgeExport, .outside (.command (.mine "A" [] 7))]
    let s := reached mint 50 ⟨6, by decide⟩ events
    let r := s.refresh (service mint 50)
    let chain := minedBlocks events
    s.dashboard.mode = .active ⟨"A", 0⟩ ∧ r.1 = true ∧
    (r.1 = true ↔
      s.service.offline = false ∧ s.service.failWalletRefresh = false ∧
        s.service.failBlockHeight = false ∧ s.service.active.isSome) ∧
    (r.1 = true →
      ∃ w height, r.2.dashboard.mode = .active w ∧ s.service.active = some w.address ∧
        w.balance = balanceOf w.address chain ∧
        r.2.dashboard.blockHeight = some height ∧
        height = (chain.getLast?.map (·.index)).getD 0 ∧
        r.2.dashboard.rewards =
          rewardFeed (some w.address) (chain.drop (chain.length - 50)) ∧
        (chain.length ≤ 2 ^ 64 → ∀ e ∈ r.2.dashboard.rewards, e.blockIndex ≤ height)) := by
  intro mint events s r chain
  have hm : s.dashboard.mode = .active ⟨"A", 0⟩ := by decide
  have hr : r.1 = true := by decide
  exact ⟨hm, hr, refresh_reached mint 50 ⟨6, by decide⟩ events hm⟩

end MemoryState

end WalletDashboard
