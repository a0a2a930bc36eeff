import WalletDashboard.Proofs.Refreshed

/-!
# The books of the service in memory

What the service in memory has on its books, whatever is done to it and whatever a dashboard at work
on it does. A balance on the books need not be that after the whole chain, but it was right after
some part of it (`OnceOwned`), and a dashboard shows such a balance too, though it may be an older
one.

* `Sound` is what holds of the books at any time, and `After` what the books of a later time owe to
  those of an earlier one: the chain goes on, no wallet gets lost and the block height does not
  fall.
* `Effect.sound` and `Effect.after` say so of a call of the service, `sound_change` and
  `after_change` of any change from elsewhere, and `books_reached` of every run.
-/

namespace WalletDashboard

/-- What `address` owned after some first part of `blocks`. -/
def OnceOwned (address : String) (balance : Amount) (blocks : List Block) : Prop :=
  ∃ past, past <+: blocks ∧ balance = balanceOf address past

namespace OnceOwned

variable {address : String} {balance : Amount} {blocks blocks' : List Block}

theorem zero : OnceOwned address 0 blocks := ⟨[], List.nil_prefix, rfl⟩

theorem now : OnceOwned address (balanceOf address blocks) blocks := ⟨blocks, List.prefix_rfl, rfl⟩

theorem mono (h : OnceOwned address balance blocks) (hb : blocks <+: blocks') :
    OnceOwned address balance blocks' := by
  obtain ⟨past, hpast, rfl⟩ := h
  exact ⟨past, hpast.trans hb, rfl⟩

end OnceOwned

namespace MemoryState

variable {mint : Nat → WalletExport} {window : Nat} {m m' m'' : MemoryState}

/-! ### The books at any time -/

/-- What holds of the books at any time. The block height is bounded as long as there are not more
blocks than numbers for them. -/
structure Sound (m : MemoryState) : Prop where
  numbered : Numbered m.blocks
  activeKnown : m.ActiveKnown
  balances : ∀ a w, (a, w) ∈ m.wallets → OnceOwned a w.balance m.blocks
  height_le : m.blocks.length ≤ 2 ^ 64 → m.blockHeight ≤ m.lastIndex

theorem sound_new : Sound {} where
  numbered := by rintro i b ⟨⟩
  activeKnown := by rintro a ⟨⟩
  balances := by rintro a w ⟨⟩
  height_le _ := UInt64.le_refl 0

/-- Registering a wallet adds no entry but its own. -/
theorem mem_register {address : String} {stored : StoredWallet} {e : String × StoredWallet}
    {wallets : List (String × StoredWallet)} (h : e ∈ register address stored wallets) :
    e = (address, stored) ∨ e ∈ wallets := by
  induction wallets with
  | nil => exact .inl (List.mem_singleton.mp h)
  | cons entry rest ih =>
    unfold register at h
    split at h
    · rcases List.mem_cons.mp h with rfl | h
      · exact .inl rfl
      · exact .inr (List.mem_cons_of_mem _ h)
    · rcases List.mem_cons.mp h with rfl | h
      · exact .inr List.mem_cons_self
      · exact (ih h).imp_right (List.mem_cons_of_mem _)

theorem mem_of_stored? {a : String} {w : StoredWallet} (h : m.stored? a = some w) :
    (a, w) ∈ m.wallets := by
  obtain ⟨before, after, hw, -⟩ := List.lookup_eq_some_iff.mp h
  rw [hw]
  exact List.mem_append_right _ List.mem_cons_self

/-- The books stay sound if an entry with a balance that once was right is put in. -/
theorem Sound.register (h : m.Sound) {address : String} {stored : StoredWallet}
    (hs : OnceOwned address stored.balance m.blocks) :
    ∀ a w, (a, w) ∈ register address stored m.wallets → OnceOwned a w.balance m.blocks := by
  intro a w hw
  rcases mem_register hw with heq | hw
  · cases heq
    exact hs
  · exact h.balances a w hw

/-- What the service answers for the wallet is a balance that once was right. -/
theorem Sound.getWallet (h : m.Sound) {w : Wallet}
    (hw : (getWallet m).outcome = .ok (some w)) : OnceOwned w.address w.balance m.blocks := by
  simp only [MemoryState.getWallet, Reply.answer, Except.ok.injEq, Option.bind_eq_some_iff,
    Option.map_eq_some_iff] at hw
  obtain ⟨a, -, stored, hs, rfl⟩ := hw
  exact h.balances a stored (mem_of_stored? hs)

/-- The service has a wallet to answer exactly for the address whose session is open. -/
theorem Sound.active_iff (h : m.Sound) (a : String) :
    m.active = some a ↔
      ∃ balance, (MemoryState.getWallet m).outcome = .ok (some ⟨a, balance⟩) := by
  simp only [MemoryState.getWallet, Reply.answer, Except.ok.injEq, Option.bind_eq_some_iff,
    Option.map_eq_some_iff]
  constructor
  · intro ha
    obtain ⟨stored, hs⟩ := Option.isSome_iff_exists.mp (h.activeKnown a ha)
    exact ⟨stored.balance, a, ha, stored, hs, rfl⟩
  · rintro ⟨balance, a', ha, stored, -, heq⟩
    cases heq
    exact ha

/-! ### The books of a later time -/

/-- On a chain that goes on the last number does not fall. -/
theorem lastIndex_le_lastIndex (hb : m.blocks <+: m'.blocks) (hn : Numbered m'.blocks)
    (hlen : m'.blocks.length ≤ 2 ^ 64) : m.lastIndex ≤ m'.lastIndex := by
  cases hl : m.blocks.getLast? with
  | none =>
    have h0 : m.lastIndex = 0 := by simp [lastIndex, hl]
    rw [h0]
    exact UInt64.zero_le
  | some b =>
    have hi : m.lastIndex = b.index := by simp [lastIndex, hl]
    rw [hi]
    exact index_le_lastIndex hn hlen (hb.subset (List.mem_of_getLast? hl))

/-- The books of `m'` go on from those of `m`. -/
structure After (m m' : MemoryState) : Prop where
  blocks : m.blocks <+: m'.blocks
  known : ∀ a, (m.stored? a).isSome → (m'.stored? a).isSome
  height_le : m'.blocks.length ≤ 2 ^ 64 → m.blockHeight ≤ m'.blockHeight

theorem After.refl (m : MemoryState) : After m m where
  blocks := List.prefix_rfl
  known _ h := h
  height_le _ := UInt64.le_refl _

theorem After.trans (h : After m m') (h' : After m' m'') : After m m'' where
  blocks := h.blocks.trans h'.blocks
  known a ha := h'.known a (h.known a ha)
  height_le hlen :=
    UInt64.le_trans (h.height_le (Nat.le_trans h'.blocks.length_le hlen)) (h'.height_le hlen)

/-! ### What keeps the books -/

theorem Effect.sound (he : Effect mint m m') (h : m.Sound) : m'.Sound := by
  have hactive := he.activeKnown h.activeKnown
  cases he with
  | nothing => exact h
  | drawn | opened | closed => exact ⟨h.numbered, hactive, h.balances, h.height_le⟩
  | created => exact ⟨h.numbered, hactive, h.register .zero, h.height_le⟩
  | balanced => exact ⟨h.numbered, hactive, h.register .now, h.height_le⟩
  | measured => exact ⟨h.numbered, hactive, h.balances, fun _ => UInt64.le_refl _⟩

theorem Effect.after (he : Effect mint m m') (h : m.Sound) : After m m' := by
  cases he with
  | nothing | drawn | opened | closed =>
    exact ⟨List.prefix_rfl, fun _ ha => ha, fun _ => UInt64.le_refl _⟩
  | created | balanced =>
    exact ⟨List.prefix_rfl, fun _ ha => isSome_lookup_register _ ha, fun _ => UInt64.le_refl _⟩
  | measured => exact ⟨List.prefix_rfl, fun _ ha => ha, h.height_le⟩

theorem sound_mine (author : String) (transactions : List Transaction) (timestamp : UInt64)
    (h : m.Sound) : (m.mine author transactions timestamp).Sound := by
  have hb : m.blocks <+: (m.mine author transactions timestamp).blocks := List.prefix_append _ _
  have hn : Numbered (m.mine author transactions timestamp).blocks :=
    h.numbered.append_one (nextIndex_of_numbered h.numbered)
  refine ⟨hn, h.activeKnown, fun a w hw => (h.balances a w hw).mono hb, fun hlen => ?_⟩
  calc m.blockHeight
    _ ≤ m.lastIndex := h.height_le (Nat.le_trans hb.length_le hlen)
    _ ≤ (m.mine author transactions timestamp).lastIndex := lastIndex_le_lastIndex hb hn hlen

theorem sound_change (k : Change) (h : m.Sound) : (change mint window k m).Sound := by
  cases k with
  | call c => exact (effect_call c m).sound h
  | command c =>
    have hactive : (change mint window (.command c) m).ActiveKnown :=
      activeKnown_change _ h.activeKnown
    cases c with
    | addWallet e => exact ⟨h.numbered, hactive, h.register .zero, h.height_le⟩
    | mine author transactions timestamp => exact sound_mine author transactions timestamp h
    | setOffline | failWalletRefresh | failBlockHeight | failLogout =>
      exact ⟨h.numbered, hactive, h.balances, h.height_le⟩

theorem after_change (k : Change) (h : m.Sound) : After m (change mint window k m) := by
  cases k with
  | call c => exact (effect_call c m).after h
  | command c =>
    cases c with
    | addWallet e =>
      exact ⟨List.prefix_rfl, fun _ ha => isSome_lookup_register _ ha, fun _ => UInt64.le_refl _⟩
    | mine => exact ⟨List.prefix_append _ _, fun _ ha => ha, fun _ => UInt64.le_refl _⟩
    | setOffline | failWalletRefresh | failBlockHeight | failLogout =>
      exact ⟨List.prefix_rfl, fun _ ha => ha, fun _ => UInt64.le_refl _⟩

/-! ### What a dashboard shows of the books -/

/-- The books are sound and go on from those of `m₀`, and the balance on the screen is one that once
was right. -/
structure Follows (m₀ : MemoryState) (x : Dashboard × MemoryState) : Prop where
  sound : x.2.Sound
  after : After m₀ x.2
  shown : ∀ w, x.1.mode = .active w → OnceOwned w.address w.balance x.2.blocks

theorem Follows.move {m₀ : MemoryState} {x y : Dashboard × MemoryState}
    (hm : Move (service mint window) x y) (h : Follows m₀ x) : Follows m₀ y := by
  obtain ⟨hsound, hafter⟩ : y.2.Sound ∧ After x.2 y.2 :=
    hm.keeps_service (Q := fun m => m.Sound ∧ After x.2 m)
      (fun c m hc => ⟨(effect_call c m).sound hc.1, hc.2.trans ((effect_call c m).after hc.1)⟩)
      ⟨h.sound, .refl _⟩
  refine ⟨hsound, h.after.trans hafter, fun w hw => ?_⟩
  -- The balance was on the screen before, or the service has just answered it.
  have hshown : OnceOwned w.address w.balance x.2.blocks := by
    cases hm with
    | showWallet d m wallet hwallet =>
      cases wallet with
      | none => cases hw
      | some w' =>
        cases hw
        exact h.sound.getWallet hwallet
    | showSecrets => cases hw
    | call | loadBlocks | clearBlocks | noteHeight | settle | switch | nextPage | previousPage
    | jumpToPage => exact h.shown w hw
  exact hshown.mono hafter.blocks

theorem Follows.affect {m₀ : MemoryState} (k : Change) {d : Dashboard} {m : MemoryState}
    (h : Follows m₀ (d, m)) : Follows m₀ (d, change mint window k m) where
  sound := sound_change k h.sound
  after := h.after.trans (after_change k h.sound)
  shown w hw := (h.shown w hw).mono (after_change k h.sound).blocks

theorem Follows.run {m₀ : MemoryState} {s : Session MemoryState} (h : Follows m₀ s.core)
    (events : List (Event Change)) :
    Follows m₀ (s.run (service mint window) (change mint window) events).core :=
  Session.run_keeps_core (service mint window) (change mint window) (fun _ _ hm => Follows.move hm)
    (fun k _ _ => Follows.affect k) h events

/-- **The books are sound at any time, and nothing that was on them gets lost.** The session is
looked at after some events, and again after some `later` ones. The block height is bounded as long
as there are not more blocks than numbers for them. -/
theorem books_reached (mint : Nat → WalletExport) (window : Nat) (size : PageSize)
    (events later : List (Event Change)) :
    let s := reached mint window size events
    let m := s.service
    let m' := (reached mint window size (events ++ later)).service
    (∀ i b, m.blocks[i]? = some b → b.index = UInt64.ofNat i) ∧
    (∀ a, m.active = some a → (m.stored? a).isSome) ∧
    (∀ a, m.active = some a ↔ ∃ balance, (getWallet m).outcome = .ok (some ⟨a, balance⟩)) ∧
    (∀ a, (m.stored? a).isSome → (m'.stored? a).isSome) ∧
    (m.blocks.length ≤ 2 ^ 64 → m.blockHeight ≤ (m.blocks.getLast?.map (·.index)).getD 0) ∧
    (m'.blocks.length ≤ 2 ^ 64 → m.blockHeight ≤ m'.blockHeight) ∧
    (∀ a w, (a, w) ∈ m.wallets → ∃ past, past <+: m.blocks ∧ w.balance = balanceOf a past) ∧
    (∀ w, s.dashboard.mode = .active w →
      ∃ past, past <+: m.blocks ∧ w.balance = balanceOf w.address past) := by
  intro s m m'
  have hs : Follows {} s.core :=
    Follows.run (s := Session.start size {}) ⟨sound_new, .refl _, by rintro w ⟨⟩⟩ events
  -- Seen from here on, the later books go on from the present ones.
  have hafter : After m m' := by
    have hl : Follows m (s.run (service mint window) (change mint window) later).core :=
      Follows.run ⟨hs.sound, .refl _, hs.shown⟩ later
    have hr : reached mint window size (events ++ later) =
        s.run (service mint window) (change mint window) later := Session.run_append ..
    show After m (reached mint window size (events ++ later)).service
    rw [hr]
    exact hl.after
  exact ⟨hs.sound.numbered, hs.sound.activeKnown, hs.sound.active_iff, hafter.known,
    hs.sound.height_le, hafter.height_le, hs.sound.balances, hs.shown⟩

end MemoryState

end WalletDashboard
