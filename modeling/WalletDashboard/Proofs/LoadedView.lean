import WalletDashboard.Proofs.FailedLoads
import WalletDashboard.Proofs.Importing

/-!
# What a load that goes through leaves on the screen

A load that goes through shows what the service offers (`WalletService.Offers`): its wallet and, if
there is one, the feed of its address in the recent blocks. On the way the wallet is shown over the
old blocks, which may belong to another wallet, but the feed is worked out anew over the new ones
before the load is done, and nothing of what was there before is left in it
(`Dashboard.rewards_showing`).

* To work the feed out is to settle it: to do it again changes nothing (`Dashboard.refeed_refeed`),
  so that what is shown once is shown as well when it is shown again (`Dashboard.showing_showing`).
* `Session.load_eq_true_iff`: a load goes through exactly if the service has something to offer.
* `Session.load_shows_offer` puts them together, over any dashboard and any service.
-/

namespace WalletDashboard

namespace PageCursor

/-- What has been pulled back is among the pages. -/
@[simp] theorem clampTo_clampTo (c : PageCursor) (total : Nat) :
    (c.clampTo total).clampTo total = c.clampTo total := by
  simp only [clampTo, mk.injEq]
  omega

end PageCursor

namespace Dashboard

/-- The feed does not depend on the feed that was there, and the cursor is inside it already. -/
@[simp] theorem refeed_refeed (d : Dashboard) : d.refeed.refeed = d.refeed := by
  simp only [refeed, PageCursor.clampTo_clampTo]

/-- The dashboard over a wallet of the service, and blocks. -/
def showing (wallet : Option Wallet) (blocks : List Block) (d : Dashboard) : Dashboard :=
  (d.turnTo (Mode.ofWallet? wallet)).setBlocks blocks

variable (d : Dashboard) (wallet : Option Wallet) (blocks : List Block)

@[simp] theorem mode_showing : (d.showing wallet blocks).mode = Mode.ofWallet? wallet := rfl

/-- Of the blocks that were there before nothing is left in the feed. -/
theorem rewards_showing :
    (d.showing wallet blocks).rewards = rewardFeed (wallet.map (·.address)) blocks := by
  cases wallet <;> rfl

/-- What is shown already stays as it is, the page included. -/
theorem showing_showing : (d.showing wallet blocks).showing wallet blocks =
    d.showing wallet blocks := by
  let shown : Dashboard := { d.turnTo (Mode.ofWallet? wallet) with blocks }
  -- The address stays, so that the reader does, and both times the feed is worked out as it was.
  have hturn : (d.showing wallet blocks).turnTo (Mode.ofWallet? wallet) = shown.refeed.refeed :=
    turnTo_of_address_eq rfl
  rw [refeed_refeed] at hturn
  have hset : shown.refeed.setBlocks blocks = shown.refeed.refeed := rfl
  rw [showing, hturn, hset, refeed_refeed]
  rfl

end Dashboard

namespace WalletService

variable {σ : Type}

/-- What the service answers to a load: its wallet and, if there is one, its recent blocks. -/
def Offers (svc : WalletService σ) (m : σ) (wallet : Option Wallet) (blocks : List Block) : Prop :=
  (svc.getWallet m).outcome = .ok wallet ∧
    match wallet with
    | none => blocks = []
    | some _ => (svc.recentBlocks (svc.getWallet m).state).outcome = .ok blocks

/-- The calls of a load leave the service as it is, and have nothing to log. -/
structure OnlyReads (svc : WalletService σ) : Prop where
  state_getWallet (m : σ) : (svc.getWallet m).state = m
  log_getWallet (m : σ) : (svc.getWallet m).log = []
  state_recentBlocks (m : σ) : (svc.recentBlocks m).state = m
  log_recentBlocks (m : σ) : (svc.recentBlocks m).log = []

end WalletService

theorem MemoryState.onlyReads_service (mint : Nat → WalletExport) (window : Nat) :
    (service mint window).OnlyReads where
  state_getWallet _ := rfl
  log_getWallet _ := rfl
  state_recentBlocks m := MemoryState.state_recentBlocks window m
  log_recentBlocks m := by
    show (recentBlocks window m).log = []
    unfold recentBlocks
    split <;> rfl

/-- What a load is offered while a wallet is active. -/
theorem MemoryState.offers_of_active {mint : Nat → WalletExport} {window : Nat} {m : MemoryState}
    {address : String} {w : StoredWallet} (ha : m.active = some address)
    (hw : m.stored? address = some w) (ho : m.offline = false) :
    (service mint window).Offers m (some ⟨address, w.balance⟩)
      (m.blocks.drop (m.blocks.length - window)) :=
  ⟨outcome_getWallet_of_active ha hw, outcome_recentBlocks_of_online ho⟩

theorem MemoryState.offers_of_inactive {mint : Nat → WalletExport} {window : Nat}
    {m : MemoryState} (ha : m.active = none) : (service mint window).Offers m none [] :=
  ⟨outcome_getWallet_of_inactive ha, rfl⟩

namespace Session

variable {σ : Type} {svc : WalletService σ} {s : Session σ} {wallet : Option Wallet}
  {blocks : List Block}

theorem load_of_offers (h : svc.Offers s.service wallet blocks) :
    (s.load svc).1 = true ∧
      (s.load svc).2.dashboard = s.dashboard.showing wallet blocks := by
  obtain ⟨hw, hb⟩ := h
  cases wallet with
  | none =>
    rw [load_of_none hw, hb, dashboard_onDashboard, dashboard_turnTo, dashboard_ask]
    exact ⟨rfl, rfl⟩
  | some w => exact load_of_wallet hw hb

/-- A load goes through exactly if the service answers all that it is asked. -/
theorem load_eq_true_iff :
    (s.load svc).1 = true ↔ ∃ wallet blocks, svc.Offers s.service wallet blocks := by
  constructor
  · intro h
    cases hw : (svc.getWallet s.service).outcome with
    | error e =>
      rw [load_of_error (tryLoad_of_error hw)] at h
      cases h
    | ok wallet =>
      cases wallet with
      | none => exact ⟨none, [], hw, rfl⟩
      | some w =>
        cases hb : (svc.recentBlocks (svc.getWallet s.service).state).outcome with
        | ok blocks => exact ⟨some w, blocks, hw, hb⟩
        | error e =>
          have hf : failures (svc.loadExchanges s.service) = [e] := by
            simp [svc.loadExchanges_of_wallet hw, svc.failure?_exchange, hw, hb]
          have hfst := (load_reports svc s).fst_eq
          rw [h, hf] at hfst
          cases hfst
  · rintro ⟨wallet, blocks, h⟩
    exact (load_of_offers h).1

/-- A load that goes through has nothing to tell the user. -/
theorem outbox_load_of_eq_true (h : (s.load svc).1 = true) :
    (s.load svc).2.outbox = s.outbox := by
  rcases hl : s.tryLoad svc with ⟨e | _, s'⟩
  · rw [load_of_error hl] at h
    cases h
  · have ho := outbox_tryLoad svc s
    rw [hl] at ho
    rw [load_of_ok hl]
    exact ho

theorem keeps_service_reloadBlocks {Q : σ → Prop}
    (hblocks : ∀ m, Q m → Q (svc.recentBlocks m).state) (hs : Q s.service) :
    Q (s.reloadBlocks svc).2.service := by
  cases ha : s.dashboard.mode.address? with
  | none => rwa [reloadBlocks_of_none ha]
  | some address =>
    cases hb : (svc.recentBlocks s.service).outcome with
    | ok blocks =>
      rw [reloadBlocks_of_ok ha hb]
      exact hblocks _ hs
    | error e =>
      rw [reloadBlocks_of_error ha hb]
      exact hblocks _ hs

/-- What neither of its calls breaks, a load does not break. -/
theorem keeps_service_load {Q : σ → Prop} (hwallet : ∀ m, Q m → Q (svc.getWallet m).state)
    (hblocks : ∀ m, Q m → Q (svc.recentBlocks m).state) (hs : Q s.service) :
    Q (s.load svc).2.service := by
  have hget : Q (s.ask svc.getWallet).2.service := hwallet _ hs
  have htry : Q (s.tryLoad svc).2.service := by
    cases hw : (svc.getWallet s.service).outcome with
    | error e => rwa [tryLoad_of_error hw]
    | ok wallet =>
      rw [tryLoad_of_ok hw]
      exact keeps_service_reloadBlocks hblocks (by rwa [service_turnTo])
  rcases hl : s.tryLoad svc with ⟨e | _, s'⟩ <;> rw [hl] at htry
  · rwa [load_of_error hl, service_notifyFailure]
  · rwa [load_of_ok hl]

/-- To ask what changes nothing changes nothing. -/
theorem ask_of_reads {α : Type} {operation : σ → Reply σ α}
    (hstate : (operation s.service).state = s.service) (hlog : (operation s.service).log = []) :
    s.ask operation = ((operation s.service).outcome, s) := by
  simp only [ask, write, hstate, hlog, List.append_nil]

theorem turnTo_of_address_eq {mode : Mode} (h : mode.address? = s.dashboard.mode.address?) :
    s.turnTo mode = s.onDashboard (·.turnTo mode) := by
  simp only [turnTo, if_pos h]

theorem service_load_of_onlyReads (hreads : svc.OnlyReads) :
    (s.load svc).2.service = s.service :=
  keeps_service_load (Q := (· = s.service)) (fun m hm => (hreads.state_getWallet m).trans hm)
    (fun m hm => (hreads.state_recentBlocks m).trans hm) rfl

/-- Over a service that is only read, nothing comes of a load but what is shown. -/
theorem load_of_onlyReads (hreads : svc.OnlyReads) (h : svc.Offers s.service wallet blocks) :
    s.load svc = (true, (s.turnTo (Mode.ofWallet? wallet)).onDashboard (·.setBlocks blocks)) := by
  obtain ⟨hw, hb⟩ := h
  have hget : s.ask svc.getWallet = (.ok wallet, s) := by
    rw [ask_of_reads (hreads.state_getWallet _) (hreads.log_getWallet _), hw]
  cases wallet with
  | none =>
    rw [load_of_none hw, hget, hb]
    rfl
  | some w =>
    let s₁ := s.turnTo (.active w)
    have ha : s₁.dashboard.mode.address? = some w.address := by
      rw [dashboard_turnTo]
      rfl
    have hb₁ : (svc.recentBlocks s₁.service).outcome = .ok blocks := by
      rw [← hb, hreads.state_getWallet, service_turnTo]
    have hask : s₁.ask svc.recentBlocks = (.ok blocks, s₁) := by
      rw [ask_of_reads (hreads.state_recentBlocks _) (hreads.log_recentBlocks _), hb₁]
    apply load_of_ok
    rw [tryLoad_of_ok hw, hget]
    show s₁.reloadBlocks svc = _
    rw [reloadBlocks_of_ok ha hb₁, hask]
    rfl

/-- **A load that goes through shows what the service offers, whatever was shown before.** The mode
is that of the wallet of the service, and the feed that of its address in the recent blocks, so that
all dashboards over such a service agree. A further load that is offered the same goes through,
tells the user nothing and changes nothing on the dashboard; over a service that is only read it
changes nothing at all. -/
theorem load_shows_offer (svc : WalletService σ) (s : Session σ) (h : (s.load svc).1 = true) :
    let s' := (s.load svc).2
    ∃ wallet blocks, svc.Offers s.service wallet blocks ∧
      s'.dashboard.mode = Mode.ofWallet? wallet ∧
      s'.dashboard.rewards = rewardFeed (wallet.map (·.address)) blocks ∧
      (wallet = none → s'.dashboard.rewards = []) ∧
      (∀ t : Session σ, svc.Offers t.service wallet blocks →
        (t.load svc).1 = true ∧ (t.load svc).2.dashboard.mode = s'.dashboard.mode ∧
          (t.load svc).2.dashboard.rewards = s'.dashboard.rewards) ∧
      (∀ t : Session σ, t.dashboard = s'.dashboard → svc.Offers t.service wallet blocks →
        (t.load svc).1 = true ∧ (t.load svc).2.outbox = t.outbox ∧
          (t.load svc).2.dashboard = s'.dashboard) ∧
      (svc.OnlyReads → s'.service = s.service ∧ s'.load svc = (true, s')) := by
  intro s'
  obtain ⟨wallet, blocks, hoffer⟩ := load_eq_true_iff.mp h
  have hshown : s'.dashboard = s.dashboard.showing wallet blocks := (load_of_offers hoffer).2
  have hrewards : s'.dashboard.rewards = rewardFeed (wallet.map (·.address)) blocks := by
    rw [hshown, Dashboard.rewards_showing]
  refine ⟨wallet, blocks, hoffer, by rw [hshown, Dashboard.mode_showing], hrewards, ?_, ?_, ?_, ?_⟩
  · rintro rfl
    exact hrewards
  · intro t ht
    obtain ⟨hgood, hview⟩ := load_of_offers ht
    refine ⟨hgood, ?_, ?_⟩
    · rw [hview, hshown, Dashboard.mode_showing, Dashboard.mode_showing]
    · rw [hview, hrewards, Dashboard.rewards_showing]
  · intro t hd ht
    obtain ⟨hgood, hview⟩ := load_of_offers ht
    refine ⟨hgood, outbox_load_of_eq_true hgood, ?_⟩
    rw [hview, hd, hshown, Dashboard.showing_showing]
  · intro hreads
    have hservice : s'.service = s.service := service_load_of_onlyReads hreads
    refine ⟨hservice, ?_⟩
    have ha : (Mode.ofWallet? wallet).address? = s'.dashboard.mode.address? := by
      rw [hshown, Dashboard.mode_showing]
    have hsame : s'.onDashboard (·.showing wallet blocks) = s' := by
      rw [onDashboard, hshown, Dashboard.showing_showing, ← hshown]
    rw [load_of_onlyReads hreads (by rwa [hservice]), turnTo_of_address_eq ha]
    exact congrArg (true, ·) hsame

/-- On the third page of the feed of `B`, over a service whose wallet is `A`: the load turns to the
one reward of `A`, and a further load changes nothing. -/
theorem load_shows_offer_after_other_wallet :
    let svc := MemoryState.service (fun _ => default) 50
    let mined : Block := ⟨0, 7, "A", []⟩
    let old : List Block := [⟨0, 1, "B", []⟩, ⟨1, 2, "B", []⟩, ⟨2, 3, "B", []⟩]
    let s : Session MemoryState :=
      { dashboard :=
          { pageSize := ⟨1, by decide⟩, mode := .active ⟨"B", 9⟩, blocks := old,
            rewards := rewardFeed (some "B") old, cursor := ⟨3⟩ }
        service :=
          { wallets := [("A", ⟨"aa", "acid", 5⟩)], active := some "A", blocks := [mined] } }
    let s' := (s.load svc).2
    (s.load svc).1 = true ∧
      (∃ wallet blocks, svc.Offers s.service wallet blocks ∧
        s'.dashboard.mode = Mode.ofWallet? wallet ∧
        s'.dashboard.rewards = rewardFeed (wallet.map (·.address)) blocks) ∧
      s'.dashboard.mode = .active ⟨"A", 5⟩ ∧ s'.dashboard.rewards = [.implied mined] ∧
      s'.dashboard.currentPage = 1 ∧ svc.OnlyReads ∧ s'.load svc = (true, s') := by
  intro svc mined old s s'
  have h : (s.load svc).1 = true := by decide
  have hreads : svc.OnlyReads := MemoryState.onlyReads_service _ _
  obtain ⟨wallet, blocks, hoffer, hmode, hrewards, -, -, -, hsame⟩ := load_shows_offer svc s h
  exact ⟨h, ⟨wallet, blocks, hoffer, hmode, hrewards⟩, by decide, by decide, by decide, hreads,
    (hsame hreads).2⟩

end Session

end WalletDashboard
