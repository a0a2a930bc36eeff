import WalletDashboard.Proofs.Changes
import WalletDashboard.Proofs.Coherence
import WalletDashboard.Proofs.Exchanges

/-!
# Which page the reader is on after an operation

Another address on the screen is read from its first page. The same address is read from where the
reader was, as far as there are still so many pages: a load works the feed out twice, over the old
blocks and over the new ones, but over the old ones it comes out as it was, so that no page is lost
on the way.

* `Dashboard.Turns`: between two dashboards the reader stays with the address or is on the first
  page, and the first page is not left. Every change that comes from the service is such a turn.
* `Session.currentPage_load`: a load of the address on the screen keeps the page, also if the blocks
  cannot be loaded.
* `Session.currentPage_run` says both of every operation in every run.
-/

namespace WalletDashboard

namespace PageCursor

theorem page_clampTo_of_eq_one {c : PageCursor} (h : c.page = 1) (total : Nat) :
    (c.clampTo total).page = 1 := by
  simp only [clampTo, h]
  omega

theorem page_clampTo {c : PageCursor} {total : Nat} (h1 : 1 ≤ c.page) (ht : 1 ≤ total) :
    (c.clampTo total).page = min c.page total := by
  simp only [clampTo]
  omega

theorem clampTo_eq_self {c : PageCursor} {total : Nat} (h1 : 1 ≤ c.page) (hc : c.page ≤ total) :
    c.clampTo total = c := by
  have hp : max 1 (min c.page (max total 1)) = c.page := by omega
  rw [clampTo, hp]

end PageCursor

namespace Dashboard

theorem one_le_totalPages (d : Dashboard) : 1 ≤ d.totalPages := pageCount_pos _ _

/-- The reader stays with the address or is on the first page, and does not leave the first page. -/
structure Turns (d d' : Dashboard) : Prop where
  address_or_first : d'.mode.address? = d.mode.address? ∨ d'.currentPage = 1
  first : d.currentPage = 1 → d'.currentPage = 1

theorem Turns.refl (d : Dashboard) : d.Turns d := ⟨.inl rfl, id⟩

theorem Turns.trans {d d' d'' : Dashboard} (h : d.Turns d') (h' : d'.Turns d'') : d.Turns d'' where
  address_or_first := by
    rcases h'.address_or_first with ha' | hp
    · rcases h.address_or_first with ha | hp
      · exact .inl (ha'.trans ha)
      · exact .inr (h'.first hp)
    · exact .inr hp
  first hp := h'.first (h.first hp)

theorem turnTo_of_address_eq {mode : Mode} {d : Dashboard}
    (h : mode.address? = d.mode.address?) : d.turnTo mode = { d with mode }.refeed := by
  simp only [turnTo, if_pos h]

theorem turnTo_of_address_ne {mode : Mode} {d : Dashboard} (h : mode.address? ≠ d.mode.address?) :
    d.turnTo mode = { d with mode, cursor := d.cursor.reset }.refeed := by
  simp only [turnTo, if_neg h]

theorem Turns.turnTo (d : Dashboard) (mode : Mode) : d.Turns (d.turnTo mode) := by
  by_cases ha : mode.address? = d.mode.address?
  · rw [turnTo_of_address_eq ha]
    exact ⟨.inl ha, fun hp => PageCursor.page_clampTo_of_eq_one hp _⟩
  · rw [turnTo_of_address_ne ha]
    have hp : ({ d with mode, cursor := d.cursor.reset }.refeed : Dashboard).currentPage = 1 :=
      PageCursor.page_clampTo_of_eq_one d.cursor.page_reset _
    exact ⟨.inr hp, fun _ => hp⟩

/-- Every change that comes from the service is a turn. -/
theorem Change.turns {d d' : Dashboard} (h : Change d d') : d.Turns d' := by
  cases h with
  | turnTo mode => exact .turnTo d mode
  | setBlocks blocks => exact ⟨.inl rfl, fun hp => PageCursor.page_clampTo_of_eq_one hp _⟩
  | noteHeight height => exact ⟨.inl rfl, id⟩
  | settle => exact ⟨.inl rfl, id⟩

theorem Changes.turns {d d' : Dashboard} (h : Changes d d') : d.Turns d' := by
  induction h with
  | refl => exact .refl _
  | tail _ hc ih => exact ih.trans hc.turns

/-- Over the old blocks the feed of the same address comes out as it was, and the page stays. -/
theorem Coherent.turnTo_eq {d : Dashboard} (hd : d.Coherent) {mode : Mode}
    (h : mode.address? = d.mode.address?) : d.turnTo mode = { d with mode } := by
  have hr : rewardFeed mode.address? d.blocks = d.rewards := by rw [h, hd.rewards_eq]
  have hc : d.cursor.clampTo (pageCount d.rewards.length d.pageSize) = d.cursor :=
    PageCursor.clampTo_eq_self hd.one_le_page hd.page_le
  rw [turnTo_of_address_eq h]
  simp only [refeed, hr, hc]

/-- Over other blocks the reader goes back only as far as there are pages. -/
theorem currentPage_setBlocks {d : Dashboard} (h : 1 ≤ d.currentPage) (blocks : List Block) :
    (d.setBlocks blocks).currentPage = min d.currentPage (d.setBlocks blocks).totalPages :=
  PageCursor.page_clampTo h (pageCount_pos _ _)

/-- What the user does keeps a dashboard coherent. -/
theorem Coherent.onDashboard {d : Dashboard} (hd : d.Coherent) (a : Action) :
    (a.onDashboard d).Coherent := by
  cases a with
  | nextPage => exact hd.nextPage
  | previousPage => exact hd.previousPage
  | jumpToPage page => exact hd.jumpToPage page
  | requestSwitch | cancelSwitch | confirmSwitch =>
    exact ⟨hd.rewards_eq, hd.one_le_page, hd.page_le, hd.settled⟩
  | load | refresh | importWallet | importOnStartup | createWallet | acknowledgeExport => exact hd

end Dashboard

/-! ### What a load is told about the wallet -/

/-- The wallet that an exchange was about, or that there is none, if it was about that. -/
def Exchange.wallet? (x : Exchange) : Option (Option Wallet) :=
  match x.call, x.outcome with
  | .getWallet, .ok (.wallet w) => some (some w)
  | .getWallet, .ok _ => some none
  | _, _ => none

/-- The wallets that the service answered with, in order. -/
def walletReplies (xs : List Exchange) : List (Option Wallet) := xs.filterMap Exchange.wallet?

theorem walletReplies_append (xs ys : List Exchange) :
    walletReplies (xs ++ ys) = walletReplies xs ++ walletReplies ys :=
  List.filterMap_append

theorem walletReplies_cons_of_none {x : Exchange} (xs : List Exchange) (h : x.wallet? = none) :
    walletReplies (x :: xs) = walletReplies xs :=
  List.filterMap_cons_none h

theorem walletReplies_cons_of_some {x : Exchange} {wallet : Option Wallet} (xs : List Exchange)
    (h : x.wallet? = some wallet) : walletReplies (x :: xs) = wallet :: walletReplies xs :=
  List.filterMap_cons_some h

namespace WalletService

variable {σ : Type} {svc : WalletService σ} {m : σ}

theorem walletReplies_loadExchanges_of_ok {wallet : Option Wallet}
    (h : (svc.getWallet m).outcome = .ok wallet) :
    walletReplies (svc.loadExchanges m) = [wallet] := by
  have hx : (svc.exchange .getWallet m).wallet? = some wallet := by
    cases wallet <;> simp [Exchange.wallet?, exchange, call, Reply.wrap, h, Except.map]
  rw [loadExchanges, walletReplies_cons_of_some _ hx, h]
  cases wallet <;> rfl

theorem walletReplies_loadExchanges_of_error {e : Failure}
    (h : (svc.getWallet m).outcome = .error e) : walletReplies (svc.loadExchanges m) = [] := by
  have hx : (svc.exchange .getWallet m).wallet? = none := by
    simp [Exchange.wallet?, exchange, call, Reply.wrap, h, Except.map]
  rw [loadExchanges_of_error _ h, walletReplies_cons_of_none _ hx]
  rfl

theorem getWallet_of_walletReplies {wallet : Option Wallet}
    (h : (walletReplies (svc.loadExchanges m)).head? = some wallet) :
    (svc.getWallet m).outcome = .ok wallet := by
  cases hw : (svc.getWallet m).outcome with
  | error e =>
    rw [walletReplies_loadExchanges_of_error hw] at h
    cases h
  | ok wallet' =>
    rw [walletReplies_loadExchanges_of_ok hw] at h
    cases h
    rfl

end WalletService

namespace Session

variable {σ κ : Type}

/-- **A load of the address on the screen keeps the page,** as far as there are so many. -/
theorem currentPage_load {svc : WalletService σ} {s : Session σ} (hd : s.dashboard.Coherent)
    {wallet : Option Wallet} (hw : (svc.getWallet s.service).outcome = .ok wallet)
    (ha : wallet.map (·.address) = s.dashboard.mode.address?) :
    (s.load svc).2.dashboard.currentPage =
      min s.dashboard.currentPage (s.load svc).2.dashboard.totalPages := by
  have hm : (Mode.ofWallet? wallet).address? = s.dashboard.mode.address? := by
    cases wallet <;> exact ha
  have hkeep : s.dashboard.currentPage = min s.dashboard.currentPage s.dashboard.totalPages :=
    (Nat.min_eq_left hd.page_le).symm
  rcases dashboard_load_cases svc s with hl | ⟨wallet', hw', hl⟩
  · rw [hl]
    exact hkeep
  · obtain rfl : wallet' = wallet := Except.ok.inj (hw'.symm.trans hw)
    rw [hd.turnTo_eq hm] at hl
    rcases hl with hl | ⟨blocks, hl⟩
    · rw [hl]
      exact hkeep
    · rw [hl]
      exact Dashboard.currentPage_setBlocks (d := { s.dashboard with mode := .ofWallet? wallet' })
        hd.one_le_page blocks

/-- The dashboard of `s'` comes from a load of the wallet over the pages of `s`. -/
def EndsInLoad (svc : WalletService σ) (s : Session σ) (wallet : Option Wallet) (s' : Session σ) :
    Prop :=
  ∃ s₁ : Session σ, s₁.dashboard.Coherent ∧ s₁.dashboard.mode = s.dashboard.mode ∧
    s₁.dashboard.cursor = s.dashboard.cursor ∧
    (svc.getWallet s₁.service).outcome = .ok wallet ∧
    s'.dashboard = (s₁.load svc).2.dashboard

section Loads

variable {svc : WalletService σ} {s : Session σ} {wallet : Option Wallet}

theorem EndsInLoad.currentPage_eq {s' : Session σ} (h : EndsInLoad svc s wallet s')
    (ha : wallet.map (·.address) = s.dashboard.mode.address?) :
    s'.dashboard.currentPage = min s.dashboard.currentPage s'.dashboard.totalPages := by
  obtain ⟨s₁, hd, hm, hc, hw, hs⟩ := h
  have hp : s.dashboard.currentPage = s₁.dashboard.currentPage := congrArg PageCursor.page hc.symm
  rw [hs, hp]
  exact currentPage_load hd hw (by rw [ha, hm])

/-- A load of the session `s₁`, whose dashboard is `d` and whose service is in the state `m`. -/
theorem load_endsInLoad {s₁ : Session σ} {d : Dashboard} {m : σ} (hs : s₁.core = (d, m))
    (hd : d.Coherent) (hm : d.mode = s.dashboard.mode) (hc : d.cursor = s.dashboard.cursor)
    (h : (walletReplies (svc.loadExchanges m)).head? = some wallet) :
    EndsInLoad svc s wallet (s₁.load svc).2 := by
  cases hs
  exact ⟨s₁, hd, hm, hc, WalletService.getWallet_of_walletReplies h, rfl⟩

theorem refresh_endsInLoad (hd : s.dashboard.Coherent)
    (h : (walletReplies (svc.refreshExchanges s.dashboard.mode s.service)).head? = some wallet) :
    EndsInLoad svc s wallet (s.refresh svc).2 := by
  cases hm : s.dashboard.mode with
  | justCreated e =>
    rw [hm] at h
    cases h
  | noWallet =>
    rw [hm] at h
    rw [refresh_of_noWallet hm]
    exact load_endsInLoad rfl hd rfl rfl h
  | active w =>
    -- Before the load only the height and the mark of the refresh change.
    rw [hm, WalletService.refreshExchanges, walletReplies_cons_of_none _ rfl,
      walletReplies_cons_of_none _ rfl] at h
    cases hr : (s.refreshBoth svc).1 with
    | error e =>
      obtain hw | ⟨hw, hh⟩ := fst_refreshBoth_eq_error_iff.mp hr
      · rw [hw] at h
        cases h
      · rw [hw, hh] at h
        cases h
    | ok height =>
      obtain ⟨hw, hh⟩ := fst_refreshBoth_eq_ok_iff.mp hr
      rw [hw, hh] at h
      rw [refresh_of_ok hm hr]
      have hs : ((s.refreshBoth svc).2.onDashboard ({ · with blockHeight := some height })).core =
          ({ s.dashboard with refreshing := false, blockHeight := some height },
            (svc.refreshBlockHeight (svc.refreshWallet s.service).state).state) := by
        rw [core, dashboard_onDashboard, service_onDashboard, dashboard_refreshBoth,
          service_refreshBoth]
      exact load_endsInLoad hs ⟨hd.rewards_eq, hd.one_le_page, hd.page_le, rfl⟩ rfl rfl h

theorem importWallet_endsInLoad (hd : s.dashboard.Coherent) {key : String}
    (h : (walletReplies (svc.importExchanges key s.service)).head? = some wallet) :
    EndsInLoad svc s wallet (s.importWallet svc key).2 := by
  by_cases hk : Text.trim key = ""
  · rw [WalletService.importExchanges, if_pos hk] at h
    cases h
  · rw [WalletService.importExchanges, if_neg hk, walletReplies_cons_of_none _ rfl] at h
    cases hi : (svc.importWallet (Text.trim key) s.service).outcome with
    | error e =>
      rw [hi] at h
      cases h
    | ok _ =>
      rw [hi] at h
      rw [importWallet_of_ok hk hi]
      exact load_endsInLoad (core_notify _ _) hd rfl rfl h

/-- With a wallet an import on startup is a load. -/
theorem importOnStartup_endsInLoad (hd : s.dashboard.Coherent) {key : String} {w : Wallet}
    (h : (walletReplies (svc.startupExchanges key s.service)).head? = some (some w)) :
    EndsInLoad svc s (some w) (s.importOnStartup svc key).2 := by
  rw [WalletService.startupExchanges, walletReplies_append] at h
  cases hw : (svc.getWallet s.service).outcome with
  | error e =>
    rw [WalletService.walletReplies_loadExchanges_of_error hw, hw] at h
    cases h
  | ok wallet =>
    rw [WalletService.walletReplies_loadExchanges_of_ok hw] at h
    obtain rfl : wallet = some w := Option.some.inj h
    rw [importOnStartup_of_wallet hw]
    refine ⟨s, hd, rfl, rfl, hw, ?_⟩
    split <;> rfl

theorem acknowledgeExport_endsInLoad (hd : s.dashboard.Coherent)
    (h : (walletReplies (svc.acknowledgeExchanges s.dashboard.mode s.service)).head? =
      some wallet) : EndsInLoad svc s wallet (s.acknowledgeExport svc) := by
  cases hm : s.dashboard.mode with
  | justCreated e =>
    rw [hm] at h
    rw [acknowledgeExport, hm]
    exact load_endsInLoad rfl hd rfl rfl h
  | noWallet | active =>
    rw [hm] at h
    cases h

theorem confirmSwitch_endsInLoad (hd : s.dashboard.Coherent)
    (h : (walletReplies (svc.switchExchanges s.dashboard.switch s.service)).head? =
      some wallet) : EndsInLoad svc s wallet (s.confirmSwitch svc) := by
  cases hs : s.dashboard.switch with
  | closed =>
    rw [hs] at h
    cases h
  | opened =>
    rw [hs, WalletService.switchExchanges, walletReplies_cons_of_none _ rfl] at h
    have hd' : ({ s.dashboard with switch := .closed } : Dashboard).Coherent :=
      ⟨hd.rewards_eq, hd.one_le_page, hd.page_le, hd.settled⟩
    cases hl : (svc.logout s.service).outcome with
    | ok _ =>
      rw [confirmSwitch_of_ok hs hl]
      exact load_endsInLoad rfl hd' rfl rfl h
    | error e =>
      rw [confirmSwitch_of_error hs hl]
      exact load_endsInLoad (core_notifyFailure _ _) hd' rfl rfl h

/-- An operation that is answered with a wallet first ends in the load of it. -/
theorem perform_endsInLoad (hd : s.dashboard.Coherent) {a : Action} {w : Wallet}
    (h : (walletReplies (s.exchanges svc a)).head? = some (some w)) :
    EndsInLoad svc s (some w) (s.perform svc a).2 := by
  rw [exchanges_eq] at h
  cases a <;> simp only [perform, Prod.map_snd, id_eq, WalletService.exchangesOf] at h ⊢
  case load => exact load_endsInLoad rfl hd rfl rfl h
  case refresh => exact refresh_endsInLoad hd h
  case importWallet key => exact importWallet_endsInLoad hd h
  case importOnStartup key => exact importOnStartup_endsInLoad hd h
  case acknowledgeExport => exact acknowledgeExport_endsInLoad hd h
  case confirmSwitch => exact confirmSwitch_endsInLoad hd h
  case createWallet | requestSwitch | cancelSwitch | nextPage | previousPage | jumpToPage => cases h

end Loads

/-- Whatever the service answers, what follows on the part of the user is a turn. -/
theorem perform_turns (svc : WalletService σ) (s : Session σ) (a : Action) :
    (a.onDashboard s.dashboard).Turns (s.perform svc a).2.dashboard :=
  (perform_changes svc s a).turns

/-- **Another address is read from its first page, and the same address from where the reader was.**
The second part is about every load that is answered with the address on the screen, whichever
operation it belongs to and whatever comes of the blocks. An import on startup that goes beyond its
load goes on with `importWallet`. -/
theorem currentPage_run (svc : WalletService σ) (affect : κ → σ → σ) (size : PageSize) (service : σ)
    (events : List (Event κ)) (a : Action) :
    let s := (start size service).run svc affect events
    let d := s.dashboard
    let d' := (s.perform svc a).2.dashboard
    (d'.mode.address? ≠ d.mode.address? → d'.currentPage = 1) ∧
      ∀ wallet, (walletReplies (s.exchanges svc a)).head? = some wallet →
        wallet.map (·.address) = d.mode.address? →
          d'.currentPage = min d.currentPage d'.totalPages := by
  intro s d d'
  have hd : d.Coherent := coherent_dashboard_run svc affect size service events
  have ht : (a.onDashboard d).Turns d' := perform_turns svc s a
  have hmode : (a.onDashboard d).mode = d.mode := by cases a <;> rfl
  refine ⟨fun hne => ?_, fun wallet hw ha => ?_⟩
  · exact ht.address_or_first.resolve_left (by rwa [hmode])
  · cases wallet with
    | some w => exact (perform_endsInLoad hd hw).currentPage_eq ha
    | none =>
      -- Without a wallet there is only the first page, and none to leave it for.
      have hn : d.mode.wallet? = none := Option.map_eq_none_iff.mp ha.symm
      obtain ⟨-, h1, -⟩ := hd.empty_of_wallet?_eq_none hn
      obtain ⟨-, hp, -⟩ := (hd.onDashboard a).empty_of_wallet?_eq_none (by rw [hmode, hn])
      rw [ht.first hp, h1]
      exact (Nat.min_eq_left (Dashboard.one_le_totalPages d')).symm

end Session

end WalletDashboard
