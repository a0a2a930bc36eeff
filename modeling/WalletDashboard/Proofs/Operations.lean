import Mathlib.Logic.Relation
import WalletDashboard.Proofs.Runs

/-!
# What the operations do to the parts of a session

The parts of a session are the dashboard, the state of the service, the outbox and the log.
Asking, writing and notifying leave the dashboard alone, and everything that is done to the
dashboard leaves the service alone.

`Move` is one change of the dashboard and of the state of the service in the course of an operation,
with what the service answered. Every operation is made of moves (`Session.perform_moves`), so what
no move breaks holds in every run (`Session.run_keeps_core`).
-/

namespace WalletDashboard

namespace Session

variable {σ α κ : Type}

section Parts

variable (s : Session σ)

@[simp] theorem dashboard_onDashboard (f : Dashboard → Dashboard) :
    (s.onDashboard f).dashboard = f s.dashboard := rfl

@[simp] theorem service_onDashboard (f : Dashboard → Dashboard) :
    (s.onDashboard f).service = s.service := rfl

@[simp] theorem dashboard_write (lines : List LogLine) :
    (s.write lines).dashboard = s.dashboard := rfl

@[simp] theorem service_write (lines : List LogLine) : (s.write lines).service = s.service := rfl

@[simp] theorem fst_ask (operation : σ → Reply σ α) :
    (s.ask operation).1 = (operation s.service).outcome := rfl

@[simp] theorem dashboard_ask (operation : σ → Reply σ α) :
    (s.ask operation).2.dashboard = s.dashboard := rfl

@[simp] theorem service_ask (operation : σ → Reply σ α) :
    (s.ask operation).2.service = (operation s.service).state := rfl

variable {s} in
theorem reply_of_ask_eq {operation : σ → Reply σ α} {outcome : Except Failure α} {s₁ : Session σ}
    (h : s.ask operation = (outcome, s₁)) :
    (operation s.service).outcome = outcome ∧ (operation s.service).state = s₁.service := by
  cases h
  exact ⟨rfl, rfl⟩

@[simp] theorem dashboard_notify (n : Notice) : (s.notify n).dashboard = s.dashboard := by
  unfold notify; split <;> rfl

@[simp] theorem service_notify (n : Notice) : (s.notify n).service = s.service := by
  unfold notify; split <;> rfl

@[simp] theorem dashboard_notifyFailure (e : Failure) :
    (s.notifyFailure e).dashboard = s.dashboard := by
  simp [notifyFailure]

@[simp] theorem service_notifyFailure (e : Failure) :
    (s.notifyFailure e).service = s.service := by
  simp [notifyFailure]

@[simp] theorem dashboard_turnTo (mode : Mode) :
    (s.turnTo mode).dashboard = s.dashboard.turnTo mode := by
  simp only [turnTo]; split <;> rfl

@[simp] theorem service_turnTo (mode : Mode) : (s.turnTo mode).service = s.service := by
  simp only [turnTo]; split <;> rfl

end Parts

/-! ### Loading, by what the service answers -/

section Loading

variable {svc : WalletService σ} {s : Session σ}

theorem reloadBlocks_of_none (h : s.dashboard.mode.address? = none) :
    s.reloadBlocks svc = (.ok (), s.onDashboard (·.setBlocks [])) := by
  simp only [reloadBlocks, h]

theorem reloadBlocks_of_ok {address : String} {blocks : List Block}
    (h : s.dashboard.mode.address? = some address)
    (hb : (svc.recentBlocks s.service).outcome = .ok blocks) :
    s.reloadBlocks svc =
      (.ok (), (s.ask svc.recentBlocks).2.onDashboard (·.setBlocks blocks)) := by
  simp only [reloadBlocks, h, ask, hb]

theorem reloadBlocks_of_error {address : String} {e : Failure}
    (h : s.dashboard.mode.address? = some address)
    (hb : (svc.recentBlocks s.service).outcome = .error e) :
    s.reloadBlocks svc = (.error e, (s.ask svc.recentBlocks).2) := by
  simp only [reloadBlocks, h, ask, hb]

theorem tryLoad_of_ok {wallet : Option Wallet}
    (h : (svc.getWallet s.service).outcome = .ok wallet) :
    s.tryLoad svc = ((s.ask svc.getWallet).2.turnTo (Mode.ofWallet? wallet)).reloadBlocks svc := by
  simp only [tryLoad, ask, h]

theorem tryLoad_of_error {e : Failure} (h : (svc.getWallet s.service).outcome = .error e) :
    s.tryLoad svc = (.error e, (s.ask svc.getWallet).2) := by
  simp only [tryLoad, ask, h]

theorem load_of_ok {s' : Session σ} (h : s.tryLoad svc = (.ok (), s')) :
    s.load svc = (true, s') := by
  simp only [load, settleOutcome, h]

theorem load_of_error {e : Failure} {s' : Session σ} (h : s.tryLoad svc = (.error e, s')) :
    s.load svc = (false, s'.notifyFailure e) := by
  simp only [load, settleOutcome, h]

theorem mode_reloadBlocks : (s.reloadBlocks svc).2.dashboard.mode = s.dashboard.mode := by
  cases ha : s.dashboard.mode.address? with
  | none =>
    rw [reloadBlocks_of_none ha]
    rfl
  | some address =>
    cases hb : (svc.recentBlocks s.service).outcome with
    | ok blocks =>
      rw [reloadBlocks_of_ok ha hb]
      rfl
    | error e =>
      rw [reloadBlocks_of_error ha hb]
      rfl

theorem dashboard_reloadBlocks_cases (svc : WalletService σ) (s : Session σ) :
    (s.reloadBlocks svc).2.dashboard = s.dashboard ∨
      ∃ blocks, (s.reloadBlocks svc).2.dashboard = s.dashboard.setBlocks blocks := by
  cases ha : s.dashboard.mode.address? with
  | none =>
    rw [reloadBlocks_of_none ha]
    exact .inr ⟨[], rfl⟩
  | some address =>
    cases hb : (svc.recentBlocks s.service).outcome with
    | ok blocks =>
      rw [reloadBlocks_of_ok ha hb]
      exact .inr ⟨blocks, rfl⟩
    | error e =>
      rw [reloadBlocks_of_error ha hb]
      exact .inl rfl

theorem dashboard_load (s : Session σ) :
    (s.load svc).2.dashboard = (s.tryLoad svc).2.dashboard := by
  rcases hl : s.tryLoad svc with ⟨_ | _, s'⟩
  · rw [load_of_error hl, dashboard_notifyFailure]
  · rw [load_of_ok hl]

/-- A load that goes through shows the wallet of the service over its recent blocks. -/
theorem load_of_wallet {w : Wallet} {blocks : List Block}
    (hw : (svc.getWallet s.service).outcome = .ok (some w))
    (hb : (svc.recentBlocks (svc.getWallet s.service).state).outcome = .ok blocks) :
    (s.load svc).1 = true ∧
      (s.load svc).2.dashboard = (s.dashboard.turnTo (.active w)).setBlocks blocks := by
  have ha : ((s.ask svc.getWallet).2.turnTo (.active w)).dashboard.mode.address? =
      some w.address := by
    rw [dashboard_turnTo]
    rfl
  have hs : (svc.recentBlocks ((s.ask svc.getWallet).2.turnTo (.active w)).service).outcome =
      .ok blocks := by rwa [service_turnTo]
  rw [load_of_ok ((tryLoad_of_ok hw).trans (reloadBlocks_of_ok ha hs))]
  refine ⟨rfl, ?_⟩
  rw [dashboard_onDashboard, dashboard_ask, dashboard_turnTo, dashboard_ask]
  rfl

/-- Once the wallet is known it is shown, also if the blocks cannot be loaded. -/
theorem mode_load_of_ok {wallet : Option Wallet}
    (h : (svc.getWallet s.service).outcome = .ok wallet) :
    (s.load svc).2.dashboard.mode = Mode.ofWallet? wallet := by
  rw [dashboard_load, tryLoad_of_ok h, mode_reloadBlocks, dashboard_turnTo,
    Dashboard.mode_turnTo]

theorem wallet?_load_of_ok {wallet : Option Wallet}
    (h : (svc.getWallet s.service).outcome = .ok wallet) :
    (s.load svc).2.dashboard.mode.wallet? = wallet := by
  rw [mode_load_of_ok h]
  cases wallet <;> rfl

/-- A load that does not get as far as the wallet leaves the dashboard as it was. -/
theorem dashboard_load_of_error {e : Failure}
    (h : (svc.getWallet s.service).outcome = .error e) :
    (s.load svc).2.dashboard = s.dashboard := by
  rw [dashboard_load, tryLoad_of_error h, dashboard_ask]

/-- What a load does to the dashboard: nothing, if the wallet cannot be had; else the wallet is
shown, and then the blocks may be exchanged. -/
theorem dashboard_load_cases (svc : WalletService σ) (s : Session σ) :
    (s.load svc).2.dashboard = s.dashboard ∨
      ∃ wallet, (svc.getWallet s.service).outcome = .ok wallet ∧
        ((s.load svc).2.dashboard = s.dashboard.turnTo (Mode.ofWallet? wallet) ∨
          ∃ blocks, (s.load svc).2.dashboard =
            (s.dashboard.turnTo (Mode.ofWallet? wallet)).setBlocks blocks) := by
  cases hw : (svc.getWallet s.service).outcome with
  | error e => exact .inl (dashboard_load_of_error hw)
  | ok wallet =>
    refine .inr ⟨wallet, rfl, ?_⟩
    rw [dashboard_load, tryLoad_of_ok hw]
    -- What is loaded is loaded over the wallet that was turned to.
    have ht : ((s.ask svc.getWallet).2.turnTo (Mode.ofWallet? wallet)).dashboard =
        s.dashboard.turnTo (Mode.ofWallet? wallet) := dashboard_turnTo _ _
    rcases dashboard_reloadBlocks_cases svc
      ((s.ask svc.getWallet).2.turnTo (Mode.ofWallet? wallet)) with hd | ⟨blocks, hd⟩
    · exact .inl (hd.trans ht)
    · exact .inr ⟨blocks, by rw [hd, ht]⟩

end Loading

/-! ### The other operations, by what the service answers -/

section Answers

variable {svc : WalletService σ} {s : Session σ}

theorem createWallet_of_ok {e : WalletExport} (h : (svc.createWallet s.service).outcome = .ok e) :
    s.createWallet svc =
      (((s.ask svc.createWallet).2.write
        [⟨.info, "[Dashboard] Wallet " ++ e.address ++ " created, awaiting backup"⟩]).notify
          (.info "Wallet created. Back up your private key and recovery phrase.")).turnTo
            (.justCreated e) := by
  simp only [createWallet, ask, h]

theorem createWallet_of_error {e : Failure}
    (h : (svc.createWallet s.service).outcome = .error e) :
    s.createWallet svc = (s.ask svc.createWallet).2.notifyFailure e := by
  simp only [createWallet, ask, h]

theorem importWallet_of_blank {key : String} (h : Text.trim key = "") :
    s.importWallet svc key = (false, s.notifyFailure .invalidKey) := by
  simp only [importWallet, h, if_true]

theorem importWallet_of_ok {key : String} (h : Text.trim key ≠ "")
    (hi : (svc.importWallet (Text.trim key) s.service).outcome = .ok ()) :
    s.importWallet svc key =
      ((s.ask (svc.importWallet (Text.trim key))).2.notify (.info "Wallet imported.")).load svc := by
  simp only [importWallet, if_neg h, ask, hi]

theorem importWallet_of_error {key : String} {e : Failure} (h : Text.trim key ≠ "")
    (hi : (svc.importWallet (Text.trim key) s.service).outcome = .error e) :
    s.importWallet svc key =
      (false, (s.ask (svc.importWallet (Text.trim key))).2.notifyFailure e) := by
  simp only [importWallet, if_neg h, ask, hi]

/-- Without a wallet there are no blocks to load, and nothing else can fail. -/
theorem load_of_none (h : (svc.getWallet s.service).outcome = .ok none) :
    s.load svc =
      (true, ((s.ask svc.getWallet).2.turnTo .noWallet).onDashboard (·.setBlocks [])) := by
  refine load_of_ok ((tryLoad_of_ok h).trans (reloadBlocks_of_none ?_))
  rw [dashboard_turnTo]
  rfl

theorem service_load_of_none (h : (svc.getWallet s.service).outcome = .ok none) :
    (s.load svc).2.service = (svc.getWallet s.service).state := by
  rw [load_of_none h, service_onDashboard, service_turnTo, service_ask]

theorem importOnStartup_of_error {key : String} {e : Failure}
    (h : (svc.getWallet s.service).outcome = .error e) :
    s.importOnStartup svc key = s.load svc := by
  simp only [importOnStartup, load_of_error (tryLoad_of_error h)]

theorem importOnStartup_of_wallet {key : String} {w : Wallet}
    (h : (svc.getWallet s.service).outcome = .ok (some w)) :
    s.importOnStartup svc key =
      ((s.load svc).1,
        if (s.load svc).1 then
          (s.load svc).2.write
            [⟨.info, "[Dashboard] Wallet already active, skipping startup import"⟩]
        else (s.load svc).2) := by
  have hm := wallet?_load_of_ok h
  rcases hl : s.load svc with ⟨_ | _, s'⟩
  · simp only [importOnStartup, hl, Bool.false_eq_true, if_false]
  · simp only [hl] at hm
    simp only [importOnStartup, hl, hm, if_true]

theorem importOnStartup_of_none {key : String}
    (h : (svc.getWallet s.service).outcome = .ok none) :
    s.importOnStartup svc key = (s.load svc).2.importWallet svc key := by
  have hm := wallet?_load_of_ok h
  have hl := load_of_none h
  rw [hl] at hm ⊢
  simp only [importOnStartup, hl, hm]

theorem snd_refreshBoth :
    (s.refreshBoth svc).2 =
      (((s.onDashboard ({ · with refreshing := true })).ask svc.refreshWallet).2.ask
        svc.refreshBlockHeight).2.onDashboard ({ · with refreshing := false }) := by
  simp only [refreshBoth]
  split <;> rfl

theorem dashboard_refreshBoth :
    (s.refreshBoth svc).2.dashboard = { s.dashboard with refreshing := false } := by
  rw [snd_refreshBoth]
  rfl

theorem service_refreshBoth :
    (s.refreshBoth svc).2.service =
      (svc.refreshBlockHeight (svc.refreshWallet s.service).state).state := by
  rw [snd_refreshBoth]
  rfl

theorem fst_refreshBoth :
    (s.refreshBoth svc).1 =
      (svc.refreshWallet s.service).outcome.bind fun _ =>
        (svc.refreshBlockHeight (svc.refreshWallet s.service).state).outcome := by
  simp only [refreshBoth, fst_ask, service_onDashboard, service_ask]
  cases (svc.refreshWallet s.service).outcome <;> rfl

theorem fst_refreshBoth_eq_ok_iff {height : UInt64} :
    (s.refreshBoth svc).1 = .ok height ↔
      (svc.refreshWallet s.service).outcome = .ok () ∧
        (svc.refreshBlockHeight (svc.refreshWallet s.service).state).outcome = .ok height := by
  rw [fst_refreshBoth]
  cases (svc.refreshWallet s.service).outcome <;> simp [Except.bind]

theorem fst_refreshBoth_eq_error_iff {e : Failure} :
    (s.refreshBoth svc).1 = .error e ↔
      (svc.refreshWallet s.service).outcome = .error e ∨
        (svc.refreshWallet s.service).outcome = .ok () ∧
          (svc.refreshBlockHeight (svc.refreshWallet s.service).state).outcome = .error e := by
  rw [fst_refreshBoth]
  cases (svc.refreshWallet s.service).outcome <;> simp [Except.bind]

theorem refresh_of_justCreated {e : WalletExport} (h : s.dashboard.mode = .justCreated e) :
    s.refresh svc = (true, s) := by
  simp only [refresh, h]

theorem refresh_of_noWallet (h : s.dashboard.mode = .noWallet) : s.refresh svc = s.load svc := by
  simp only [refresh, h]

theorem refresh_of_ok {w : Wallet} {height : UInt64} (hm : s.dashboard.mode = .active w)
    (h : (s.refreshBoth svc).1 = .ok height) :
    s.refresh svc =
      ((s.refreshBoth svc).2.onDashboard ({ · with blockHeight := some height })).load svc := by
  have hr : s.refreshBoth svc = (.ok height, (s.refreshBoth svc).2) := by rw [← h]
  simp only [refresh, hm]
  rw [hr]

theorem refresh_of_error {w : Wallet} {e : Failure} (hm : s.dashboard.mode = .active w)
    (h : (s.refreshBoth svc).1 = .error e) :
    s.refresh svc = (false, (s.refreshBoth svc).2.notifyFailure e) := by
  have hr : s.refreshBoth svc = (.error e, (s.refreshBoth svc).2) := by rw [← h]
  simp only [refresh, hm]
  rw [hr]

theorem confirmSwitch_of_closed (h : s.dashboard.switch = .closed) :
    s.confirmSwitch svc = s := by
  rcases s with ⟨d, service, outbox, log⟩
  rcases d with ⟨size, mode, blocks, rewards, cursor, switch, height, refreshing⟩
  cases h
  rfl

theorem confirmSwitch_of_ok (hs : s.dashboard.switch = .opened)
    (h : (svc.logout s.service).outcome = .ok ()) :
    s.confirmSwitch svc =
      ((((s.onDashboard ({ · with switch := .closed })).ask svc.logout).2.write
        [⟨.info, "[Dashboard] Logged out, ready for another wallet"⟩]).load svc).2 := by
  simp only [confirmSwitch, SwitchConfirm.confirm, SwitchConfirm.isOpen, hs, BEq.rfl, if_true, ask,
    service_onDashboard, h]

theorem confirmSwitch_of_error {e : Failure} (hs : s.dashboard.switch = .opened)
    (h : (svc.logout s.service).outcome = .error e) :
    s.confirmSwitch svc =
      ((((s.onDashboard ({ · with switch := .closed })).ask svc.logout).2.notifyFailure
        e).load svc).2 := by
  simp only [confirmSwitch, SwitchConfirm.confirm, SwitchConfirm.isOpen, hs, BEq.rfl, if_true, ask,
    service_onDashboard, h]

end Answers

end Session

/-! ### The moves that operations are made of -/

/-- One change of the dashboard and of the state of the service in the course of an operation. -/
inductive Move {σ : Type} (svc : WalletService σ) : Dashboard × σ → Dashboard × σ → Prop
  /-- The service is called, and the dashboard makes nothing of it. -/
  | call (d : Dashboard) (m : σ) (c : ServiceCall) : Move svc (d, m) (d, (svc.call c m).state)
  /-- The wallet of the service is shown. -/
  | showWallet (d : Dashboard) (m : σ) (wallet : Option Wallet)
      (h : (svc.getWallet m).outcome = .ok wallet) :
      Move svc (d, m) (d.turnTo (Mode.ofWallet? wallet), (svc.getWallet m).state)
  /-- The secrets of a new wallet are shown. -/
  | showSecrets (d : Dashboard) (m : σ) (e : WalletExport)
      (h : (svc.createWallet m).outcome = .ok e) :
      Move svc (d, m) (d.turnTo (.justCreated e), (svc.createWallet m).state)
  /-- The recent blocks are loaded. -/
  | loadBlocks (d : Dashboard) (m : σ) (address : String) (blocks : List Block)
      (ha : d.mode.address? = some address) (h : (svc.recentBlocks m).outcome = .ok blocks) :
      Move svc (d, m) (d.setBlocks blocks, (svc.recentBlocks m).state)
  /-- There is no address to look for in blocks. -/
  | clearBlocks (d : Dashboard) (m : σ) (ha : d.mode.address? = none) :
      Move svc (d, m) (d.setBlocks [], m)
  /-- The block height is noted down. -/
  | noteHeight (d : Dashboard) (m : σ) (height : UInt64)
      (h : (svc.refreshBlockHeight m).outcome = .ok height) :
      Move svc (d, m) ({ d with blockHeight := some height }, (svc.refreshBlockHeight m).state)
  /-- While a refresh is going on nothing but the mark of it changes on the dashboard. -/
  | settle (d : Dashboard) (m : σ) : Move svc (d, m) ({ d with refreshing := false }, m)
  | switch (d : Dashboard) (m : σ) (switch : SwitchConfirm) :
      Move svc (d, m) ({ d with switch }, m)
  | nextPage (d : Dashboard) (m : σ) : Move svc (d, m) (d.nextPage, m)
  | previousPage (d : Dashboard) (m : σ) : Move svc (d, m) (d.previousPage, m)
  | jumpToPage (d : Dashboard) (m : σ) (page : Int) : Move svc (d, m) (d.jumpToPage page, m)

/-- Some moves, one after another. -/
abbrev Moves {σ : Type} (svc : WalletService σ) : Dashboard × σ → Dashboard × σ → Prop :=
  Relation.ReflTransGen (Move svc)

/-- What no move breaks, no moves break. -/
theorem Moves.keeps {σ : Type} {svc : WalletService σ} {P : Dashboard × σ → Prop}
    (hmove : ∀ x y, Move svc x y → P x → P y) {x y : Dashboard × σ} (h : Moves svc x y)
    (hx : P x) : P y := by
  induction h with
  | refl => exact hx
  | tail _ hyz ih => exact hmove _ _ hyz ih

/-- Whatever no call to the service breaks, no move breaks. -/
theorem Move.keeps_service {σ : Type} {svc : WalletService σ} {Q : σ → Prop}
    (hcall : ∀ c m, Q m → Q (svc.call c m).state) {x y : Dashboard × σ} (h : Move svc x y)
    (hx : Q x.2) : Q y.2 := by
  cases h with
  | call d m c => exact hcall c m hx
  | showWallet d m => exact hcall .getWallet m hx
  | showSecrets d m => exact hcall .createWallet m hx
  | loadBlocks d m => exact hcall .recentBlocks m hx
  | noteHeight d m => exact hcall .refreshBlockHeight m hx
  | clearBlocks | settle | switch | nextPage | previousPage | jumpToPage => exact hx

namespace Session

variable {σ κ : Type}

/-- The dashboard and the state of the service. -/
def core (s : Session σ) : Dashboard × σ := (s.dashboard, s.service)

section Moving

variable (svc : WalletService σ) (s : Session σ)

@[simp] theorem core_notify (n : Notice) : (s.notify n).core = s.core := by simp [core]

@[simp] theorem core_notifyFailure (e : Failure) : (s.notifyFailure e).core = s.core := by
  simp [core]

@[simp] theorem core_turnTo (mode : Mode) :
    (s.turnTo mode).core = (s.dashboard.turnTo mode, s.service) := by
  simp [core]

theorem core_refreshBoth :
    (s.refreshBoth svc).2.core =
      ({ s.dashboard with refreshing := false },
        (svc.refreshBlockHeight (svc.refreshWallet s.service).state).state) := by
  rw [core, dashboard_refreshBoth, service_refreshBoth]

theorem reloadBlocks_moves : Moves svc s.core (s.reloadBlocks svc).2.core := by
  cases ha : s.dashboard.mode.address? with
  | none =>
    rw [reloadBlocks_of_none ha]
    exact .single (.clearBlocks _ _ ha)
  | some address =>
    cases hb : (svc.recentBlocks s.service).outcome with
    | ok blocks =>
      rw [reloadBlocks_of_ok ha hb]
      exact .single (.loadBlocks _ _ address blocks ha hb)
    | error e =>
      rw [reloadBlocks_of_error ha hb]
      exact .single (.call _ _ .recentBlocks)

theorem core_load : (s.load svc).2.core = (s.tryLoad svc).2.core := by
  rcases hl : s.tryLoad svc with ⟨_ | _, s'⟩
  · rw [load_of_error hl, core_notifyFailure]
  · rw [load_of_ok hl]

theorem load_moves : Moves svc s.core (s.load svc).2.core := by
  rw [core_load]
  cases hw : (svc.getWallet s.service).outcome with
  | ok wallet =>
    rw [tryLoad_of_ok hw]
    refine .trans (.single (.showWallet _ _ wallet hw)) ?_
    have hm := reloadBlocks_moves svc ((s.ask svc.getWallet).2.turnTo (Mode.ofWallet? wallet))
    rwa [core_turnTo] at hm
  | error e =>
    rw [tryLoad_of_error hw]
    exact .single (.call _ _ .getWallet)

theorem createWallet_moves : Moves svc s.core (s.createWallet svc).core := by
  cases h : (svc.createWallet s.service).outcome with
  | ok e =>
    rw [createWallet_of_ok h, core_turnTo, dashboard_notify, service_notify]
    exact .single (.showSecrets _ _ e h)
  | error e =>
    rw [createWallet_of_error h, core_notifyFailure]
    exact .single (.call _ _ .createWallet)

theorem acknowledgeExport_moves : Moves svc s.core (s.acknowledgeExport svc).core := by
  unfold acknowledgeExport
  split
  · exact load_moves svc s
  · exact .refl

theorem importWallet_moves (key : String) : Moves svc s.core (s.importWallet svc key).2.core := by
  by_cases hk : Text.trim key = ""
  · rw [importWallet_of_blank hk, core_notifyFailure]
  · have hc : Moves svc s.core (s.dashboard, (svc.importWallet (Text.trim key) s.service).state) :=
      .single (.call _ _ (.importWallet (Text.trim key)))
    cases h : (svc.importWallet (Text.trim key) s.service).outcome with
    | ok _ =>
      rw [importWallet_of_ok hk h]
      refine hc.trans ?_
      have hl := load_moves svc
        ((s.ask (svc.importWallet (Text.trim key))).2.notify (.info "Wallet imported."))
      rwa [core_notify] at hl
    | error e =>
      rw [importWallet_of_error hk h, core_notifyFailure]
      exact hc

theorem importOnStartup_moves (key : String) :
    Moves svc s.core (s.importOnStartup svc key).2.core := by
  have hl := load_moves svc s
  unfold importOnStartup
  split
  · next h => rwa [h] at hl
  · next s' h =>
    rw [h] at hl
    split
    · exact hl
    · exact hl.trans (importWallet_moves svc s' key)

theorem refresh_moves : Moves svc s.core (s.refresh svc).2.core := by
  cases hm : s.dashboard.mode with
  | justCreated e => rw [refresh_of_justCreated hm]
  | noWallet =>
    rw [refresh_of_noWallet hm]
    exact load_moves svc s
  | active w =>
    have hw : Moves svc s.core (s.dashboard, (svc.refreshWallet s.service).state) :=
      .single (.call _ _ .refreshWallet)
    cases h : (s.refreshBoth svc).1 with
    | ok height =>
      rw [refresh_of_ok hm h]
      obtain ⟨-, hh⟩ := fst_refreshBoth_eq_ok_iff.mp h
      have hn := (hw.tail (.noteHeight _ _ height hh)).tail (.settle _ _)
      refine hn.trans ?_
      have hl := load_moves svc
        ((s.refreshBoth svc).2.onDashboard ({ · with blockHeight := some height }))
      rwa [core, dashboard_onDashboard, service_onDashboard, dashboard_refreshBoth,
        service_refreshBoth] at hl
    | error e =>
      rw [refresh_of_error hm h, core_notifyFailure, core_refreshBoth]
      exact (hw.tail (.call _ _ .refreshBlockHeight)).tail (.settle _ _)

theorem confirmSwitch_moves : Moves svc s.core (s.confirmSwitch svc).core := by
  cases hsw : s.dashboard.switch with
  | closed => rw [confirmSwitch_of_closed hsw]
  | opened =>
    have hc : Moves svc s.core
        ({ s.dashboard with switch := .closed }, (svc.logout s.service).state) :=
      .tail (.single (.switch _ _ .closed)) (.call _ _ .logout)
    refine hc.trans ?_
    cases h : (svc.logout s.service).outcome with
    | ok _ =>
      rw [confirmSwitch_of_ok hsw h]
      exact load_moves svc
        (((s.onDashboard ({ · with switch := .closed })).ask svc.logout).2.write _)
    | error e =>
      rw [confirmSwitch_of_error hsw h]
      have hl := load_moves svc
        (((s.onDashboard ({ · with switch := .closed })).ask svc.logout).2.notifyFailure e)
      rwa [core_notifyFailure] at hl

/-- **Every operation is made of moves.** -/
theorem perform_moves (a : Action) : Moves svc s.core (s.perform svc a).2.core := by
  cases a <;> simp only [perform, Prod.map_snd, id_eq]
  case load => exact load_moves svc s
  case refresh => exact refresh_moves svc s
  case importWallet key => exact importWallet_moves svc s key
  case importOnStartup key => exact importOnStartup_moves svc s key
  case createWallet => exact createWallet_moves svc s
  case acknowledgeExport => exact acknowledgeExport_moves svc s
  case requestSwitch => exact .single (.switch _ _ .opened)
  case cancelSwitch => exact .single (.switch _ _ .closed)
  case confirmSwitch => exact confirmSwitch_moves svc s
  case nextPage => exact .single (.nextPage _ _)
  case previousPage => exact .single (.previousPage _ _)
  case jumpToPage page => exact .single (.jumpToPage _ _ page)

end Moving

/-- **What no move and no change from elsewhere breaks holds in every run.** -/
theorem run_keeps_core (svc : WalletService σ) (affect : κ → σ → σ) {P : Dashboard × σ → Prop}
    (hmove : ∀ x y, Move svc x y → P x → P y) (haffect : ∀ k d m, P (d, m) → P (d, affect k m))
    {s : Session σ} (hs : P s.core) (events : List (Event κ)) :
    P (s.run svc affect events).core := by
  refine run_keeps svc affect (P := fun s => P s.core) (fun s e hs => ?_) hs events
  cases e with
  | act a =>
    exact (perform_moves svc s a).keeps hmove hs
  | outside k => exact haffect k _ _ hs
  | readerLeaves => exact hs

end Session

end WalletDashboard
