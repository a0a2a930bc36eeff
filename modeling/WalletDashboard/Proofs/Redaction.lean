import WalletDashboard.Dashboard.View
import WalletDashboard.Proofs.Operations

/-!
# Sessions with the secrets left out

The secrets of a new wallet are blotted out of everything that can hold them: exports, modes,
dashboards, and sessions (`Session.redacted`), given how it is done in the state of the service.

A service redacts another one if it does to redacted states what the other does, and answers the
same but for the secrets (`WalletService.Redacts`). Working with the dashboard on such a service is
the same as working with it first and blotting out the secrets then (`Session.perform_redacted`). An
operation that imports a wallet has to come to the same on both, since a key is a secret itself.
-/

namespace WalletDashboard

/-! ### Blotting out secrets -/

/-- The export without its secrets. -/
def WalletExport.redacted (e : WalletExport) : WalletExport :=
  { e with privateKey := "", mnemonic := "" }

/-- The mode without secrets. -/
def Mode.redacted : Mode → Mode
  | .justCreated e => .justCreated e.redacted
  | .noWallet => .noWallet
  | .active w => .active w

namespace Mode

@[simp] theorem wallet?_redacted (m : Mode) : m.redacted.wallet? = m.wallet? := by cases m <;> rfl

@[simp] theorem address?_redacted (m : Mode) : m.redacted.address? = m.address? := by
  rw [address?, wallet?_redacted, address?]

/-- A mode that is written out has its secrets left out already. -/
@[simp] theorem describe_redacted (m : Mode) : m.redacted.describe = m.describe := by
  cases m <;> rfl

@[simp] theorem redacted_ofWallet? (w : Option Wallet) : (ofWallet? w).redacted = ofWallet? w := by
  cases w <;> rfl

theorem redacted_eq_self {m : Mode} (h : ∀ e, m ≠ .justCreated e) : m.redacted = m := by
  cases m with
  | justCreated e => exact absurd rfl (h e)
  | noWallet | active => rfl

end Mode

/-- The dashboard without secrets. -/
def Dashboard.redacted (d : Dashboard) : Dashboard := { d with mode := d.mode.redacted }

namespace Dashboard

@[simp] theorem mode_redacted (d : Dashboard) : d.redacted.mode = d.mode.redacted := rfl

theorem redacted_eq_self {d : Dashboard} (h : ∀ e, d.mode ≠ .justCreated e) : d.redacted = d := by
  rw [redacted, Mode.redacted_eq_self h]

theorem redacted_turnTo (mode : Mode) (d : Dashboard) :
    (d.turnTo mode).redacted = d.redacted.turnTo mode.redacted := by
  simp [turnTo, refeed, redacted]

theorem redacted_setBlocks (blocks : List Block) (d : Dashboard) :
    (d.setBlocks blocks).redacted = d.redacted.setBlocks blocks := by
  simp [setBlocks, refeed, redacted]

end Dashboard

/-- The answer without secrets. -/
def ServiceAnswer.redacted : ServiceAnswer → ServiceAnswer
  | .secrets e => .secrets e.redacted
  | a => a

/-- Stands for a key that is left out. -/
def redactedKey : String := "key"

/-- The call without the key that it hands over, if it does. -/
def ServiceCall.redacted : ServiceCall → ServiceCall
  | .importWallet _ => .importWallet redactedKey
  | c => c

/-- The operation without the key that the user gave, if one was given. -/
def Action.redacted : Action → Action
  | .importWallet _ => .importWallet redactedKey
  | .importOnStartup _ => .importOnStartup redactedKey
  | a => a

/-! ### Services that can be told apart by secrets only -/

variable {σ τ α β : Type}

/-- The reply with its value and its state seen in another way. -/
def Reply.seenAs (ρ : σ → τ) (f : α → β) (r : Reply σ α) : Reply τ β :=
  { outcome := r.outcome.map f, state := ρ r.state, log := r.log }

/-- In the states that `ρ` makes of those of `svc`, the service `svc'` does what `svc` does, except
for imports, and answers the same but for the secrets. -/
structure WalletService.Redacts (ρ : σ → τ) (svc : WalletService σ) (svc' : WalletService τ) :
    Prop where
  getWallet (m : σ) : svc'.getWallet (ρ m) = (svc.getWallet m).seenAs ρ id
  createWallet (m : σ) :
    svc'.createWallet (ρ m) = (svc.createWallet m).seenAs ρ WalletExport.redacted
  refreshWallet (m : σ) : svc'.refreshWallet (ρ m) = (svc.refreshWallet m).seenAs ρ id
  refreshBlockHeight (m : σ) :
    svc'.refreshBlockHeight (ρ m) = (svc.refreshBlockHeight m).seenAs ρ id
  logout (m : σ) : svc'.logout (ρ m) = (svc.logout m).seenAs ρ id
  recentBlocks (m : σ) : svc'.recentBlocks (ρ m) = (svc.recentBlocks m).seenAs ρ id

/-- What an import of the dashboard comes to: a blank key is refused without asking the service. -/
def WalletService.imports (svc : WalletService σ) (key : String) (m : σ) : Reply σ Unit :=
  if Text.trim key = "" then .refuse .invalidKey m else svc.importWallet (Text.trim key) m

theorem Reply.outcome_seenAs_id (ρ : σ → τ) (r : Reply σ α) :
    (r.seenAs ρ id).outcome = r.outcome :=
  congrFun Except.map_id r.outcome

theorem Reply.wrap_seenAs_id (ρ : σ → τ) (r : Reply σ α) {g : α → ServiceAnswer}
    (h : ∀ a, (g a).redacted = g a) :
    (r.seenAs ρ id).wrap g = (r.wrap g).seenAs ρ ServiceAnswer.redacted := by
  obtain ⟨_ | a, m, log⟩ := r
  · rfl
  · simp [seenAs, wrap, Except.map, h]

/-- Direct calls are answered the same but for the secrets. -/
theorem WalletService.Redacts.call {ρ : σ → τ} {svc : WalletService σ} {svc' : WalletService τ}
    (h : svc.Redacts ρ svc') (c : ServiceCall) {m : σ}
    (himport : ∀ key, c = .importWallet key →
      svc'.importWallet redactedKey (ρ m) = (svc.importWallet key m).seenAs ρ id) :
    svc'.call c.redacted (ρ m) = (svc.call c m).seenAs ρ ServiceAnswer.redacted := by
  cases c <;> simp only [ServiceCall.redacted, WalletService.call]
  case getWallet =>
    rw [h.getWallet, Reply.wrap_seenAs_id]
    intro w
    cases w <;> rfl
  case createWallet =>
    rw [h.createWallet]
    obtain ⟨_ | e, m, log⟩ := svc.createWallet m <;> rfl
  case importWallet key => rw [himport key rfl, Reply.wrap_seenAs_id]; exact fun _ => rfl
  case refreshWallet => rw [h.refreshWallet, Reply.wrap_seenAs_id]; exact fun _ => rfl
  case refreshBlockHeight => rw [h.refreshBlockHeight, Reply.wrap_seenAs_id]; exact fun _ => rfl
  case logout => rw [h.logout, Reply.wrap_seenAs_id]; exact fun _ => rfl
  case recentBlocks => rw [h.recentBlocks, Reply.wrap_seenAs_id]; exact fun _ => rfl

namespace Session

/-- The session without secrets. -/
def redacted (ρ : σ → τ) (s : Session σ) : Session τ :=
  { dashboard := s.dashboard.redacted, service := ρ s.service, outbox := s.outbox, log := s.log }

section Parts

variable (ρ : σ → τ) (s : Session σ)

@[simp] theorem dashboard_redacted : (s.redacted ρ).dashboard = s.dashboard.redacted := rfl

@[simp] theorem service_redacted : (s.redacted ρ).service = ρ s.service := rfl

theorem redacted_onDashboard {f f' : Dashboard → Dashboard}
    (h : ∀ d : Dashboard, (f d).redacted = f' d.redacted) :
    (s.onDashboard f).redacted ρ = (s.redacted ρ).onDashboard f' := by
  simp [onDashboard, redacted, h]

@[simp] theorem redacted_write (lines : List LogLine) :
    (s.write lines).redacted ρ = (s.redacted ρ).write lines := rfl

@[simp] theorem redacted_notify (n : Notice) :
    (s.notify n).redacted ρ = (s.redacted ρ).notify n := by
  obtain ⟨d, m, ⟨_ | _, unread⟩, log⟩ := s <;> rfl

@[simp] theorem redacted_notifyFailure (e : Failure) :
    (s.notifyFailure e).redacted ρ = (s.redacted ρ).notifyFailure e :=
  redacted_notify ρ (s.write _) _

@[simp] theorem redacted_turnTo (mode : Mode) :
    (s.turnTo mode).redacted ρ = (s.redacted ρ).turnTo mode.redacted := by
  have hturn := fun t : Session σ =>
    redacted_onDashboard ρ t (f := (·.turnTo mode)) (Dashboard.redacted_turnTo mode)
  simp only [turnTo, hturn, dashboard_redacted, Dashboard.mode_redacted, Mode.address?_redacted]
  split <;> rfl

end Parts

/-! ### The operations on sessions without secrets -/

section Operations

variable {ρ : σ → τ} {s : Session σ} {svc : WalletService σ} {svc' : WalletService τ}

theorem ask_redacted {f : α → β} {operation : σ → Reply σ α} {operation' : τ → Reply τ β}
    (h : operation' (ρ s.service) = (operation s.service).seenAs ρ f) :
    (s.redacted ρ).ask operation' =
      ((s.ask operation).1.map f, (s.ask operation).2.redacted ρ) := by
  rw [ask, service_redacted, h]
  rfl

theorem reloadBlocks_redacted (h : svc.Redacts ρ svc') :
    (s.redacted ρ).reloadBlocks svc' =
      ((s.reloadBlocks svc).1, (s.reloadBlocks svc).2.redacted ρ) := by
  have ha' : (s.redacted ρ).dashboard.mode.address? = s.dashboard.mode.address? :=
    Mode.address?_redacted _
  have hb' : (svc'.recentBlocks (s.redacted ρ).service).outcome =
      (svc.recentBlocks s.service).outcome := by
    rw [service_redacted, h.recentBlocks, Reply.outcome_seenAs_id]
  cases ha : s.dashboard.mode.address? with
  | none =>
    rw [reloadBlocks_of_none ha, reloadBlocks_of_none (ha'.trans ha),
      redacted_onDashboard _ _ (Dashboard.redacted_setBlocks [])]
  | some address =>
    cases hb : (svc.recentBlocks s.service).outcome with
    | ok blocks =>
      rw [reloadBlocks_of_ok ha hb, reloadBlocks_of_ok (ha'.trans ha) (hb'.trans hb),
        ask_redacted (h.recentBlocks _),
        redacted_onDashboard _ _ (Dashboard.redacted_setBlocks blocks)]
    | error e =>
      rw [reloadBlocks_of_error ha hb, reloadBlocks_of_error (ha'.trans ha) (hb'.trans hb),
        ask_redacted (h.recentBlocks _)]

theorem outcome_getWallet_redacted (h : svc.Redacts ρ svc') :
    (svc'.getWallet (s.redacted ρ).service).outcome = (svc.getWallet s.service).outcome := by
  rw [service_redacted, h.getWallet, Reply.outcome_seenAs_id]

theorem tryLoad_redacted (h : svc.Redacts ρ svc') :
    (s.redacted ρ).tryLoad svc' = ((s.tryLoad svc).1, (s.tryLoad svc).2.redacted ρ) := by
  have hw' := outcome_getWallet_redacted (s := s) h
  cases hw : (svc.getWallet s.service).outcome with
  | error e =>
    rw [tryLoad_of_error hw, tryLoad_of_error (hw'.trans hw), ask_redacted (h.getWallet _)]
  | ok wallet =>
    rw [tryLoad_of_ok hw, tryLoad_of_ok (hw'.trans hw), ask_redacted (h.getWallet _),
      ← reloadBlocks_redacted h, redacted_turnTo, Mode.redacted_ofWallet?]

theorem load_redacted (h : svc.Redacts ρ svc') :
    (s.redacted ρ).load svc' = ((s.load svc).1, (s.load svc).2.redacted ρ) := by
  rw [load, tryLoad_redacted h, load]
  rcases s.tryLoad svc with ⟨_ | _, s'⟩
  · simp only [settleOutcome, redacted_notifyFailure]
  · rfl

theorem createWallet_redacted (h : svc.Redacts ρ svc') :
    (s.redacted ρ).createWallet svc' = (s.createWallet svc).redacted ρ := by
  have ho' : (svc'.createWallet (s.redacted ρ).service).outcome =
      (svc.createWallet s.service).outcome.map WalletExport.redacted := by
    rw [service_redacted, h.createWallet]
    rfl
  cases ho : (svc.createWallet s.service).outcome with
  | error e =>
    rw [createWallet_of_error ho, createWallet_of_error (by rw [ho', ho]; rfl),
      ask_redacted (h.createWallet _), redacted_notifyFailure]
  | ok e =>
    rw [createWallet_of_ok ho, createWallet_of_ok (by rw [ho', ho]; rfl),
      ask_redacted (h.createWallet _), redacted_turnTo, redacted_notify, redacted_write]
    rfl

theorem acknowledgeExport_redacted (h : svc.Redacts ρ svc') :
    (s.redacted ρ).acknowledgeExport svc' = (s.acknowledgeExport svc).redacted ρ := by
  cases hm : s.dashboard.mode <;>
    simp [acknowledgeExport, hm, Mode.redacted, load_redacted h]

theorem write_nil : s.write [] = s := by
  simp [write]

/-- An import asks for what it comes to, whether the key is blank or not. -/
theorem importWallet_eq (key : String) :
    s.importWallet svc key =
      match s.ask (svc.imports key) with
      | (.ok _, s) => (s.notify (.info "Wallet imported.")).load svc
      | (.error e, s) => (false, s.notifyFailure e) := by
  by_cases hk : Text.trim key = ""
  · have hask : s.ask (svc.imports key) = (.error .invalidKey, s) := by
      simp only [ask, WalletService.imports, if_pos hk, Reply.refuse, write_nil]
    rw [importWallet_of_blank hk, hask]
  · have hask : s.ask (svc.imports key) = s.ask (svc.importWallet (Text.trim key)) := by
      simp only [ask, WalletService.imports, if_neg hk]
    rw [hask]
    exact if_neg hk

theorem importWallet_redacted (h : svc.Redacts ρ svc') {key key' : String}
    (hi : svc'.imports key' (ρ s.service) = (svc.imports key s.service).seenAs ρ id) :
    (s.redacted ρ).importWallet svc' key' =
      ((s.importWallet svc key).1, (s.importWallet svc key).2.redacted ρ) := by
  rw [importWallet_eq, importWallet_eq, ask_redacted hi]
  rcases s.ask (svc.imports key) with ⟨_ | _, s'⟩
  · simp only [Except.map, redacted_notifyFailure]
  · simp only [Except.map, ← load_redacted h, redacted_notify]

theorem importOnStartup_redacted (h : svc.Redacts ρ svc') {key key' : String}
    (hi : (svc.getWallet s.service).outcome = .ok none →
      svc'.imports key' (ρ (svc.getWallet s.service).state) =
        (svc.imports key (svc.getWallet s.service).state).seenAs ρ id) :
    (s.redacted ρ).importOnStartup svc' key' =
      ((s.importOnStartup svc key).1, (s.importOnStartup svc key).2.redacted ρ) := by
  have hw' := outcome_getWallet_redacted (s := s) h
  cases hw : (svc.getWallet s.service).outcome with
  | error e =>
    rw [importOnStartup_of_error hw, importOnStartup_of_error (hw'.trans hw), load_redacted h]
  | ok wallet =>
    cases wallet with
    | some w =>
      rw [importOnStartup_of_wallet hw, importOnStartup_of_wallet (hw'.trans hw), load_redacted h]
      dsimp only
      split <;> rfl
    | none =>
      rw [importOnStartup_of_none hw, importOnStartup_of_none (hw'.trans hw), load_redacted h,
        importWallet_redacted h]
      rw [service_load_of_none hw]
      exact hi hw

theorem refreshBoth_redacted (h : svc.Redacts ρ svc') :
    (s.redacted ρ).refreshBoth svc' =
      ((s.refreshBoth svc).1, (s.refreshBoth svc).2.redacted ρ) := by
  have hmark (b : Bool) (t : Session σ) :
      (t.redacted ρ).onDashboard ({ · with refreshing := b }) =
        (t.onDashboard ({ · with refreshing := b })).redacted ρ := rfl
  refine Prod.ext ?_ ?_
  · rw [fst_refreshBoth, fst_refreshBoth, service_redacted, h.refreshWallet,
      Reply.outcome_seenAs_id]
    refine congrArg (Except.bind _) (funext fun _ => ?_)
    show (svc'.refreshBlockHeight (ρ _)).outcome = _
    rw [h.refreshBlockHeight, Reply.outcome_seenAs_id]
  · rw [snd_refreshBoth, snd_refreshBoth, hmark, ask_redacted (h.refreshWallet _),
      ask_redacted (h.refreshBlockHeight _), hmark]

theorem refresh_redacted (h : svc.Redacts ρ svc') :
    (s.redacted ρ).refresh svc' = ((s.refresh svc).1, (s.refresh svc).2.redacted ρ) := by
  have hmode : (s.redacted ρ).dashboard.mode = s.dashboard.mode.redacted := rfl
  cases hm : s.dashboard.mode with
  | justCreated e =>
    rw [refresh_of_justCreated hm, refresh_of_justCreated (by rw [hmode, hm]; rfl)]
  | noWallet =>
    rw [refresh_of_noWallet hm, refresh_of_noWallet (by rw [hmode, hm]; rfl), load_redacted h]
  | active w =>
    have hm' : (s.redacted ρ).dashboard.mode = .active w := by rw [hmode, hm]; rfl
    have hb := refreshBoth_redacted (s := s) h
    have hb₁ := congrArg Prod.fst hb
    cases hr : (s.refreshBoth svc).1 with
    | ok height =>
      have hnote (t : Session σ) :
          (t.redacted ρ).onDashboard ({ · with blockHeight := some height }) =
            (t.onDashboard ({ · with blockHeight := some height })).redacted ρ := rfl
      rw [refresh_of_ok hm hr, refresh_of_ok hm' (hb₁.trans hr), hb, hnote, load_redacted h]
    | error e =>
      rw [refresh_of_error hm hr, refresh_of_error hm' (hb₁.trans hr), hb, redacted_notifyFailure]

theorem confirmSwitch_redacted (h : svc.Redacts ρ svc') :
    (s.redacted ρ).confirmSwitch svc' = (s.confirmSwitch svc).redacted ρ := by
  have hswitch : (s.redacted ρ).dashboard.switch = s.dashboard.switch := rfl
  have hclose : (s.redacted ρ).onDashboard ({ · with switch := .closed }) =
      (s.onDashboard ({ · with switch := .closed })).redacted ρ := rfl
  have ho' : (svc'.logout (s.redacted ρ).service).outcome = (svc.logout s.service).outcome := by
    rw [service_redacted, h.logout, Reply.outcome_seenAs_id]
  cases hs : s.dashboard.switch with
  | closed => rw [confirmSwitch_of_closed hs, confirmSwitch_of_closed (hswitch.trans hs)]
  | opened =>
    cases ho : (svc.logout s.service).outcome with
    | ok _ =>
      rw [confirmSwitch_of_ok hs ho, confirmSwitch_of_ok (hswitch.trans hs) (ho'.trans ho), hclose,
        ask_redacted (h.logout _), ← redacted_write, load_redacted h]
    | error e =>
      rw [confirmSwitch_of_error hs ho, confirmSwitch_of_error (hswitch.trans hs) (ho'.trans ho),
        hclose, ask_redacted (h.logout _), ← redacted_notifyFailure, load_redacted h]

/-- **An operation on a session without secrets comes to the same, without the secrets.** -/
theorem perform_redacted (h : svc.Redacts ρ svc') (a : Action)
    (himport : ∀ key, a = .importWallet key →
      svc'.imports redactedKey (ρ s.service) = (svc.imports key s.service).seenAs ρ id)
    (hstartup : ∀ key, a = .importOnStartup key →
      (svc.getWallet s.service).outcome = .ok none →
        svc'.imports redactedKey (ρ (svc.getWallet s.service).state) =
          (svc.imports key (svc.getWallet s.service).state).seenAs ρ id) :
    (s.redacted ρ).perform svc' a.redacted =
      ((s.perform svc a).1, (s.perform svc a).2.redacted ρ) := by
  have told (x : Bool × Session σ) :
      (x.1, x.2.redacted ρ).map some id =
        ((x.map some id).1, (x.map some id).2.redacted ρ) := rfl
  cases a <;> simp only [perform, Action.redacted]
  case load => rw [load_redacted h, told]
  case refresh => rw [refresh_redacted h, told]
  case importWallet key => rw [importWallet_redacted h (himport key rfl), told]
  case importOnStartup key => rw [importOnStartup_redacted h (hstartup key rfl), told]
  case createWallet => rw [createWallet_redacted h]
  case acknowledgeExport => rw [acknowledgeExport_redacted h]
  case confirmSwitch => rw [confirmSwitch_redacted h]
  case requestSwitch | cancelSwitch | nextPage | previousPage | jumpToPage => rfl

end Operations

/-! ### What is seen of a session -/

/-- Two sessions look the same, except for the secrets while these are on the screen. -/
structure LooksLike (s : Session σ) (t : Session τ) : Prop where
  mode : s.dashboard.mode.redacted = t.dashboard.mode.redacted
  describe_mode : s.dashboard.mode.describe = t.dashboard.mode.describe
  blocks : s.dashboard.blocks = t.dashboard.blocks
  rewards : s.dashboard.rewards = t.dashboard.rewards
  activity : s.dashboard.activity = t.dashboard.activity
  totalPages : s.dashboard.totalPages = t.dashboard.totalPages
  currentPage : s.dashboard.currentPage = t.dashboard.currentPage
  switch : s.dashboard.switch = t.dashboard.switch
  blockHeight : s.dashboard.blockHeight = t.dashboard.blockHeight
  refreshing : s.dashboard.refreshing = t.dashboard.refreshing
  view : (∀ e, s.dashboard.mode ≠ .justCreated e) → s.dashboard.view = t.dashboard.view
  outbox : s.outbox = t.outbox
  log : s.log = t.log

/-- Sessions look the same if they are the same without their secrets. -/
theorem looksLike_of_redacted_eq {υ : Type} {ρ : σ → υ} {ρ' : τ → υ} {s : Session σ}
    {t : Session τ} (h : s.redacted ρ = t.redacted ρ') : s.LooksLike t := by
  have hd : s.dashboard.redacted = t.dashboard.redacted := congrArg dashboard h
  have hm : s.dashboard.mode.redacted = t.dashboard.mode.redacted := congrArg Dashboard.mode hd
  have same {β : Type} (f : Dashboard → β) (hf : ∀ d : Dashboard, f d.redacted = f d) :
      f s.dashboard = f t.dashboard := by rw [← hf, hd, hf]
  refine
    { mode := hm
      describe_mode := ?_
      blocks := same Dashboard.blocks fun _ => rfl
      rewards := same Dashboard.rewards fun _ => rfl
      activity := same Dashboard.activity fun _ => rfl
      totalPages := same Dashboard.totalPages fun _ => rfl
      currentPage := same Dashboard.currentPage fun _ => rfl
      switch := same Dashboard.switch fun _ => rfl
      blockHeight := same Dashboard.blockHeight fun _ => rfl
      refreshing := same Dashboard.refreshing fun _ => rfl
      view := fun hs => ?_
      outbox := congrArg Session.outbox h
      log := congrArg Session.log h }
  · rw [← Mode.describe_redacted, hm, Mode.describe_redacted]
  · -- No secrets are on either screen, so nothing was blotted out.
    have ht : ∀ e, t.dashboard.mode ≠ .justCreated e := by
      intro e he
      rw [Mode.redacted_eq_self hs, he] at hm
      exact hs _ hm
    rw [← Dashboard.redacted_eq_self hs, hd, Dashboard.redacted_eq_self ht]

end Session

end WalletDashboard
