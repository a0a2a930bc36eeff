import WalletDashboard.Proofs.Operations
import WalletDashboard.Service.Memory
import WalletDashboard.Service.Remote

/-!
# Refused requests and the secrets of a new wallet

While the secrets of a new wallet are shown, most operations change nothing about that: those that
ask for nothing, and those whose request the service refuses (`Session.Declines`). Only one of them
can still do so. If the user confirms the switch to another wallet and the service refuses to end
the session, the view is loaded anew all the same, and shows what the service answers as its wallet
(`Session.ReloadsWallet`).

`Session.secretsStay_run_iff` says so of every run of such operations: the secrets stay exactly if
no reload of this kind gets as far as the wallet.
-/

namespace WalletDashboard

/-- The view of a session or of no session, without secrets. -/
def Mode.IsPlain (m : Mode) : Prop := ∃ wallet, m = Mode.ofWallet? wallet

theorem Mode.IsPlain.ne_justCreated {m : Mode} (h : m.IsPlain) (e : WalletExport) :
    m ≠ .justCreated e := by
  obtain ⟨_ | w, rfl⟩ := h <;> exact Mode.noConfusion

namespace Session

variable {σ κ : Type} (svc : WalletService σ) (affect : κ → σ → σ)

/-- The operation asks the service for nothing, as long as secrets are shown, or its own request is
refused. -/
def Declines (s : Session σ) : Action → Prop
  | .createWallet => ∃ failure, (svc.createWallet s.service).outcome = .error failure
  | .importWallet key =>
    Text.trim key = "" ∨
      ∃ failure, (svc.importWallet (Text.trim key) s.service).outcome = .error failure
  | .confirmSwitch =>
    s.dashboard.switch = .closed ∨ ∃ failure, (svc.logout s.service).outcome = .error failure
  | .refresh | .requestSwitch | .cancelSwitch | .nextPage | .previousPage | .jumpToPage _ => True
  | .load | .importOnStartup _ | .acknowledgeExport => False

/-- The operation is a confirmed switch, and the load at its end gets an answer for the wallet. -/
def ReloadsWallet (s : Session σ) (a : Action) : Prop :=
  a = .confirmSwitch ∧ s.dashboard.switch = .opened ∧
    ∃ wallet, (svc.getWallet (svc.logout s.service).state).outcome = .ok wallet

/-- Every operation among the events is declined when its turn comes. -/
def DeclinesAll (s : Session σ) : List (Event κ) → Prop
  | [] => True
  | event :: events =>
    (∀ a, event = .act a → s.Declines svc a) ∧ (s.step svc affect event).2.DeclinesAll events

/-- In one of the operations among the events the load at its end gets as far as the wallet. -/
def ReloadsWalletIn (s : Session σ) : List (Event κ) → Prop
  | [] => False
  | event :: events =>
    (∃ a, event = .act a ∧ s.ReloadsWallet svc a) ∨
      (s.step svc affect event).2.ReloadsWalletIn events

variable {svc affect} {s : Session σ} {e : WalletExport}

/-! ### One operation -/

theorem isPlain_load (h : s.dashboard.mode.IsPlain) : (s.load svc).2.dashboard.mode.IsPlain := by
  cases hw : (svc.getWallet s.service).outcome with
  | ok wallet => exact ⟨wallet, mode_load_of_ok hw⟩
  | error failure => rwa [dashboard_load_of_error hw]

theorem isPlain_refresh (h : s.dashboard.mode.IsPlain) :
    (s.refresh svc).2.dashboard.mode.IsPlain := by
  cases hm : s.dashboard.mode with
  | justCreated e => exact absurd hm (h.ne_justCreated e)
  | noWallet =>
    rw [refresh_of_noWallet hm]
    exact isPlain_load h
  | active w =>
    cases hboth : (s.refreshBoth svc).1 with
    | ok height =>
      rw [refresh_of_ok hm hboth]
      refine isPlain_load ?_
      rwa [dashboard_onDashboard, dashboard_refreshBoth]
    | error failure =>
      rwa [refresh_of_error hm hboth, dashboard_notifyFailure, dashboard_refreshBoth]

theorem mode_createWallet_of_error {failure : Failure}
    (h : (svc.createWallet s.service).outcome = .error failure) :
    (s.createWallet svc).dashboard.mode = s.dashboard.mode := by
  rw [createWallet_of_error h, dashboard_notifyFailure, dashboard_ask]

theorem mode_importWallet_of_declined {key : String} (h : s.Declines svc (.importWallet key)) :
    (s.importWallet svc key).2.dashboard.mode = s.dashboard.mode := by
  by_cases hblank : Text.trim key = ""
  · rw [importWallet_of_blank hblank, dashboard_notifyFailure]
  · obtain ⟨failure, hrefused⟩ := h.resolve_left hblank
    rw [importWallet_of_error hblank hrefused, dashboard_notifyFailure, dashboard_ask]

/-- After a refused logout the mode is what the service answers as its wallet, if it answers. -/
theorem mode_confirmSwitch_of_ok {failure : Failure} {wallet : Option Wallet}
    (hs : s.dashboard.switch = .opened) (h : (svc.logout s.service).outcome = .error failure)
    (hw : (svc.getWallet (svc.logout s.service).state).outcome = .ok wallet) :
    (s.confirmSwitch svc).dashboard.mode = Mode.ofWallet? wallet := by
  rw [confirmSwitch_of_error hs h]
  refine mode_load_of_ok ?_
  rwa [service_notifyFailure, service_ask]

theorem mode_confirmSwitch_of_error {failure failure' : Failure}
    (hs : s.dashboard.switch = .opened) (h : (svc.logout s.service).outcome = .error failure)
    (hw : (svc.getWallet (svc.logout s.service).state).outcome = .error failure') :
    (s.confirmSwitch svc).dashboard.mode = s.dashboard.mode := by
  have hreload : (svc.getWallet (((s.onDashboard ({ · with switch := .closed })).ask
      svc.logout).2.notifyFailure failure).service).outcome = .error failure' := by
    rwa [service_notifyFailure, service_ask]
  rw [confirmSwitch_of_error hs h, dashboard_load_of_error hreload, dashboard_notifyFailure]
  rfl

/-- A declined operation leaves the secrets on the screen, unless the wallet is loaded anew. -/
theorem mode_perform_of_declined (hm : s.dashboard.mode = .justCreated e) {a : Action}
    (h : s.Declines svc a) (hstay : ¬s.ReloadsWallet svc a) :
    (s.perform svc a).2.dashboard.mode = .justCreated e := by
  cases a with
  | createWallet =>
    obtain ⟨failure, hrefused⟩ := h
    show (s.createWallet svc).dashboard.mode = .justCreated e
    rw [mode_createWallet_of_error hrefused, hm]
  | importWallet key =>
    simp only [perform, Prod.map_snd, id_eq]
    rw [mode_importWallet_of_declined h, hm]
  | confirmSwitch =>
    show (s.confirmSwitch svc).dashboard.mode = .justCreated e
    cases hs : s.dashboard.switch with
    | closed => rw [confirmSwitch_of_closed hs, hm]
    | opened =>
      obtain ⟨failure, hrefused⟩ := h.resolve_left (by rw [hs]; exact SwitchConfirm.noConfusion)
      cases hw : (svc.getWallet (svc.logout s.service).state).outcome with
      | ok wallet => exact absurd ⟨rfl, hs, wallet, hw⟩ hstay
      | error failure' => rw [mode_confirmSwitch_of_error hs hrefused hw, hm]
  | refresh =>
    show (s.refresh svc).2.dashboard.mode = .justCreated e
    rw [refresh_of_justCreated hm, hm]
  | requestSwitch | cancelSwitch | nextPage | previousPage | jumpToPage => exact hm
  | load | importOnStartup | acknowledgeExport => exact h.elim

/-- If it is, the secrets are gone. -/
theorem isPlain_perform_of_reloadsWallet {a : Action} (h : s.Declines svc a)
    (hgone : s.ReloadsWallet svc a) : (s.perform svc a).2.dashboard.mode.IsPlain := by
  obtain ⟨rfl, hs, wallet, hw⟩ := hgone
  obtain ⟨failure, hrefused⟩ := h.resolve_left (by rw [hs]; exact SwitchConfirm.noConfusion)
  exact ⟨wallet, mode_confirmSwitch_of_ok hs hrefused hw⟩

/-- No declined operation brings secrets to the screen. -/
theorem isPlain_perform_of_declined (hm : s.dashboard.mode.IsPlain) {a : Action}
    (h : s.Declines svc a) : (s.perform svc a).2.dashboard.mode.IsPlain := by
  cases a with
  | createWallet =>
    obtain ⟨failure, hrefused⟩ := h
    show (s.createWallet svc).dashboard.mode.IsPlain
    rwa [mode_createWallet_of_error hrefused]
  | importWallet key =>
    simp only [perform, Prod.map_snd, id_eq]
    rwa [mode_importWallet_of_declined h]
  | confirmSwitch =>
    show (s.confirmSwitch svc).dashboard.mode.IsPlain
    cases hs : s.dashboard.switch with
    | closed => rwa [confirmSwitch_of_closed hs]
    | opened =>
      obtain ⟨failure, hrefused⟩ := h.resolve_left (by rw [hs]; exact SwitchConfirm.noConfusion)
      cases hw : (svc.getWallet (svc.logout s.service).state).outcome with
      | ok wallet => exact ⟨wallet, mode_confirmSwitch_of_ok hs hrefused hw⟩
      | error failure' => rwa [mode_confirmSwitch_of_error hs hrefused hw]
  | refresh => exact isPlain_refresh hm
  | requestSwitch | cancelSwitch | nextPage | previousPage | jumpToPage => exact hm
  | load | importOnStartup | acknowledgeExport => exact h.elim

/-! ### Runs -/

theorem isPlain_run_of_declined {s : Session σ} (hm : s.dashboard.mode.IsPlain)
    {events : List (Event κ)} (h : s.DeclinesAll svc affect events) :
    (s.run svc affect events).dashboard.mode.IsPlain := by
  induction events generalizing s with
  | nil => exact hm
  | cons event events ih =>
    obtain ⟨hdeclined, hrest⟩ := h
    refine ih ?_ hrest
    cases event with
    | act a => exact isPlain_perform_of_declined hm (hdeclined a rfl)
    | outside | readerLeaves => exact hm

/-- **Refused requests do not discard the secrets of a new wallet, but for one.** In a run of
operations that ask for nothing or are refused, with any changes of the service in between, the
secrets stay on the screen exactly if no load after a refused logout gets as far as the wallet of
the service. (One operation is a run of one event.) -/
theorem secretsStay_run_iff (svc : WalletService σ) (affect : κ → σ → σ) {s : Session σ}
    {e : WalletExport} (hm : s.dashboard.mode = .justCreated e) {events : List (Event κ)}
    (h : s.DeclinesAll svc affect events) :
    (s.run svc affect events).dashboard.mode = .justCreated e ↔
      ¬s.ReloadsWalletIn svc affect events := by
  induction events generalizing s with
  | nil => exact ⟨fun _ hgone => hgone, fun _ => hm⟩
  | cons event events ih =>
    obtain ⟨hdeclined, hrest⟩ := h
    by_cases hgone : ∃ a, event = .act a ∧ s.ReloadsWallet svc a
    · -- Once the secrets are gone, nothing that is declined brings them back.
      obtain ⟨a, rfl, ha⟩ := hgone
      have hplain := isPlain_run_of_declined
        (isPlain_perform_of_reloadsWallet (hdeclined a rfl) ha) hrest
      exact ⟨fun hstay => absurd hstay (hplain.ne_justCreated e),
        fun hnot => absurd (.inl ⟨a, rfl, ha⟩) hnot⟩
    · have hstep : (s.step svc affect event).2.dashboard.mode = .justCreated e := by
        cases event with
        | act a =>
          exact mode_perform_of_declined hm (hdeclined a rfl) fun ha => hgone ⟨a, rfl, ha⟩
        | outside | readerLeaves => exact hm
      rw [run_cons, ih hstep hrest, ReloadsWalletIn, or_iff_right hgone]

/-- No request gets as far as the node any more, also not the one for the wallet. -/
theorem secretsStay_run_unreachable :
    let svc := remoteService (fun _ n => (.broken "http://node/", n)) 50
    let s : Session Unit := (start ⟨2, by decide⟩ ()).turnTo (.justCreated ⟨"A", "aa", "acid"⟩)
    let events : List (Event Unit) :=
      [.act .refresh, .act .requestSwitch, .act (.importWallet " "), .act .confirmSwitch,
        .act .createWallet, .act (.importWallet "bb"), .outside (), .act .nextPage]
    s.dashboard.mode = .justCreated ⟨"A", "aa", "acid"⟩ ∧
      s.DeclinesAll svc (fun _ n => n) events ∧ ¬s.ReloadsWalletIn svc (fun _ n => n) events ∧
        (s.run svc (fun _ n => n) events).dashboard.mode = .justCreated ⟨"A", "aa", "acid"⟩ := by
  intro svc s events
  have hm : s.dashboard.mode = .justCreated ⟨"A", "aa", "acid"⟩ := rfl
  have hdeclined : s.DeclinesAll svc (fun _ n => n) events := by
    refine ⟨?_, ?_, ?_, ?_, ?_, ?_, ?_, ?_, trivial⟩ <;> rintro a ⟨⟩
    · trivial
    · trivial
    · exact .inl (by decide)
    · exact .inr ⟨_, rfl⟩
    · exact ⟨_, rfl⟩
    · exact .inr ⟨_, rfl⟩
    · trivial
  have hstay : ¬s.ReloadsWalletIn svc (fun _ n => n) events := by
    have hnever (s : Session Unit) (a : Action) : ¬s.ReloadsWallet svc a := by
      rintro ⟨-, -, wallet, hw⟩
      cases hw
    simp [events, ReloadsWalletIn, hnever]
  exact ⟨hm, hdeclined, hstay, (secretsStay_run_iff svc _ hm hdeclined).mpr hstay⟩

/-- The service in memory refuses to end the session, and the load that follows shows its wallet in
the place of the secrets. -/
theorem not_secretsStay_confirmSwitch_memory :
    let svc := MemoryState.service (fun _ => ⟨"A", "aa", "acid"⟩) 50
    let s := (start ⟨2, by decide⟩ {}).run svc (fun c m => MemoryState.apply m c)
      [.act .createWallet, .act .requestSwitch, .outside (.failLogout true)]
    s.dashboard.mode = .justCreated ⟨"A", "aa", "acid"⟩ ∧
      (svc.logout s.service).outcome = .error (.service "logout failed") ∧
      (s.perform svc .confirmSwitch).2.dashboard.mode = .active ⟨"A", 0⟩ ∧
      (s.perform svc .confirmSwitch).2.dashboard.mode ≠ .justCreated ⟨"A", "aa", "acid"⟩ := by
  intro svc s
  have hmode : (s.perform svc .confirmSwitch).2.dashboard.mode = .active ⟨"A", 0⟩ := by decide
  refine ⟨by decide, rfl, hmode, ?_⟩
  rw [hmode]
  exact Mode.noConfusion

end Session

end WalletDashboard
