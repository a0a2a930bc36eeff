import WalletDashboard.Proofs.Operations

/-!
# What an operation changes on the dashboard

An operation begins with what the user does to the dashboard alone (`Action.onDashboard`): a step of
the switch or a turn to another page. What comes after that depends on the service, but it can only
be changes of four kinds (`Dashboard.Change`), and none of them moves the reader on or touches the
switch. `Session.perform_changes` says so of every operation.
-/

namespace WalletDashboard

namespace Dashboard

/-- A change that comes from what the service answers. -/
inductive Change : Dashboard → Dashboard → Prop
  | turnTo (d : Dashboard) (mode : Mode) : Change d (d.turnTo mode)
  | setBlocks (d : Dashboard) (blocks : List Block) : Change d (d.setBlocks blocks)
  | noteHeight (d : Dashboard) (height : UInt64) : Change d { d with blockHeight := some height }
  | settle (d : Dashboard) : Change d { d with refreshing := false }

/-- Some changes, one after another. -/
abbrev Changes : Dashboard → Dashboard → Prop := Relation.ReflTransGen Change

/-- What one change does not tell apart, no changes tell apart. -/
theorem Changes.keeps_value {α : Type} {f : Dashboard → α}
    (hf : ∀ d d', Change d d' → f d' = f d) {d d' : Dashboard} (h : Changes d d') :
    f d' = f d := by
  induction h with
  | refl => rfl
  | tail _ hc ih => exact (hf _ _ hc).trans ih

end Dashboard

/-- What the user does to the dashboard, before the service is asked for anything. -/
def Action.onDashboard : Action → Dashboard → Dashboard
  | .requestSwitch, d => { d with switch := d.switch.request }
  | .cancelSwitch, d => { d with switch := d.switch.cancel }
  | .confirmSwitch, d => { d with switch := d.switch.confirm.2 }
  | .nextPage, d => d.nextPage
  | .previousPage, d => d.previousPage
  | .jumpToPage page, d => d.jumpToPage page
  | _, d => d

namespace Session

variable {σ : Type} (svc : WalletService σ) (s : Session σ)

open Dashboard (Change Changes)

theorem load_changes : Changes s.dashboard (s.load svc).2.dashboard := by
  rcases dashboard_load_cases svc s with hd | ⟨wallet, -, hd | ⟨blocks, hd⟩⟩ <;> rw [hd]
  · exact .single (.turnTo _ _)
  · exact .tail (.single (.turnTo _ _)) (.setBlocks _ blocks)

theorem createWallet_changes : Changes s.dashboard (s.createWallet svc).dashboard := by
  cases h : (svc.createWallet s.service).outcome with
  | ok e =>
    rw [createWallet_of_ok h, dashboard_turnTo, dashboard_notify]
    exact .single (.turnTo _ _)
  | error e => rw [createWallet_of_error h, dashboard_notifyFailure, dashboard_ask]

theorem acknowledgeExport_changes :
    Changes s.dashboard (s.acknowledgeExport svc).dashboard := by
  unfold acknowledgeExport
  split
  · exact load_changes svc s
  · exact .refl

theorem importWallet_changes (key : String) :
    Changes s.dashboard (s.importWallet svc key).2.dashboard := by
  by_cases hk : Text.trim key = ""
  · rw [importWallet_of_blank hk, dashboard_notifyFailure]
  · cases h : (svc.importWallet (Text.trim key) s.service).outcome with
    | ok _ =>
      rw [importWallet_of_ok hk h]
      have hl := load_changes svc
        ((s.ask (svc.importWallet (Text.trim key))).2.notify (.info "Wallet imported."))
      rwa [dashboard_notify, dashboard_ask] at hl
    | error e => rw [importWallet_of_error hk h, dashboard_notifyFailure, dashboard_ask]

theorem importOnStartup_changes (key : String) :
    Changes s.dashboard (s.importOnStartup svc key).2.dashboard := by
  have hl := load_changes svc s
  cases h : (svc.getWallet s.service).outcome with
  | error e => rwa [importOnStartup_of_error h]
  | ok wallet =>
    cases wallet with
    | none =>
      rw [importOnStartup_of_none h]
      exact hl.trans (importWallet_changes svc _ key)
    | some w =>
      rw [importOnStartup_of_wallet h]
      split <;> exact hl

theorem refresh_changes : Changes s.dashboard (s.refresh svc).2.dashboard := by
  cases hm : s.dashboard.mode with
  | justCreated e => rw [refresh_of_justCreated hm]
  | noWallet =>
    rw [refresh_of_noWallet hm]
    exact load_changes svc s
  | active w =>
    have hb : Changes s.dashboard (s.refreshBoth svc).2.dashboard := by
      rw [dashboard_refreshBoth]
      exact .single (.settle _)
    cases h : (s.refreshBoth svc).1 with
    | ok height =>
      rw [refresh_of_ok hm h]
      exact (hb.tail (.noteHeight _ height)).trans (load_changes svc
        ((s.refreshBoth svc).2.onDashboard ({ · with blockHeight := some height })))
    | error e =>
      rw [refresh_of_error hm h, dashboard_notifyFailure]
      exact hb

theorem confirmSwitch_changes :
    Changes { s.dashboard with switch := .closed } (s.confirmSwitch svc).dashboard := by
  cases hs : s.dashboard.switch with
  | closed =>
    rw [confirmSwitch_of_closed hs, ← hs]
  | opened =>
    cases h : (svc.logout s.service).outcome with
    | ok _ =>
      rw [confirmSwitch_of_ok hs h]
      exact load_changes svc
        (((s.onDashboard ({ · with switch := .closed })).ask svc.logout).2.write _)
    | error e =>
      rw [confirmSwitch_of_error hs h]
      have hl := load_changes svc
        (((s.onDashboard ({ · with switch := .closed })).ask svc.logout).2.notifyFailure e)
      rwa [dashboard_notifyFailure] at hl

/-- **Every operation is what the user does, followed by changes that come from the service.** -/
theorem perform_changes (a : Action) :
    Changes (a.onDashboard s.dashboard) (s.perform svc a).2.dashboard := by
  cases a <;> simp only [perform, Action.onDashboard, Prod.map_snd, id_eq]
  case load => exact load_changes svc s
  case refresh => exact refresh_changes svc s
  case importWallet key => exact importWallet_changes svc s key
  case importOnStartup key => exact importOnStartup_changes svc s key
  case createWallet => exact createWallet_changes svc s
  case acknowledgeExport => exact acknowledgeExport_changes svc s
  case confirmSwitch => exact confirmSwitch_changes svc s
  case requestSwitch | cancelSwitch | nextPage | previousPage | jumpToPage => exact .refl

end Session

end WalletDashboard
