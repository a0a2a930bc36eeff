import WalletDashboard.Dashboard.View
import WalletDashboard.Proofs.PageTurning
import WalletDashboard.Proofs.Reporting
import WalletDashboard.Service.Memory

/-!
# What is on the screen after a load has failed

A load that fails should leave everything up that was shown before. But it shows the wallet of the
service as soon as it knows it, and may fail only then, at the blocks. So everything stays exactly if
the wallet cannot be had either, or is the one on the screen, its balance included
(`WalletService.ShowsWallet`). A refresh has noted down the block height by then, which has to be the
one that was shown (`WalletService.ShowsRefreshed`).

`Session.staysUp_run` says so of every load and refresh that fails, in every run.
-/

namespace WalletDashboard

/-- Everything that is seen of the dashboard is as it was. -/
structure Dashboard.StaysUp (d d' : Dashboard) : Prop where
  mode : d'.mode = d.mode
  rewards : d'.rewards = d.rewards
  page : d'.currentPage = d.currentPage
  height : d'.blockHeight = d.blockHeight
  switch : d'.switch = d.switch
  view : d'.view = d.view

theorem Dashboard.StaysUp.of_eq {d d' : Dashboard} (h : d' = d) : d.StaysUp d' := by
  subst h
  exact ⟨rfl, rfl, rfl, rfl, rfl, rfl⟩

namespace WalletService

variable {σ : Type} (svc : WalletService σ)

/-- The wallet of the service, if it can be had, is the one that is shown. -/
def ShowsWallet (d : Dashboard) (m : σ) : Prop :=
  ∀ wallet, (svc.getWallet m).outcome = .ok wallet → d.mode = Mode.ofWallet? wallet

/-- What a refresh finds out is shown already, as far as it gets: the block height and then the
wallet, if a wallet is shown, and else the wallet alone. -/
def ShowsRefreshed (d : Dashboard) (m : σ) : Prop :=
  match d.mode with
  | .active _ =>
    ∀ height, (svc.refreshWallet m).outcome = .ok () →
      (svc.refreshBlockHeight (svc.refreshWallet m).state).outcome = .ok height →
        d.blockHeight = some height ∧
          svc.ShowsWallet d (svc.refreshBlockHeight (svc.refreshWallet m).state).state
  | _ => svc.ShowsWallet d m

theorem showsRefreshed_of_active {d : Dashboard} {w : Wallet} (hm : d.mode = .active w) (m : σ) :
    svc.ShowsRefreshed d m ↔
      ∀ height, (svc.refreshWallet m).outcome = .ok () →
        (svc.refreshBlockHeight (svc.refreshWallet m).state).outcome = .ok height →
          d.blockHeight = some height ∧
            svc.ShowsWallet d (svc.refreshBlockHeight (svc.refreshWallet m).state).state := by
  simp only [ShowsRefreshed, hm]

theorem showsRefreshed_of_noWallet {d : Dashboard} (hm : d.mode = .noWallet) (m : σ) :
    svc.ShowsRefreshed d m ↔ svc.ShowsWallet d m := by
  simp only [ShowsRefreshed, hm]

end WalletService

namespace Session

variable {σ κ : Type} {svc : WalletService σ} {s : Session σ}

/-- Either there was no wallet to be had and the dashboard is as before, or the wallet is shown and
the blocks are missing. -/
theorem dashboard_load_of_eq_false (h : (s.load svc).1 = false) :
    (∃ e, (svc.getWallet s.service).outcome = .error e ∧
        (s.load svc).2.dashboard = s.dashboard) ∨
      ∃ w, (svc.getWallet s.service).outcome = .ok (some w) ∧
        (s.load svc).2.dashboard = s.dashboard.turnTo (.active w) := by
  cases hw : (svc.getWallet s.service).outcome with
  | error e => exact .inl ⟨e, rfl, dashboard_load_of_error hw⟩
  | ok wallet =>
    cases wallet with
    | none =>
      rw [load_of_none hw] at h
      cases h
    | some w =>
      cases hb : (svc.recentBlocks (svc.getWallet s.service).state).outcome with
      | ok blocks =>
        rw [(load_of_wallet hw hb).1] at h
        cases h
      | error e =>
        refine .inr ⟨w, rfl, ?_⟩
        have ha : ((s.ask svc.getWallet).2.turnTo (.active w)).dashboard.mode.address? =
            some w.address := by
          rw [dashboard_turnTo]
          rfl
        have hb' : (svc.recentBlocks
            ((s.ask svc.getWallet).2.turnTo (.active w)).service).outcome = .error e := by
          rwa [service_turnTo]
        rw [dashboard_load, tryLoad_of_ok hw, Mode.ofWallet?, reloadBlocks_of_error ha hb',
          dashboard_ask, dashboard_turnTo, dashboard_ask]

/-- The only notice of a load that fails is about the failure. -/
theorem outbox_load_of_eq_false (h : (s.load svc).1 = false) :
    ∃ e : Failure, (s.load svc).2.outbox = s.outbox.post [.error e.message] := by
  rcases hl : s.tryLoad svc with ⟨e | _, s'⟩
  · refine ⟨e, ?_⟩
    have ho := outbox_tryLoad svc s
    rw [hl] at ho
    rw [load_of_error hl, notifyFailure, outbox_notify, ← ho]
    rfl
  · rw [load_of_ok hl] at h
    cases h

theorem outbox_refresh_of_eq_false (h : (s.refresh svc).1 = false) :
    ∃ e : Failure, (s.refresh svc).2.outbox = s.outbox.post [.error e.message] := by
  cases hm : s.dashboard.mode with
  | justCreated e =>
    rw [refresh_of_justCreated hm] at h
    cases h
  | noWallet =>
    rw [refresh_of_noWallet hm] at h ⊢
    exact outbox_load_of_eq_false h
  | active w =>
    have ho := outbox_refreshBoth svc s
    cases hr : (s.refreshBoth svc).1 with
    | error e =>
      refine ⟨e, ?_⟩
      rw [refresh_of_error hm hr, notifyFailure, outbox_notify, ← ho]
      rfl
    | ok height =>
      rw [refresh_of_ok hm hr] at h ⊢
      obtain ⟨e, hout⟩ := outbox_load_of_eq_false h
      exact ⟨e, hout.trans (congrArg _ ho)⟩

theorem staysUp_load_iff (hd : s.dashboard.Coherent) (h : (s.load svc).1 = false) :
    s.dashboard.StaysUp (s.load svc).2.dashboard ↔ svc.ShowsWallet s.dashboard s.service := by
  rcases dashboard_load_of_eq_false h with ⟨e, hw, hl⟩ | ⟨w, hw, hl⟩
  · refine ⟨fun _ wallet hok => ?_, fun _ => .of_eq hl⟩
    rw [hw] at hok
    cases hok
  · rw [hl]
    constructor
    · intro hstays wallet hok
      rw [hw] at hok
      cases hok
      exact hstays.mode.symm
    · intro hshows
      -- The wallet is on the screen, and its feed over the old blocks comes out as it was.
      have hm : s.dashboard.mode = .active w := hshows _ hw
      have hsame : s.dashboard.turnTo (.active w) = { s.dashboard with mode := .active w } :=
        hd.turnTo_eq (by rw [hm])
      rw [hsame, ← hm]
      exact .of_eq rfl

/-- If the block height is noted down first, it has to be the one that was shown. -/
theorem staysUp_load_noteHeight_iff {height : UInt64} (hd : s.dashboard.Coherent)
    (h : ((s.onDashboard ({ · with blockHeight := some height })).load svc).1 = false) :
    s.dashboard.StaysUp
        ((s.onDashboard ({ · with blockHeight := some height })).load svc).2.dashboard ↔
      s.dashboard.blockHeight = some height ∧ svc.ShowsWallet s.dashboard s.service := by
  have hnoted : ((s.onDashboard ({ · with blockHeight := some height })).load
      svc).2.dashboard.blockHeight = some height := by
    rcases dashboard_load_of_eq_false h with ⟨e, -, hl⟩ | ⟨w, -, hl⟩ <;> rw [hl] <;> rfl
  have hsame : s.dashboard.blockHeight = some height →
      s.onDashboard ({ · with blockHeight := some height }) = s := by
    intro hshown
    rw [onDashboard, ← hshown]
  constructor
  · intro hstays
    have hshown : s.dashboard.blockHeight = some height := hstays.height.symm.trans hnoted
    rw [hsame hshown] at h hstays
    exact ⟨hshown, (staysUp_load_iff hd h).mp hstays⟩
  · rintro ⟨hshown, hwallet⟩
    rw [hsame hshown] at h ⊢
    exact (staysUp_load_iff hd h).mpr hwallet

theorem staysUp_refresh_iff (hd : s.dashboard.Coherent) (h : (s.refresh svc).1 = false) :
    s.dashboard.StaysUp (s.refresh svc).2.dashboard ↔
      svc.ShowsRefreshed s.dashboard s.service := by
  cases hm : s.dashboard.mode with
  | justCreated e =>
    rw [refresh_of_justCreated hm] at h
    cases h
  | noWallet =>
    rw [refresh_of_noWallet hm] at h ⊢
    rw [svc.showsRefreshed_of_noWallet hm]
    exact staysUp_load_iff hd h
  | active w =>
    rw [svc.showsRefreshed_of_active hm]
    -- The mark of a refresh that is going on was not set before, and is not set now.
    have hboth : (s.refreshBoth svc).2.dashboard = s.dashboard := by
      rw [dashboard_refreshBoth, ← hd.settled]
    cases hr : (s.refreshBoth svc).1 with
    | error e =>
      rw [refresh_of_error hm hr, dashboard_notifyFailure, hboth]
      refine ⟨fun _ height hwallet hheight => ?_, fun _ => .of_eq rfl⟩
      rw [fst_refreshBoth_eq_ok_iff.mpr ⟨hwallet, hheight⟩] at hr
      cases hr
    | ok height =>
      obtain ⟨hwallet, hheight⟩ := fst_refreshBoth_eq_ok_iff.mp hr
      rw [refresh_of_ok hm hr] at h ⊢
      have hload := staysUp_load_noteHeight_iff (by rwa [hboth]) h
      rw [hboth, service_refreshBoth] at hload
      rw [hload]
      constructor
      · intro hshows height' _ hheight'
        obtain rfl : height = height' := Except.ok.inj (hheight.symm.trans hheight')
        exact hshows
      · exact fun hshows => hshows height hwallet hheight

/-- **A load or refresh that fails leaves everything up exactly if what it found out before it failed
was on the screen already.** Whoever reads the notices is told about the failure, and nothing
else. -/
theorem staysUp_run (svc : WalletService σ) (affect : κ → σ → σ) (size : PageSize) (service : σ)
    (events : List (Event κ)) :
    let s := (start size service).run svc affect events
    ((s.load svc).1 = false →
        (∃ e : Failure, (s.load svc).2.outbox = s.outbox.post [.error e.message]) ∧
          (s.dashboard.StaysUp (s.load svc).2.dashboard ↔
            svc.ShowsWallet s.dashboard s.service)) ∧
      ((s.refresh svc).1 = false →
        (∃ e : Failure, (s.refresh svc).2.outbox = s.outbox.post [.error e.message]) ∧
          (s.dashboard.StaysUp (s.refresh svc).2.dashboard ↔
            svc.ShowsRefreshed s.dashboard s.service)) := by
  intro s
  have hd : s.dashboard.Coherent := coherent_dashboard_run svc affect size service events
  exact ⟨fun h => ⟨outbox_load_of_eq_false h, staysUp_load_iff hd h⟩,
    fun h => ⟨outbox_refresh_of_eq_false h, staysUp_refresh_iff hd h⟩⟩

/-- The service in memory knows its wallet also while it is offline: a load that fails shows it in
the place of what was up. -/
theorem not_staysUp_load_memory :
    let svc := MemoryState.service (fun _ => default) 50
    let m : MemoryState :=
      { wallets := [("A", ⟨"aa", "acid", 0⟩)], active := some "A", offline := true }
    let s := (start ⟨2, by decide⟩ m).run svc (fun (_ : Unit) m => m) []
    (s.load svc).1 = false ∧ s.dashboard.mode = .noWallet ∧
      (s.load svc).2.dashboard.mode = .active ⟨"A", 0⟩ ∧
      ¬s.dashboard.StaysUp (s.load svc).2.dashboard := by
  intro svc m s
  have hfails : (s.load svc).1 = false := by decide
  have hmode : (s.load svc).2.dashboard.mode = .active ⟨"A", 0⟩ := by decide
  refine ⟨hfails, rfl, hmode, fun hstays => ?_⟩
  rw [hstays.mode] at hmode
  cases hmode

end Session

end WalletDashboard
