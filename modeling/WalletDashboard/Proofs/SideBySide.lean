import WalletDashboard.Proofs.Refreshing

/-!
# Sessions side by side

An operation asks the service, writes to the log, sends notices and changes the dashboard, and it
decides by the dashboard and by the answers of the service what to do next. So two sessions with the
same dashboard and the same state of the service go through the same operations in the same way. If
besides they differ only in what none of these steps touches (`Session.Indifferent`), they differ
in the same way afterwards (`Session.Indifferent.perform`), and so they do after the work of a
refresher (`Refresher.runUntil_agree`, `Refresher.start_agree`).

`Session.putBack` is the difference between a session whose notices are read and one whose notices
are not.
-/

namespace WalletDashboard

namespace Session

variable {σ α β : Type}

/-- Related sessions show the same over the same service, and nothing that operations are made of
brings them apart. -/
structure Indifferent (R : Session σ → Session σ → Prop) : Prop where
  dashboard_eq {s t : Session σ} (h : R s t) : t.dashboard = s.dashboard
  service_eq {s t : Session σ} (h : R s t) : t.service = s.service
  onDashboard {s t : Session σ} (h : R s t) (f : Dashboard → Dashboard) :
    R (s.onDashboard f) (t.onDashboard f)
  onService {s t : Session σ} (h : R s t) (f : σ → σ) : R (s.onService f) (t.onService f)
  write {s t : Session σ} (h : R s t) (lines : List LogLine) : R (s.write lines) (t.write lines)
  notify {s t : Session σ} (h : R s t) (notice : Notice) : R (s.notify notice) (t.notify notice)

/-- The same was given back, and the sessions are related. -/
def Agree (R : Session σ → Session σ → Prop) (x y : β × Session σ) : Prop :=
  x.1 = y.1 ∧ R x.2 y.2

/-- Whether there was a failure is told in the same way. -/
theorem Agree.settleOutcome {R : Session σ → Session σ → Prop}
    {x y : Except Failure α × Session σ} (h : Agree R x y)
    (htell : ∀ {s t : Session σ}, R s t → ∀ e, R (s.notifyFailure e) (t.notifyFailure e)) :
    Agree R (Session.settleOutcome x) (Session.settleOutcome y) := by
  obtain ⟨outcome, s⟩ := x
  obtain ⟨outcome', t⟩ := y
  obtain ⟨hfst, hsnd⟩ := h
  obtain rfl : outcome = outcome' := hfst
  cases outcome with
  | ok _ => exact ⟨rfl, hsnd⟩
  | error e => exact ⟨rfl, htell hsnd e⟩

namespace Indifferent

variable {R : Session σ → Session σ → Prop} {s t : Session σ} (hR : Indifferent R)
  (svc : WalletService σ)

include hR

theorem ask (h : R s t) (operation : σ → Reply σ α) :
    Agree R (s.ask operation) (t.ask operation) := by
  unfold Session.ask
  rw [hR.service_eq h]
  exact ⟨rfl, hR.write (hR.onService h fun _ => (operation s.service).state) _⟩

theorem notifyFailure (h : R s t) (e : Failure) : R (s.notifyFailure e) (t.notifyFailure e) :=
  hR.notify (hR.write h _) _

theorem turnTo (h : R s t) (mode : Mode) : R (s.turnTo mode) (t.turnTo mode) := by
  simp only [Session.turnTo, hR.dashboard_eq h]
  split
  · exact hR.onDashboard h _
  · exact hR.onDashboard (hR.write h _) _

theorem reloadBlocks (h : R s t) : Agree R (s.reloadBlocks svc) (t.reloadBlocks svc) := by
  have hd := hR.dashboard_eq h
  have hm := hR.service_eq h
  cases ha : s.dashboard.mode.address? with
  | none =>
    rw [reloadBlocks_of_none ha, reloadBlocks_of_none (by rwa [hd])]
    exact ⟨rfl, hR.onDashboard h _⟩
  | some address =>
    have ha' : t.dashboard.mode.address? = some address := by rwa [hd]
    cases hb : (svc.recentBlocks s.service).outcome with
    | ok blocks =>
      rw [reloadBlocks_of_ok ha hb, reloadBlocks_of_ok ha' (by rwa [hm])]
      exact ⟨rfl, hR.onDashboard (hR.ask h _).2 _⟩
    | error e =>
      rw [reloadBlocks_of_error ha hb, reloadBlocks_of_error ha' (by rwa [hm])]
      exact ⟨rfl, (hR.ask h _).2⟩

theorem tryLoad (h : R s t) : Agree R (s.tryLoad svc) (t.tryLoad svc) := by
  have hm := hR.service_eq h
  cases hw : (svc.getWallet s.service).outcome with
  | ok wallet =>
    rw [tryLoad_of_ok hw, tryLoad_of_ok (by rwa [hm])]
    exact hR.reloadBlocks svc (hR.turnTo (hR.ask h _).2 _)
  | error e =>
    rw [tryLoad_of_error hw, tryLoad_of_error (by rwa [hm])]
    exact ⟨rfl, (hR.ask h _).2⟩

theorem load (h : R s t) : Agree R (s.load svc) (t.load svc) :=
  (hR.tryLoad svc h).settleOutcome hR.notifyFailure

theorem createWallet (h : R s t) : R (s.createWallet svc) (t.createWallet svc) := by
  have hm := hR.service_eq h
  have hask := (hR.ask h svc.createWallet).2
  cases hc : (svc.createWallet s.service).outcome with
  | ok e =>
    rw [createWallet_of_ok hc, createWallet_of_ok (by rwa [hm])]
    exact hR.turnTo (hR.notify (hR.write hask _) _) _
  | error e =>
    rw [createWallet_of_error hc, createWallet_of_error (by rwa [hm])]
    exact hR.notifyFailure hask e

theorem acknowledgeExport (h : R s t) : R (s.acknowledgeExport svc) (t.acknowledgeExport svc) := by
  unfold Session.acknowledgeExport
  rw [hR.dashboard_eq h]
  split
  · exact (hR.load svc h).2
  · exact h

theorem importWallet (h : R s t) (key : String) :
    Agree R (s.importWallet svc key) (t.importWallet svc key) := by
  by_cases hk : Text.trim key = ""
  · rw [importWallet_of_blank hk, importWallet_of_blank hk]
    exact ⟨rfl, hR.notifyFailure h _⟩
  · have hm := hR.service_eq h
    have hask := (hR.ask h (svc.importWallet (Text.trim key))).2
    cases hi : (svc.importWallet (Text.trim key) s.service).outcome with
    | ok _ =>
      rw [importWallet_of_ok hk hi, importWallet_of_ok hk (by rwa [hm])]
      exact hR.load svc (hR.notify hask _)
    | error e =>
      rw [importWallet_of_error hk hi, importWallet_of_error hk (by rwa [hm])]
      exact ⟨rfl, hR.notifyFailure hask e⟩

theorem importOnStartup (h : R s t) (key : String) :
    Agree R (s.importOnStartup svc key) (t.importOnStartup svc key) := by
  have hm := hR.service_eq h
  have hload := hR.load svc h
  cases hw : (svc.getWallet s.service).outcome with
  | error e =>
    rw [importOnStartup_of_error hw, importOnStartup_of_error (by rwa [hm])]
    exact hload
  | ok wallet =>
    cases wallet with
    | none =>
      rw [importOnStartup_of_none hw, importOnStartup_of_none (by rwa [hm])]
      exact hR.importWallet svc hload.2 key
    | some w =>
      rw [importOnStartup_of_wallet hw, importOnStartup_of_wallet (w := w) (by rwa [hm]), hload.1]
      refine ⟨rfl, ?_⟩
      cases (t.load svc).1
      · exact hload.2
      · exact hR.write hload.2 _

theorem refreshBoth (h : R s t) : Agree R (s.refreshBoth svc) (t.refreshBoth svc) := by
  constructor
  · rw [fst_refreshBoth, fst_refreshBoth, hR.service_eq h]
  · rw [snd_refreshBoth, snd_refreshBoth]
    exact hR.onDashboard (hR.ask (hR.ask (hR.onDashboard h _) _).2 _).2 _

theorem refresh (h : R s t) : Agree R (s.refresh svc) (t.refresh svc) := by
  have hd := hR.dashboard_eq h
  obtain ⟨hfst, hsnd⟩ := hR.refreshBoth svc h
  cases hm : s.dashboard.mode with
  | justCreated e =>
    rw [refresh_of_justCreated hm, refresh_of_justCreated (by rwa [hd])]
    exact ⟨rfl, h⟩
  | noWallet =>
    rw [refresh_of_noWallet hm, refresh_of_noWallet (by rwa [hd])]
    exact hR.load svc h
  | active w =>
    have hm' : t.dashboard.mode = .active w := by rwa [hd]
    cases hb : (s.refreshBoth svc).1 with
    | ok height =>
      rw [refresh_of_ok hm hb, refresh_of_ok hm' (hfst.symm.trans hb)]
      exact hR.load svc (hR.onDashboard hsnd _)
    | error e =>
      rw [refresh_of_error hm hb, refresh_of_error hm' (hfst.symm.trans hb)]
      exact ⟨rfl, hR.notifyFailure hsnd e⟩

theorem confirmSwitch (h : R s t) : R (s.confirmSwitch svc) (t.confirmSwitch svc) := by
  have hd := hR.dashboard_eq h
  have hm := hR.service_eq h
  cases hs : s.dashboard.switch with
  | closed =>
    rw [confirmSwitch_of_closed hs, confirmSwitch_of_closed (by rwa [hd])]
    exact h
  | opened =>
    have hs' : t.dashboard.switch = .opened := by rwa [hd]
    have hask := (hR.ask (hR.onDashboard h ({ · with switch := .closed })) svc.logout).2
    cases ho : (svc.logout s.service).outcome with
    | ok _ =>
      rw [confirmSwitch_of_ok hs ho, confirmSwitch_of_ok hs' (by rwa [hm])]
      exact (hR.load svc (hR.write hask _)).2
    | error e =>
      rw [confirmSwitch_of_error hs ho, confirmSwitch_of_error hs' (by rwa [hm])]
      exact (hR.load svc (hR.notifyFailure hask e)).2

/-- **Every operation gives the same back for related sessions and leaves them related.** -/
theorem perform (h : R s t) (a : Action) : Agree R (s.perform svc a) (t.perform svc a) := by
  have hsome {x y : Bool × Session σ} (hxy : Agree R x y) :
      Agree R (x.map some id) (y.map some id) := ⟨congrArg some hxy.1, hxy.2⟩
  cases a with
  | load => exact hsome (hR.load svc h)
  | refresh => exact hsome (hR.refresh svc h)
  | importWallet key => exact hsome (hR.importWallet svc h key)
  | importOnStartup key => exact hsome (hR.importOnStartup svc h key)
  | createWallet => exact ⟨rfl, hR.createWallet svc h⟩
  | acknowledgeExport => exact ⟨rfl, hR.acknowledgeExport svc h⟩
  | confirmSwitch => exact ⟨rfl, hR.confirmSwitch svc h⟩
  | requestSwitch =>
    exact ⟨rfl, hR.onDashboard h fun d => { d with switch := d.switch.request }⟩
  | cancelSwitch =>
    exact ⟨rfl, hR.onDashboard h fun d => { d with switch := d.switch.cancel }⟩
  | nextPage | previousPage | jumpToPage => exact ⟨rfl, hR.onDashboard h _⟩

end Indifferent

/-- The session if `notices` had not been read: they still stand before the unread ones. -/
def putBack (notices : List Notice) (s : Session σ) : Session σ :=
  { s with outbox := { s.outbox with unread := notices ++ s.outbox.unread } }

theorem indifferent_putBack (notices : List Notice) :
    Indifferent fun (s t : Session σ) => t = s.putBack notices where
  dashboard_eq := by
    rintro s _ rfl
    rfl
  service_eq := by
    rintro s _ rfl
    rfl
  onDashboard := by
    rintro s _ rfl f
    rfl
  onService := by
    rintro s _ rfl f
    rfl
  write := by
    rintro s _ rfl lines
    rfl
  notify := by
    rintro ⟨d, m, ⟨_ | _, unread⟩, log⟩ _ rfl notice
    · rfl
    · simp [Session.notify, putBack]

end Session

/-! ### Refreshers -/

namespace Refresher

variable {σ : Type} {R : Session σ → Session σ → Prop} {s t : Session σ}
  (hR : Session.Indifferent R) (svc : WalletService σ)

include hR

theorem wake_agree (r : Refresher) (h : R s t) :
    Session.Agree R (r.wake svc s) (r.wake svc t) := by
  cases hp : r.phase with
  | waiting now =>
    obtain ⟨hfst, hsnd⟩ := hR.refresh svc h
    rw [wake_of_waiting svc hp, wake_of_waiting svc hp, hR.dashboard_eq hsnd, hfst]
    exact ⟨rfl, hR.write hsnd _⟩
  | pausing now =>
    rw [wake_of_pausing svc hp, wake_of_pausing svc hp]
    exact ⟨rfl, h⟩
  | ended =>
    rw [wake_of_ended svc hp, wake_of_ended svc hp]
    exact ⟨rfl, h⟩

theorem runFor_agree (time fuel : Nat) {x y : Refresher × Session σ} (h : Session.Agree R x y) :
    Session.Agree R (runFor svc time fuel x) (runFor svc time fuel y) := by
  induction fuel generalizing x y with
  | zero => exact h
  | succ fuel ih =>
    obtain ⟨r, s⟩ := x
    obtain ⟨r', t⟩ := y
    obtain ⟨rfl, hsnd⟩ := h
    unfold runFor
    split
    · exact ih (wake_agree hR svc r hsnd)
    · exact ⟨rfl, hsnd⟩

theorem runUntil_agree (time : Nat) (r : Refresher) (h : R s t) :
    Session.Agree R (r.runUntil svc time s) (r.runUntil svc time t) :=
  runFor_agree hR svc time _ ⟨rfl, h⟩

theorem takeOver_agree (timer : Timer) (period now : Nat) (h : R s t) :
    Session.Agree R (takeOver svc timer period now s) (takeOver svc timer period now t) := by
  have hload := (hR.load svc (hR.write h
    [⟨.info, "[Refresher] Starting with interval " ++ durationText period⟩])).2
  refine ⟨rfl, ?_⟩
  unfold takeOver
  simp only
  rw [hR.dashboard_eq hload]
  exact hR.write hload _

theorem start_agree (timer : Timer) (period now : Nat) (h : R s t) :
    Session.Agree R (start svc timer period now s) (start svc timer period now t) :=
  runFor_agree hR svc now _ (takeOver_agree hR svc timer period now h)

end Refresher

end WalletDashboard
