import WalletDashboard.Proofs.Operations

/-!
# What passes between a session and its service

An exchange is a call with what the service answers. To observe what passes in the course of an
operation, the service is given a record (`WalletService.recorded`): it answers every call as before
and writes the exchange down. `Session.exchanges` reads off what an operation adds to the record,
and `Session.exchangesIn` what the events of a run add to it.

`Session.perform_recording` says that the record is all that differs, and what it holds afterwards:
the exchanges of each operation are spelled out, call by call, from the dashboard that the operation
begins with and the state of the service (`WalletService.exchangesOf`).
-/

namespace WalletDashboard

/-- A call to a service, with what came of it. -/
structure Exchange where
  call : ServiceCall
  outcome : Except Failure ServiceAnswer

namespace WalletService

variable {σ α : Type} (svc : WalletService σ)

/-- What passes when the service is called. -/
def exchange (c : ServiceCall) (m : σ) : Exchange := ⟨c, (svc.call c m).outcome⟩

/-! ### Keeping a record -/

/-- The operation that the call `c` stands for, with what passes put on record. -/
def record (c : ServiceCall) (operation : σ → Reply σ α) (x : σ × List Exchange) :
    Reply (σ × List Exchange) α :=
  let reply := operation x.1
  { outcome := reply.outcome
    state := (reply.state, x.2 ++ [svc.exchange c x.1])
    log := reply.log }

/-- The service, with a record of what passes. -/
def recorded : WalletService (σ × List Exchange) where
  getWallet := svc.record .getWallet svc.getWallet
  createWallet := svc.record .createWallet svc.createWallet
  importWallet key := svc.record (.importWallet key) (svc.importWallet key)
  refreshWallet := svc.record .refreshWallet svc.refreshWallet
  refreshBlockHeight := svc.record .refreshBlockHeight svc.refreshBlockHeight
  logout := svc.record .logout svc.logout
  recentBlocks := svc.record .recentBlocks svc.recentBlocks

@[simp] theorem recorded_getWallet :
    svc.recorded.getWallet = svc.record .getWallet svc.getWallet := rfl

@[simp] theorem recorded_createWallet :
    svc.recorded.createWallet = svc.record .createWallet svc.createWallet := rfl

@[simp] theorem recorded_importWallet (key : String) :
    svc.recorded.importWallet key = svc.record (.importWallet key) (svc.importWallet key) := rfl

@[simp] theorem recorded_refreshWallet :
    svc.recorded.refreshWallet = svc.record .refreshWallet svc.refreshWallet := rfl

@[simp] theorem recorded_refreshBlockHeight :
    svc.recorded.refreshBlockHeight = svc.record .refreshBlockHeight svc.refreshBlockHeight := rfl

@[simp] theorem recorded_logout : svc.recorded.logout = svc.record .logout svc.logout := rfl

@[simp] theorem recorded_recentBlocks :
    svc.recorded.recentBlocks = svc.record .recentBlocks svc.recentBlocks := rfl

/-- Every call gets the answer of the service, and is put on record with it. -/
theorem call_recorded (c : ServiceCall) (m : σ) (xs : List Exchange) :
    svc.recorded.call c (m, xs) =
      { outcome := (svc.call c m).outcome
        state := ((svc.call c m).state, xs ++ [svc.exchange c m])
        log := (svc.call c m).log } := by
  cases c <;> rfl

/-! ### The exchanges of the operations -/

/-- What passes in a load: the blocks are asked for only if there is a wallet. -/
def loadExchanges (m : σ) : List Exchange :=
  svc.exchange .getWallet m ::
    match (svc.getWallet m).outcome with
    | .ok (some _) => [svc.exchange .recentBlocks (svc.getWallet m).state]
    | _ => []

theorem loadExchanges_of_wallet {m : σ} {w : Wallet}
    (h : (svc.getWallet m).outcome = .ok (some w)) :
    svc.loadExchanges m =
      [svc.exchange .getWallet m, svc.exchange .recentBlocks (svc.getWallet m).state] := by
  simp only [loadExchanges, h]

theorem loadExchanges_of_none {m : σ} (h : (svc.getWallet m).outcome = .ok none) :
    svc.loadExchanges m = [svc.exchange .getWallet m] := by
  simp only [loadExchanges, h]

theorem loadExchanges_of_error {m : σ} {e : Failure} (h : (svc.getWallet m).outcome = .error e) :
    svc.loadExchanges m = [svc.exchange .getWallet m] := by
  simp only [loadExchanges, h]

/-- What passes in an import: nothing if the key is blank. -/
def importExchanges (key : String) (m : σ) : List Exchange :=
  if Text.trim key = "" then []
  else
    svc.exchange (.importWallet (Text.trim key)) m ::
      match (svc.importWallet (Text.trim key) m).outcome with
      | .ok _ => svc.loadExchanges (svc.importWallet (Text.trim key) m).state
      | .error _ => []

/-- What passes in an import on startup: the key is needed only if the service has no wallet. -/
def startupExchanges (key : String) (m : σ) : List Exchange :=
  svc.loadExchanges m ++
    match (svc.getWallet m).outcome with
    | .ok none => svc.importExchanges key (svc.getWallet m).state
    | _ => []

/-- What passes in a refresh over `mode`: the height is looked up whatever the balance comes to. -/
def refreshExchanges (mode : Mode) (m : σ) : List Exchange :=
  match mode with
  | .justCreated _ => []
  | .noWallet => svc.loadExchanges m
  | .active _ =>
    let m₁ := (svc.refreshWallet m).state
    let m₂ := (svc.refreshBlockHeight m₁).state
    svc.exchange .refreshWallet m :: svc.exchange .refreshBlockHeight m₁ ::
      match (svc.refreshWallet m).outcome, (svc.refreshBlockHeight m₁).outcome with
      | .ok _, .ok _ => svc.loadExchanges m₂
      | _, _ => []

/-- What passes when a switch is confirmed: the view is loaded whatever the logout comes to. -/
def switchExchanges (switch : SwitchConfirm) (m : σ) : List Exchange :=
  match switch with
  | .closed => []
  | .opened => svc.exchange .logout m :: svc.loadExchanges (svc.logout m).state

/-- What passes when the secrets of a new wallet are acknowledged. -/
def acknowledgeExchanges (mode : Mode) (m : σ) : List Exchange :=
  match mode with
  | .justCreated _ => svc.loadExchanges m
  | _ => []

/-- What passes in the course of an operation on the dashboard `d`. -/
def exchangesOf (d : Dashboard) (m : σ) : Action → List Exchange
  | .load => svc.loadExchanges m
  | .refresh => svc.refreshExchanges d.mode m
  | .importWallet key => svc.importExchanges key m
  | .importOnStartup key => svc.startupExchanges key m
  | .createWallet => [svc.exchange .createWallet m]
  | .acknowledgeExport => svc.acknowledgeExchanges d.mode m
  | .confirmSwitch => svc.switchExchanges d.switch m
  | .requestSwitch | .cancelSwitch | .nextPage | .previousPage | .jumpToPage _ => []

end WalletService

namespace Session

variable {σ α κ : Type}

/-- The session with a record of what passed between it and its service. -/
def recording (xs : List Exchange) (s : Session σ) : Session (σ × List Exchange) :=
  { dashboard := s.dashboard, service := (s.service, xs), outbox := s.outbox, log := s.log }

/-- What passes in the course of an operation. -/
def exchanges (svc : WalletService σ) (s : Session σ) (a : Action) : List Exchange :=
  ((s.recording []).perform svc.recorded a).2.service.2

/-- What passes between the session and its service at an event. -/
def exchangesAt (svc : WalletService σ) (s : Session σ) : Event κ → List Exchange
  | .act a => s.exchanges svc a
  | .outside _ | .readerLeaves => []

/-- What passes between the session and its service in the course of events. -/
def exchangesIn (svc : WalletService σ) (affect : κ → σ → σ) (s : Session σ) :
    List (Event κ) → List Exchange
  | [] => []
  | e :: events =>
    s.exchangesAt svc e ++ (s.step svc affect e).2.exchangesIn svc affect events

/-! ### The record is all that differs -/

section Recording

variable (svc : WalletService σ) (s : Session σ) (xs : List Exchange)

@[simp] theorem dashboard_recording : (s.recording xs).dashboard = s.dashboard := rfl

@[simp] theorem recording_onDashboard (f : Dashboard → Dashboard) :
    (s.recording xs).onDashboard f = (s.onDashboard f).recording xs := rfl

@[simp] theorem recording_write (lines : List LogLine) :
    (s.recording xs).write lines = (s.write lines).recording xs := rfl

@[simp] theorem recording_notify (n : Notice) :
    (s.recording xs).notify n = (s.notify n).recording xs := by
  obtain ⟨d, m, ⟨_ | _, unread⟩, log⟩ := s <;> rfl

@[simp] theorem recording_notifyFailure (e : Failure) :
    (s.recording xs).notifyFailure e = (s.notifyFailure e).recording xs :=
  recording_notify (s.write _) xs _

@[simp] theorem recording_turnTo (mode : Mode) :
    (s.recording xs).turnTo mode = (s.turnTo mode).recording xs := by
  simp only [turnTo]
  by_cases h : mode.address? = s.dashboard.mode.address?
  · rw [if_pos h, if_pos (by exact h)]
    rfl
  · rw [if_neg h, if_neg (by exact h)]
    rfl

@[simp] theorem recording_ask (c : ServiceCall) (operation : σ → Reply σ α) :
    (s.recording xs).ask (svc.record c operation) =
      ((s.ask operation).1, (s.ask operation).2.recording (xs ++ [svc.exchange c s.service])) :=
  rfl

theorem load_recording :
    (s.recording xs).load svc.recorded =
      ((s.load svc).1, (s.load svc).2.recording (xs ++ svc.loadExchanges s.service)) := by
  rcases ha : s.ask svc.getWallet with ⟨outcome, s₁⟩
  obtain ⟨hw, hm⟩ := reply_of_ask_eq ha
  simp only [load, tryLoad, WalletService.recorded_getWallet, recording_ask, ha,
    WalletService.loadExchanges, hw, hm]
  cases outcome with
  | error e => simp [settleOutcome]
  | ok wallet =>
    cases wallet with
    | none => simp [reloadBlocks, settleOutcome, Mode.ofWallet?]
    | some w =>
      rcases hb : (s₁.turnTo (.active w)).ask svc.recentBlocks with ⟨outcome, s₂⟩
      cases outcome <;> simp [reloadBlocks, settleOutcome, Mode.ofWallet?, hb]

theorem createWallet_recording :
    (s.recording xs).createWallet svc.recorded =
      (s.createWallet svc).recording (xs ++ [svc.exchange .createWallet s.service]) := by
  rcases ha : s.ask svc.createWallet with ⟨outcome, s₁⟩
  cases outcome <;> simp [createWallet, ha]

theorem acknowledgeExport_recording :
    (s.recording xs).acknowledgeExport svc.recorded =
      (s.acknowledgeExport svc).recording
        (xs ++ svc.acknowledgeExchanges s.dashboard.mode s.service) := by
  cases hm : s.dashboard.mode <;>
    simp [acknowledgeExport, WalletService.acknowledgeExchanges, hm, load_recording]

theorem importWallet_recording (key : String) :
    (s.recording xs).importWallet svc.recorded key =
      ((s.importWallet svc key).1,
        (s.importWallet svc key).2.recording (xs ++ svc.importExchanges key s.service)) := by
  by_cases hk : Text.trim key = ""
  · simp [importWallet, WalletService.importExchanges, hk]
  · rcases ha : s.ask (svc.importWallet (Text.trim key)) with ⟨outcome, s₁⟩
    obtain ⟨hi, hm⟩ := reply_of_ask_eq ha
    cases outcome <;>
      simp [importWallet, WalletService.importExchanges, hk, ha, hi, hm, load_recording]

theorem importOnStartup_recording (key : String) :
    (s.recording xs).importOnStartup svc.recorded key =
      ((s.importOnStartup svc key).1,
        (s.importOnStartup svc key).2.recording (xs ++ svc.startupExchanges key s.service)) := by
  have hw' : (svc.recorded.getWallet (s.recording xs).service).outcome =
      (svc.getWallet s.service).outcome := rfl
  cases hw : (svc.getWallet s.service).outcome with
  | error e =>
    rw [importOnStartup_of_error hw, importOnStartup_of_error (hw'.trans hw), load_recording]
    simp only [WalletService.startupExchanges, hw, List.append_nil]
  | ok wallet =>
    cases wallet with
    | some w =>
      rw [importOnStartup_of_wallet hw, importOnStartup_of_wallet (hw'.trans hw), load_recording]
      simp only [WalletService.startupExchanges, hw, List.append_nil]
      split <;> rfl
    | none =>
      rw [importOnStartup_of_none hw, importOnStartup_of_none (hw'.trans hw), load_recording,
        importWallet_recording, service_load_of_none hw]
      simp only [WalletService.startupExchanges, hw, List.append_assoc]

theorem refreshBoth_recording :
    (s.recording xs).refreshBoth svc.recorded =
      ((s.refreshBoth svc).1,
        (s.refreshBoth svc).2.recording
          (xs ++ [svc.exchange .refreshWallet s.service,
            svc.exchange .refreshBlockHeight (svc.refreshWallet s.service).state])) := by
  cases hw : (svc.refreshWallet s.service).outcome <;> simp [refreshBoth, hw]

theorem refresh_recording :
    (s.recording xs).refresh svc.recorded =
      ((s.refresh svc).1,
        (s.refresh svc).2.recording
          (xs ++ svc.refreshExchanges s.dashboard.mode s.service)) := by
  cases hm : s.dashboard.mode with
  | justCreated e => simp [refresh, WalletService.refreshExchanges, hm]
  | noWallet => simp [refresh, WalletService.refreshExchanges, hm, load_recording]
  | active w =>
    have hb := refreshBoth_recording svc s xs
    simp only [WalletService.refreshExchanges]
    cases hr : (s.refreshBoth svc).1 with
    | ok height =>
      obtain ⟨hw, hh⟩ := fst_refreshBoth_eq_ok_iff.mp hr
      rw [refresh_of_ok hm hr, refresh_of_ok (s := s.recording xs) hm (by rw [hb, hr]), hb]
      simp [load_recording, service_refreshBoth, hw, hh]
    | error e =>
      rw [refresh_of_error hm hr, refresh_of_error (s := s.recording xs) hm (by rw [hb, hr]), hb]
      obtain hw | ⟨hw, hh⟩ := fst_refreshBoth_eq_error_iff.mp hr
      · simp [hw]
      · simp [hw, hh]

theorem confirmSwitch_recording :
    (s.recording xs).confirmSwitch svc.recorded =
      (s.confirmSwitch svc).recording
        (xs ++ svc.switchExchanges s.dashboard.switch s.service) := by
  cases hs : s.dashboard.switch with
  | closed =>
    rw [confirmSwitch_of_closed hs, confirmSwitch_of_closed (s := s.recording xs) hs]
    simp only [WalletService.switchExchanges, List.append_nil]
  | opened =>
    cases hl : (svc.logout s.service).outcome with
    | ok _ =>
      rw [confirmSwitch_of_ok hs hl, confirmSwitch_of_ok (s := s.recording xs) hs hl]
      simp [load_recording, WalletService.switchExchanges]
    | error e =>
      rw [confirmSwitch_of_error hs hl, confirmSwitch_of_error (s := s.recording xs) hs hl]
      simp [load_recording, WalletService.switchExchanges]

/-- **A record changes nothing else,** and after an operation it holds what the operation's
exchanges add to it. -/
theorem perform_recording (a : Action) :
    (s.recording xs).perform svc.recorded a =
      ((s.perform svc a).1,
        (s.perform svc a).2.recording (xs ++ svc.exchangesOf s.dashboard s.service a)) := by
  cases a <;> simp only [perform, WalletService.exchangesOf]
  case load => simp [load_recording]
  case refresh => simp [refresh_recording]
  case importWallet key => simp [importWallet_recording]
  case importOnStartup key => simp [importOnStartup_recording]
  case createWallet => simp [createWallet_recording]
  case acknowledgeExport => simp [acknowledgeExport_recording]
  case requestSwitch => simp [requestSwitch]
  case cancelSwitch => simp [cancelSwitch]
  case confirmSwitch => simp [confirmSwitch_recording]
  case nextPage | previousPage | jumpToPage => simp

theorem exchanges_eq (a : Action) :
    s.exchanges svc a = svc.exchangesOf s.dashboard s.service a := by
  rw [exchanges, perform_recording]
  rfl

end Recording

end Session

end WalletDashboard
