import WalletDashboard.Dashboard
import WalletDashboard.Service
import WalletDashboard.Text.Blank

/-!
# Working with the dashboard

A session is a dashboard together with the state of the service it shows, the notices it sent, and
the log. Every operation of the user is a function on sessions; it asks the service, brings the
dashboard up to date, and tells the user what happened.

* `load` shows the service's wallet and its recent blocks; `refresh` first has the balance and the
  block height computed anew.
* `createWallet`, `acknowledgeExport`, `importWallet` and `importOnStartup` lead to another wallet.
* `confirmSwitch` ends the session of the service, if the user was asked to confirm.
* `Action` is any of the operations, and `Session.perform` does it.

Operations that can fail give back whether they succeeded, and a failure is notified.
-/

namespace WalletDashboard

/-- A dashboard at work on a service whose states are `σ`. -/
structure Session (σ : Type) where
  dashboard : Dashboard
  service : σ
  outbox : Outbox := {}
  log : List LogLine := []

namespace Session

variable {σ α : Type}

/-- A session that has just begun. -/
def start (pageSize : PageSize) (service : σ) : Session σ := { dashboard := { pageSize }, service }

/-- The session with another dashboard. -/
def onDashboard (f : Dashboard → Dashboard) (s : Session σ) : Session σ :=
  { s with dashboard := f s.dashboard }

/-- Writes lines to the log. -/
def write (lines : List LogLine) (s : Session σ) : Session σ := { s with log := s.log ++ lines }

/-- Asks the service. -/
def ask (operation : σ → Reply σ α) (s : Session σ) : Except Failure α × Session σ :=
  let reply := operation s.service
  (reply.outcome, { s with service := reply.state }.write reply.log)

/-- Sends a notice to the user. If nobody reads them any more, the log says so. -/
def notify (notice : Notice) (s : Session σ) : Session σ :=
  if s.outbox.isRead then
    { s with outbox := { s.outbox with unread := s.outbox.unread ++ [notice] } }
  else s.write [⟨.warn, "[Dashboard] Notification receiver dropped"⟩]

/-- Writes a failure to the log, and tells the user. -/
def notifyFailure (failure : Failure) (s : Session σ) : Session σ :=
  (s.write [⟨.error, "[Dashboard] " ++ failure.message⟩]).notify (.error failure.message)

/-- Shows another mode. A change of the address on the screen is written to the log. -/
def turnTo (mode : Mode) (s : Session σ) : Session σ :=
  let shown := s.dashboard.mode.address?
  let s :=
    if mode.address? = shown then s
    else
      s.write [⟨.info,
        "[Dashboard] Wallet changed: " ++ describeAddress shown ++ " -> " ++
          describeAddress mode.address? ++ ", resetting activity page"⟩]
  s.onDashboard (·.turnTo mode)

/-- Loads the recent blocks, if there is an address to look for in them. -/
def reloadBlocks (svc : WalletService σ) (s : Session σ) : Except Failure Unit × Session σ :=
  match s.dashboard.mode.address? with
  | none => (.ok (), s.onDashboard (·.setBlocks []))
  | some _ =>
    match s.ask svc.recentBlocks with
    | (.ok blocks, s) => (.ok (), s.onDashboard (·.setBlocks blocks))
    | (.error e, s) => (.error e, s)

/-- Shows the wallet of the service and loads the recent blocks. -/
def tryLoad (svc : WalletService σ) (s : Session σ) : Except Failure Unit × Session σ :=
  match s.ask svc.getWallet with
  | (.ok wallet, s) => (s.turnTo (Mode.ofWallet? wallet)).reloadBlocks svc
  | (.error e, s) => (.error e, s)

/-- Tells the user about a failure, and gives back whether there was none. -/
def settleOutcome (r : Except Failure α × Session σ) : Bool × Session σ :=
  match r with
  | (.ok _, s) => (true, s)
  | (.error e, s) => (false, s.notifyFailure e)

/-- Brings the dashboard up to date with the service. -/
def load (svc : WalletService σ) (s : Session σ) : Bool × Session σ := settleOutcome (s.tryLoad svc)

/-- Has the service make a wallet, and shows its secrets. -/
def createWallet (svc : WalletService σ) (s : Session σ) : Session σ :=
  match s.ask svc.createWallet with
  | (.ok e, s) =>
    let s := s.write [⟨.info, "[Dashboard] Wallet " ++ e.address ++ " created, awaiting backup"⟩]
    let s := s.notify (.info "Wallet created. Back up your private key and recovery phrase.")
    s.turnTo (.justCreated e)
  | (.error e, s) => s.notifyFailure e

/-- Leaves the secrets for the normal view. -/
def acknowledgeExport (svc : WalletService σ) (s : Session σ) : Session σ :=
  match s.dashboard.mode with
  | .justCreated _ => (s.load svc).2
  | _ => s

/-- Opens the session of the wallet behind a key or phrase, and shows it. -/
def importWallet (svc : WalletService σ) (key : String) (s : Session σ) : Bool × Session σ :=
  let key := Text.trim key
  if key = "" then (false, s.notifyFailure .invalidKey)
  else
    match s.ask (svc.importWallet key) with
    | (.ok _, s) => (s.notify (.info "Wallet imported.")).load svc
    | (.error e, s) => (false, s.notifyFailure e)

/-- Imports the wallet behind a key or phrase, unless the service has an active wallet already. -/
def importOnStartup (svc : WalletService σ) (key : String) (s : Session σ) : Bool × Session σ :=
  match s.load svc with
  | (false, s) => (false, s)
  | (true, s) =>
    match s.dashboard.mode.wallet? with
    | some _ =>
      (true, s.write [⟨.info, "[Dashboard] Wallet already active, skipping startup import"⟩])
    | none => s.importWallet svc key

/-- Has the balance and the block height computed anew, both whatever the other comes to. If both
fail, the failure of the balance counts. -/
def refreshBoth (svc : WalletService σ) (s : Session σ) : Except Failure UInt64 × Session σ :=
  let s := s.onDashboard ({ · with refreshing := true })
  let (wallet, s) := s.ask svc.refreshWallet
  let (height, s) := s.ask svc.refreshBlockHeight
  let s := s.onDashboard ({ · with refreshing := false })
  match wallet with
  | .ok _ => (height, s)
  | .error e => (.error e, s)

/-- Brings the dashboard up to date with the chain. The secrets of a new wallet stay on the
screen. -/
def refresh (svc : WalletService σ) (s : Session σ) : Bool × Session σ :=
  match s.dashboard.mode with
  | .justCreated _ => (true, s)
  | .noWallet => s.load svc
  | .active _ =>
    match s.refreshBoth svc with
    | (.ok height, s) => (s.onDashboard ({ · with blockHeight := some height })).load svc
    | (.error e, s) => (false, s.notifyFailure e)

/-- Asks the user to confirm the change to another wallet. -/
def requestSwitch (s : Session σ) : Session σ :=
  s.onDashboard fun d => { d with switch := d.switch.request }

/-- Keeps the wallet after all. -/
def cancelSwitch (s : Session σ) : Session σ :=
  s.onDashboard fun d => { d with switch := d.switch.cancel }

/-- Ends the session of the service, if the user was asked to confirm, and loads what is left. -/
def confirmSwitch (svc : WalletService σ) (s : Session σ) : Session σ :=
  let (asked, switch) := s.dashboard.switch.confirm
  let s := s.onDashboard ({ · with switch })
  if asked then
    let s :=
      match s.ask svc.logout with
      | (.ok _, s) => s.write [⟨.info, "[Dashboard] Logged out, ready for another wallet"⟩]
      | (.error e, s) => s.notifyFailure e
    (s.load svc).2
  else s

/-- The unread notices, and the session after the user read them. -/
def takeNotices (s : Session σ) : List Notice × Session σ :=
  (s.outbox.take.1, { s with outbox := s.outbox.take.2 })

/-- The log so far, and the session with a new log. -/
def takeLog (s : Session σ) : List LogLine × Session σ := (s.log, { s with log := [] })

/-- From here on nobody reads notices. -/
def dropReader (s : Session σ) : Session σ := { s with outbox := s.outbox.abandon }

end Session

/-- An operation of the user. -/
inductive Action
  | load
  | refresh
  | importWallet (key : String)
  | importOnStartup (key : String)
  | createWallet
  | acknowledgeExport
  | requestSwitch
  | cancelSwitch
  | confirmSwitch
  | nextPage
  | previousPage
  | jumpToPage (page : Int)
  deriving DecidableEq, Repr

/-- Does an operation. The first part is whether it succeeded, if that is told. -/
def Session.perform {σ : Type} (svc : WalletService σ) (s : Session σ) :
    Action → Option Bool × Session σ
  | .load => (s.load svc).map some id
  | .refresh => (s.refresh svc).map some id
  | .importWallet key => (s.importWallet svc key).map some id
  | .importOnStartup key => (s.importOnStartup svc key).map some id
  | .createWallet => (none, s.createWallet svc)
  | .acknowledgeExport => (none, s.acknowledgeExport svc)
  | .requestSwitch => (none, s.requestSwitch)
  | .cancelSwitch => (none, s.cancelSwitch)
  | .confirmSwitch => (none, s.confirmSwitch svc)
  | .nextPage => (none, s.onDashboard (·.nextPage))
  | .previousPage => (none, s.onDashboard (·.previousPage))
  | .jumpToPage page => (none, s.onDashboard (·.jumpToPage page))

end WalletDashboard
