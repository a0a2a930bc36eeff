import WalletDashboard.Dashboard.Session

/-!
# Two calls at once

A refresh has the balance and the block height computed at once: it waits for both calls, and which
of them the service gets to first, and which outcome comes back first, is not in its hands.

A call is waiting until the service does it, and done for the dashboard when its outcome is there
(`CallProgress`). A schedule says whose turn it is, turn by turn; the calls go on in any order, one
may be done long before the other is begun (`Join.run`), and the refresh goes on once both are
finished (`Session.refreshBy`).
-/

namespace WalletDashboard

/-- The two calls that a refresh waits for. -/
inductive JoinedCall
  | wallet
  | height
  deriving DecidableEq, Repr

/-- How far a call has come. -/
inductive CallProgress (α : Type)
  /-- The service has not got to it. -/
  | waiting
  /-- The service has done it, and the outcome is on its way. -/
  | answered (outcome : Except Failure α)
  /-- The outcome is there. -/
  | finished (outcome : Except Failure α)

/-- A call has its turn. One that is finished has nothing left to do. -/
def CallProgress.turn {σ α : Type} (operation : σ → Reply σ α) (s : Session σ) :
    CallProgress α → CallProgress α × Session σ
  | waiting => (s.ask operation).map answered id
  | answered outcome => (finished outcome, s)
  | finished outcome => (finished outcome, s)

/-- A session in the course of the two calls. -/
structure Join (σ : Type) where
  session : Session σ
  wallet : CallProgress Unit := .waiting
  height : CallProgress UInt64 := .waiting

namespace Join

variable {σ : Type}

/-- One of the calls has its turn. -/
def turn (svc : WalletService σ) (j : Join σ) : JoinedCall → Join σ
  | .wallet =>
    let (wallet, session) := j.wallet.turn svc.refreshWallet j.session
    { j with wallet, session }
  | .height =>
    let (height, session) := j.height.turn svc.refreshBlockHeight j.session
    { j with height, session }

/-- The calls have their turns as the schedule says. -/
def run (svc : WalletService σ) (schedule : List JoinedCall) (j : Join σ) : Join σ :=
  schedule.foldl (·.turn svc) j

/-- The outcomes, once both are there. -/
def outcomes? (j : Join σ) : Option (Except Failure Unit × Except Failure UInt64) :=
  match j.wallet, j.height with
  | .finished wallet, .finished height => some (wallet, height)
  | _, _ => none

end Join

namespace Session

variable {σ : Type}

/-- Has the balance and the block height computed anew, turn by turn. Nothing comes of it as long as
one of the two calls is not finished. If both fail, the failure of the balance counts. -/
def refreshBothBy (svc : WalletService σ) (schedule : List JoinedCall) (s : Session σ) :
    Option (Except Failure UInt64 × Session σ) :=
  let j := Join.run svc schedule { session := s.onDashboard ({ · with refreshing := true }) }
  j.outcomes?.map fun (wallet, height) =>
    (wallet.bind fun _ => height, j.session.onDashboard ({ · with refreshing := false }))

/-- What is left to do when both calls are finished: the height is noted down and the view loaded,
or the failure told. -/
def afterBoth (svc : WalletService σ) : Except Failure UInt64 × Session σ → Bool × Session σ
  | (.ok height, s) => (s.onDashboard ({ · with blockHeight := some height })).load svc
  | (.error e, s) => (false, s.notifyFailure e)

/-- A refresh whose calls have their turns as the schedule says. -/
def refreshBy (svc : WalletService σ) (schedule : List JoinedCall) (s : Session σ) :
    Option (Bool × Session σ) :=
  match s.dashboard.mode with
  | .justCreated _ => some (true, s)
  | .noWallet => some (s.load svc)
  | .active _ => (s.refreshBothBy svc schedule).map (afterBoth svc)

end Session

end WalletDashboard
