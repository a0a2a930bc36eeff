import WalletDashboard.Chain
import WalletDashboard.Notice

/-!
# Wallet services

A wallet service keeps the keys, computes balances and follows the chain; whoever shows a wallet
only calls it. A service with states `σ` is the record of its operations (`WalletService`). An
operation takes the state that the service is in, and gives an outcome, the next state and the log
lines that it wrote (`Reply`); it may change the state whether it succeeds or fails.
-/

namespace WalletDashboard

/-- What a service operation gives back. -/
structure Reply (σ α : Type) where
  outcome : Except Failure α
  state : σ
  log : List LogLine := []

/-- The operations of a wallet service whose states are `σ`. -/
structure WalletService (σ : Type) where
  /-- The active wallet, if a session is open. -/
  getWallet : σ → Reply σ (Option Wallet)
  /-- Makes a wallet and activates it. Its secrets are handed out this once. -/
  createWallet : σ → Reply σ WalletExport
  /-- Activates the wallet behind a private key or a recovery phrase. -/
  importWallet : String → σ → Reply σ Unit
  /-- Computes the balance of the active wallet anew. -/
  refreshWallet : σ → Reply σ Unit
  /-- Looks up the index of the latest block. -/
  refreshBlockHeight : σ → Reply σ UInt64
  /-- Ends the session. -/
  logout : σ → Reply σ Unit
  /-- The blocks observed last, by index. -/
  recentBlocks : σ → Reply σ (List Block)

namespace Reply

variable {σ α : Type}

/-- The operation succeeded and changed nothing. -/
def answer (value : α) (state : σ) : Reply σ α := { outcome := .ok value, state }

/-- The operation failed and changed nothing. -/
def refuse (failure : Failure) (state : σ) : Reply σ α := { outcome := .error failure, state }

end Reply

/-- A direct call to a service. -/
inductive ServiceCall
  | getWallet
  | createWallet
  | importWallet (key : String)
  | refreshWallet
  | refreshBlockHeight
  | logout
  | recentBlocks
  deriving DecidableEq, Repr

/-- What a successful call gives back. -/
inductive ServiceAnswer
  | nothing
  | wallet (w : Wallet)
  | secrets (e : WalletExport)
  | height (h : UInt64)
  | blocks (bs : List Block)
  deriving DecidableEq, Repr

/-- The reply with its value wrapped up. -/
def Reply.wrap {σ α : Type} (f : α → ServiceAnswer) (r : Reply σ α) : Reply σ ServiceAnswer :=
  { outcome := r.outcome.map f, state := r.state, log := r.log }

/-- The reply of a service to a direct call. -/
def WalletService.call {σ : Type} (svc : WalletService σ) : ServiceCall → σ → Reply σ ServiceAnswer
  | .getWallet, s => (svc.getWallet s).wrap fun w => (w.map .wallet).getD .nothing
  | .createWallet, s => (svc.createWallet s).wrap .secrets
  | .importWallet key, s => (svc.importWallet key s).wrap fun _ => .nothing
  | .refreshWallet, s => (svc.refreshWallet s).wrap fun _ => .nothing
  | .refreshBlockHeight, s => (svc.refreshBlockHeight s).wrap .height
  | .logout, s => (svc.logout s).wrap fun _ => .nothing
  | .recentBlocks, s => (svc.recentBlocks s).wrap .blocks

end WalletDashboard
