import WalletDashboard.Service.Memory
import WalletDashboard.Service.Remote
import WalletDashboard.Settings

/-!
# The service that the settings ask for

Two services make one: its states are those of either, and every operation goes to the service that
the state belongs to (`WalletService.either`). The settings choose the state to begin with
(`Settings.openService`), and no operation leads from one service to the other.
-/

namespace WalletDashboard

/-- The reply with its state put among others. -/
def Reply.embed {σ τ α : Type} (f : σ → τ) (r : Reply σ α) : Reply τ α :=
  { outcome := r.outcome, state := f r.state, log := r.log }

namespace WalletService

variable {σ τ α : Type}

/-- The operation of the service that the state belongs to. -/
def onEither (f : σ → Reply σ α) (g : τ → Reply τ α) : σ ⊕ τ → Reply (σ ⊕ τ) α
  | .inl s => (f s).embed .inl
  | .inr t => (g t).embed .inr

/-- The service whose states are those of `a` and those of `b`. -/
def either (a : WalletService σ) (b : WalletService τ) : WalletService (σ ⊕ τ) where
  getWallet := onEither a.getWallet b.getWallet
  createWallet := onEither a.createWallet b.createWallet
  importWallet key := onEither (a.importWallet key) (b.importWallet key)
  refreshWallet := onEither a.refreshWallet b.refreshWallet
  refreshBlockHeight := onEither a.refreshBlockHeight b.refreshBlockHeight
  logout := onEither a.logout b.logout
  recentBlocks := onEither a.recentBlocks b.recentBlocks

end WalletService

namespace Settings

variable {σ : Type}

/-- The service in memory together with that of a node. Both count the same number of blocks as
recent. -/
def walletService (s : Settings) (mint : Nat → WalletExport) (send : Sender σ) :
    WalletService (MemoryState ⊕ σ) :=
  let window := s.dashboard.recentBlocks.toNat
  (MemoryState.service mint window).either (remoteService send window)

/-- The state that the chosen service begins with: an empty one in memory, or the way to the node at
the address that is set. -/
def openService (s : Settings) (connect : String → σ) : MemoryState ⊕ σ :=
  if s.service.useMemory then .inl {} else .inr (connect s.service.apiUrl)

end Settings

end WalletDashboard
