import WalletDashboard.Rpc.Delivery
import WalletDashboard.Service

/-!
# The wallet service of a node

A wallet service that hands every operation on to a node. Its state is that of the way to the node,
of which only is known how to send a request (`remoteService`).
-/

namespace WalletDashboard

/-- How requests are sent to a node. -/
abbrev Sender (σ : Type) := RpcRequest → σ → Delivery × σ

namespace Sender

variable {σ α : Type}

/-- Calls a method of the node. -/
def call (send : Sender σ) (method : String) (params : List Json) (decode : Decoder α) (s : σ) :
    Reply σ α :=
  let (delivery, s) := send { method, params } s
  { outcome := delivery.read decode, state := s }

/-- Has the node make a wallet. What the node refuses is a refusal to make one. -/
def createWallet (send : Sender σ) (s : σ) : Reply σ WalletExport :=
  let reply := send.call "wallet_create" [] Decoder.walletExport s
  match reply.outcome with
  | .ok e => { reply with log := [⟨.info, "[RemoteService] Created wallet " ++ e.address⟩] }
  | .error (.service cause) => { reply with outcome := .error (.importRefused cause) }
  | .error _ => reply

end Sender

/-- The service of the node that `send` sends requests to; the last `window` blocks are the recent
ones. -/
def remoteService {σ : Type} (send : Sender σ) (window : Nat) : WalletService σ where
  getWallet := send.call "wallet_get" [] (Decoder.optional Decoder.wallet)
  createWallet := send.createWallet
  importWallet key := send.call "wallet_import" [.string key] Decoder.nothing
  refreshWallet := send.call "wallet_refresh" [] Decoder.nothing
  refreshBlockHeight := send.call "chain_blockHeight" [] Decoder.word
  logout := send.call "wallet_logout" [] Decoder.nothing
  recentBlocks :=
    send.call "chain_recentBlocks" [.nat (UInt64.ofNat window)] (Decoder.list Decoder.block)

end WalletDashboard
