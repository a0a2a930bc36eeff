import WalletDashboard.Proofs.Answers
import WalletDashboard.Proofs.Simulation
import WalletDashboard.Service.Memory
import WalletDashboard.Service.Remote

/-!
# A node that keeps everything in memory

A node that answers every call by the operation of the service in memory that the call stands for,
and words each of its answers as it likes (`MemoryNode.send`). The service of such a node
simulates the service in memory (`MemoryNode.simulates`), so a dashboard at work on the one shows
what it would show at work on the other, in every run (`MemoryNode.trail_alike`).
-/

namespace WalletDashboard

/-- The reply with its value written as JSON. -/
def Reply.encode {σ α : Type} (f : α → Json) (r : Reply σ α) : Reply σ Json :=
  { outcome := r.outcome.map f, state := r.state, log := r.log }

/-- A service in memory behind a node, and how many requests the node has answered. -/
structure MemoryNode where
  memory : MemoryState
  answered : Nat := 0

namespace MemoryNode

/-- The failure of a call that is not known. -/
def unknownMethod : Failure := .service "Method not found"

/-- What the service in memory makes of a call. -/
def handle (mint : Nat → WalletExport) (method : String) (params : List Json) (m : MemoryState) :
    Reply MemoryState Json :=
  match method, params with
  | "wallet_get", [] => m.getWallet.encode (.ofOption Wallet.toJson)
  | "wallet_create", [] => (m.createWallet mint).encode WalletExport.toJson
  | "wallet_import", [.string key] => (m.importWallet key).encode fun _ => .null
  | "wallet_refresh", [] => m.refreshWallet.encode fun _ => .null
  | "wallet_logout", [] => m.logout.encode fun _ => .null
  | "chain_blockHeight", [] => m.refreshBlockHeight.encode .nat
  | "chain_recentBlocks", [.number (.natural limit)] =>
    (m.recentBlocks limit.toNat).encode (.ofList Block.toJson)
  | _, _ => .refuse unknownMethod m

/-- What the service in memory makes of a message. -/
def handleMessage (mint : Nat → WalletExport) (m : MemoryState) : Json → Reply MemoryState Json
  | .object entries =>
    match entries.lookup "method", entries.lookup "params" with
    | some (.string method), some (.array params) => handle mint method params m
    | _, _ => .refuse unknownMethod m
  | _ => .refuse unknownMethod m

/-- Sends a request to the node, which words its answers one after another. -/
def send (mint : Nat → WalletExport) (wording : Nat → Wording) : Sender MemoryNode := fun r n =>
  let reply := handleMessage mint n.memory r.payload
  ((wording n.answered).deliver reply.outcome, ⟨reply.state, n.answered + 1⟩)

variable (mint : Nat → WalletExport) (wording : Nat → Wording)

/-- A message makes the call that it was written for. -/
theorem handleMessage_payload (r : RpcRequest) (m : MemoryState) :
    handleMessage mint m r.payload = handle mint r.method r.params m := by
  obtain ⟨sorted, hs⟩ : ∃ sorted, r.payload = .object sorted := ⟨_, rfl⟩
  have hm : sorted.lookup "method" = some (.string r.method) := Json.lookup_ofEntries hs _
  have hp : sorted.lookup "params" = some (.array r.params) := Json.lookup_ofEntries hs _
  rw [hs]
  simp only [handleMessage, hm, hp]

/-- The node keeps that state of the service in memory. -/
def Keeps (m : MemoryState) (n : MemoryNode) : Prop := n.memory = m

variable {α : Type} {operation : MemoryState → Reply MemoryState α} {decode : Decoder α}
  {encode : α → Json} {m : MemoryState} {n : MemoryNode}

/-- A call that stands for an operation comes to what the operation comes to. -/
theorem call_alike {method : String} {params : List Json} (hn : Keeps m n)
    (h : decode.Inverts encode)
    (hop : handle mint method params m = (operation m).encode encode) :
    (operation m).Alike Keeps ((send mint wording).call method params decode n) := by
  obtain rfl : n.memory = m := hn
  have hstate : ((send mint wording).call method params decode n).state =
      ⟨(operation n.memory).state, n.answered + 1⟩ := by
    simp only [Sender.call, send, handleMessage_payload, hop]
    rfl
  have hout : ((send mint wording).call method params decode n).outcome =
      ((wording n.answered).deliver ((operation n.memory).outcome.map encode)).read decode := by
    simp only [Sender.call, send, handleMessage_payload, hop]
    rfl
  cases ho : (operation n.memory).outcome with
  | ok a =>
    rw [ho] at hout
    refine .ok a ho (hout.trans ((wording n.answered).read_deliver_ok h a)) ?_
    rw [hstate]
    rfl
  | error e =>
    rw [ho] at hout
    refine .error e _ ?_ ho (hout.trans ((wording n.answered).read_deliver_error e decode)) ?_
    · exact ((wording n.answered).failure_rpcError_eq_invalidKey_iff e).symm
    · rw [hstate]
      rfl

theorem createWallet_alike (hn : Keeps m n) :
    (m.createWallet mint).Alike Keeps ((send mint wording).createWallet n) := by
  have hcall : (m.createWallet mint).Alike Keeps
      ((send mint wording).call "wallet_create" [] Decoder.walletExport n) :=
    call_alike mint wording hn Decoder.walletExport_inverts rfl
  unfold Sender.createWallet
  cases hcall with
  | ok e ho ho' hs =>
    simp only [ho']
    exact .ok e ho rfl hs
  | error e f he ho ho' hs =>
    simp only [ho']
    split
    · contradiction
    -- What the node refuses becomes another failure, but none that is about a key.
    · next cause hf =>
      obtain rfl : f = .service cause := Except.error.inj hf
      have hcause : (Failure.service cause).Alike (.importRefused cause) :=
        iff_of_false nofun nofun
      exact .error e (.importRefused cause) (he.trans hcause) ho rfl hs
    · exact .error e f he ho ho' hs

/-- **The service of the node simulates the service in memory.** -/
theorem simulates (recent : UInt64) :
    (MemoryState.service mint recent.toNat).Simulates Keeps
      (remoteService (send mint wording) recent.toNat) where
  getWallet hn := by
    refine call_alike mint wording hn (Decoder.wallet_inverts.optional ?_) rfl
    nofun
  createWallet hn := createWallet_alike mint wording hn
  importWallet key _ _ hn := call_alike mint wording hn Decoder.nothing_inverts rfl
  refreshWallet hn := call_alike mint wording hn Decoder.nothing_inverts rfl
  refreshBlockHeight hn := call_alike mint wording hn Decoder.word_inverts rfl
  logout hn := call_alike mint wording hn Decoder.nothing_inverts rfl
  recentBlocks hn := call_alike mint wording hn Decoder.block_inverts.list (by
    rw [UInt64.ofNat_toNat]
    rfl)

/-- **A dashboard cannot tell a node that keeps everything in memory from a service in memory.**
Whatever happens to the two services alike, every operation gives the same back, leaves the same
dashboard behind and sends alike notices. -/
theorem trail_alike {κ : Type} (recent : UInt64) (affect : κ → MemoryState → MemoryState)
    (size : PageSize) (m : MemoryState) (events : List (Event κ)) :
    List.Forall₂ (Session.Matches Keeps)
      ((Session.start size m).trail (MemoryState.service mint recent.toNat) affect events)
      ((Session.start size ⟨m, 0⟩).trail (remoteService (send mint wording) recent.toNat)
        (fun k n => { n with memory := affect k n.memory }) events) := by
  have hs : (Session.start size m).Alike Keeps (Session.start size ⟨m, 0⟩) := .start size rfl
  refine hs.trail (simulates mint wording recent) ?_ events
  rintro k m n rfl
  rfl

end MemoryNode

end WalletDashboard
