import WalletDashboard.Proofs.Scheduling
import WalletDashboard.Rpc.Node
import WalletDashboard.Service.Remote

/-!
# The calls of a refresh change places

The balance and the block height are computed from what is there, and are kept in different places:
in memory the one call writes to the registered wallets and the other to the height
(`MemoryState.interchanges`), and a node that keeps a queue of answers for every method takes them
from different queues (`Sender.AnswersByMethod.interchanges`). So each call does to the service what
it does when it is made alone, also if the other fails (`MemoryState.refreshed`,
`Sender.Refreshed`), and a refresh comes out the same under every schedule of the two
(`Session.refresh_any_schedule`).
-/

namespace WalletDashboard

/-! ### In memory -/

namespace MemoryState

variable (m : MemoryState)

/-- The state after both calls of a refresh, each with the effect that it has when it is made
alone. -/
def refreshed : MemoryState :=
  { (refreshWallet m).state with blockHeight := (refreshBlockHeight m).state.blockHeight }

/-- The balance does not depend on the height, and leaves it as it is. -/
theorem refreshWallet_withHeight (height : UInt64) :
    refreshWallet { m with blockHeight := height } =
      let r := refreshWallet m
      { r with state := { r.state with blockHeight := height } } := by
  unfold refreshWallet
  simp only [stored?]
  split
  · rfl
  · split
    · rfl
    · split
      · rfl
      · split <;> rfl

/-- The height does not depend on the wallets, and leaves them as they are. -/
theorem refreshBlockHeight_withWallets (wallets : List (String × StoredWallet)) :
    refreshBlockHeight { m with wallets } =
      let r := refreshBlockHeight m
      { r with state := { r.state with wallets } } := by
  unfold refreshBlockHeight
  simp only [lastIndex]
  split
  · rfl
  · split <;> rfl

/-- Whatever becomes of it, the computation of the balance writes to the wallets alone. -/
theorem refreshWallet_cases :
    (∃ e, refreshWallet m = .refuse e m) ∨
      ∃ wallets, refreshWallet m = .answer () { m with wallets } := by
  unfold refreshWallet
  split
  · exact .inl ⟨_, rfl⟩
  · split
    · exact .inl ⟨_, rfl⟩
    · split
      · exact .inl ⟨_, rfl⟩
      · split
        · exact .inr ⟨m.wallets, rfl⟩
        · exact .inr ⟨_, rfl⟩

theorem refreshBlockHeight_cases :
    (∃ e, refreshBlockHeight m = .refuse e m) ∨
      ∃ height, refreshBlockHeight m = .answer height { m with blockHeight := height } := by
  unfold refreshBlockHeight
  split
  · exact .inl ⟨_, rfl⟩
  · split
    · exact .inl ⟨_, rfl⟩
    · exact .inr ⟨_, rfl⟩

theorem state_refreshWallet_eq :
    (refreshWallet m).state = { m with wallets := (refreshWallet m).state.wallets } := by
  rcases refreshWallet_cases m with ⟨e, h⟩ | ⟨wallets, h⟩ <;> rw [h] <;> rfl

theorem state_refreshBlockHeight_eq :
    (refreshBlockHeight m).state =
      { m with blockHeight := (refreshBlockHeight m).state.blockHeight } := by
  rcases refreshBlockHeight_cases m with ⟨e, h⟩ | ⟨height, h⟩ <;> rw [h] <;> rfl

theorem refreshWallet_after_height :
    refreshWallet (refreshBlockHeight m).state =
      { refreshWallet m with state := m.refreshed } := by
  rw [state_refreshBlockHeight_eq, refreshWallet_withHeight]
  rfl

theorem refreshBlockHeight_after_wallet :
    refreshBlockHeight (refreshWallet m).state =
      { refreshBlockHeight m with state := m.refreshed } := by
  have hboth : m.refreshed =
      { (refreshBlockHeight m).state with wallets := (refreshWallet m).state.wallets } := by
    rw [refreshed, state_refreshBlockHeight_eq, state_refreshWallet_eq]
  rw [state_refreshWallet_eq, refreshBlockHeight_withWallets, hboth]

variable (mint : Nat → WalletExport) (window : Nat)

theorem interchanges : (service mint window).Interchanges (· = ·) where
  outcome_refreshWallet m := by
    show (refreshWallet (refreshBlockHeight m).state).outcome = _
    rw [refreshWallet_after_height]
    rfl
  outcome_refreshBlockHeight m := by
    show (refreshBlockHeight (refreshWallet m).state).outcome = _
    rw [refreshBlockHeight_after_wallet]
    rfl
  state m := by
    show (refreshWallet (refreshBlockHeight m).state).state =
      (refreshBlockHeight (refreshWallet m).state).state
    rw [refreshWallet_after_height, refreshBlockHeight_after_wallet]
  log_refreshWallet m := by
    show (refreshWallet m).log = []
    rcases refreshWallet_cases m with ⟨e, h⟩ | ⟨wallets, h⟩ <;> rw [h] <;> rfl
  log_refreshBlockHeight m := by
    show (refreshBlockHeight m).log = []
    rcases refreshBlockHeight_cases m with ⟨e, h⟩ | ⟨height, h⟩ <;> rw [h] <;> rfl

end MemoryState

/-! ### Behind a node with a queue for every method -/

namespace Sender

variable {σ κ : Type}

/-- What becomes of a request depends only on the queue of its method, and the queues of the other
methods stay as they are. -/
structure AnswersByMethod (send : Sender σ) (queue : String → σ → κ) : Prop where
  delivery (r : RpcRequest) {m n : σ} (h : queue r.method m = queue r.method n) :
    (send r m).1 = (send r n).1
  queue_send (r : RpcRequest) {m n : σ} (h : queue r.method m = queue r.method n) :
    queue r.method (send r m).2 = queue r.method (send r n).2
  queue_send_of_ne (r : RpcRequest) {method : String} (h : method ≠ r.method) (m : σ) :
    queue method (send r m).2 = queue method m

/-- The states have the same queues. -/
def SameQueues (queue : String → σ → κ) (m n : σ) : Prop :=
  ∀ method, queue method m = queue method n

/-- The queues after both calls of a refresh: that of each is as the call leaves it when it is made
alone, and the others are as they were. -/
structure Refreshed (send : Sender σ) (queue : String → σ → κ) (m m' : σ) : Prop where
  wallet : queue "wallet_refresh" m' = queue "wallet_refresh" (send ⟨"wallet_refresh", []⟩ m).2
  height :
    queue "chain_blockHeight" m' = queue "chain_blockHeight" (send ⟨"chain_blockHeight", []⟩ m).2
  others {method : String} (hw : method ≠ "wallet_refresh") (hh : method ≠ "chain_blockHeight") :
    queue method m' = queue method m

namespace AnswersByMethod

variable {send : Sender σ} {queue : String → σ → κ} (hq : send.AnswersByMethod queue)

include hq

/-- What becomes of a request is not altered by a request for another method before it. -/
theorem delivery_after {a b : RpcRequest} (h : a.method ≠ b.method) (m : σ) :
    (send a (send b m).2).1 = (send a m).1 :=
  hq.delivery a (hq.queue_send_of_ne b h m)

theorem queue_after {a b : RpcRequest} (h : a.method ≠ b.method) (m : σ) :
    queue a.method (send a (send b m).2).2 = queue a.method (send a m).2 :=
  hq.queue_send a (hq.queue_send_of_ne b h m)

/-- Requests for different methods can change places. -/
theorem send_comm {a b : RpcRequest} (h : a.method ≠ b.method) (m : σ) :
    SameQueues queue (send a (send b m).2).2 (send b (send a m).2).2 := by
  intro method
  by_cases ha : method = a.method
  · subst ha
    rw [hq.queue_after h, hq.queue_send_of_ne b h]
  · by_cases hb : method = b.method
    · subst hb
      rw [hq.queue_send_of_ne a ha, hq.queue_after h.symm]
    · rw [hq.queue_send_of_ne a ha, hq.queue_send_of_ne b hb, hq.queue_send_of_ne b hb,
        hq.queue_send_of_ne a ha]

theorem call_sameUpTo {α : Type} {m n : σ} (h : SameQueues queue m n) (method : String)
    (params : List Json) (decode : Decoder α) :
    (send.call method params decode m).SameUpTo (SameQueues queue)
      (send.call method params decode n) where
  outcome := congrArg (Delivery.read decode) (hq.delivery ⟨method, params⟩ (h method))
  state := by
    intro k
    by_cases hk : k = method
    · subst hk
      exact hq.queue_send ⟨k, params⟩ (h k)
    · show queue k (send ⟨method, params⟩ m).2 = queue k (send ⟨method, params⟩ n).2
      rw [hq.queue_send_of_ne _ hk, hq.queue_send_of_ne _ hk, h k]
  log := rfl

theorem loadsAlike (window : Nat) : (remoteService send window).LoadsAlike (SameQueues queue) where
  getWallet h := hq.call_sameUpTo h _ _ _
  recentBlocks h := hq.call_sameUpTo h _ _ _

theorem interchanges (window : Nat) :
    (remoteService send window).Interchanges (SameQueues queue) where
  outcome_refreshWallet m := by
    have h := hq.delivery_after (a := ⟨"wallet_refresh", []⟩) (b := ⟨"chain_blockHeight", []⟩)
      (by decide) m
    exact congrArg (Delivery.read Decoder.nothing) h
  outcome_refreshBlockHeight m := by
    have h := hq.delivery_after (a := ⟨"chain_blockHeight", []⟩) (b := ⟨"wallet_refresh", []⟩)
      (by decide) m
    exact congrArg (Delivery.read Decoder.word) h
  state m :=
    hq.send_comm (a := ⟨"wallet_refresh", []⟩) (b := ⟨"chain_blockHeight", []⟩) (by decide) m
  log_refreshWallet _ := rfl
  log_refreshBlockHeight _ := rfl

theorem refreshed (window : Nat) (m : σ) :
    let svc := remoteService send window
    send.Refreshed queue m (svc.refreshBlockHeight (svc.refreshWallet m).state).state where
  wallet := hq.queue_send_of_ne ⟨"chain_blockHeight", []⟩ (by decide) _
  height :=
    hq.queue_after (a := ⟨"chain_blockHeight", []⟩) (b := ⟨"wallet_refresh", []⟩) (by decide) m
  others {method} hw hh :=
    (hq.queue_send_of_ne ⟨"chain_blockHeight", []⟩ hh _).trans
      (hq.queue_send_of_ne ⟨"wallet_refresh", []⟩ hw m)

end AnswersByMethod

end Sender

namespace PreparedNode

/-- What is kept of a node for a method: its queue, and whether it can be called at all. -/
def queue (method : String) (n : PreparedNode) : Endpoint × Bool × List NodeAnswer :=
  (n.endpoint, n.isReachable, (n.queues.lookup method).getD [])

theorem answersByMethod : Sender.AnswersByMethod send queue where
  delivery r m n h := by
    simp only [queue, Prod.mk.injEq] at h
    obtain ⟨he, hr, hl⟩ := h
    simp only [send, he, hr, hl]
    cases n.endpoint with
    | malformed | foreign => rfl
    | web url => by_cases hn : n.isReachable <;> simp [hn]
  queue_send r m n h := by
    simp only [queue, Prod.mk.injEq] at h ⊢
    obtain ⟨he, hr, hl⟩ := h
    simp only [send, he, hr, hl]
    cases hn : n.endpoint with
    | malformed | foreign => exact ⟨he, hr, hl⟩
    | web url =>
      by_cases hc : n.isReachable
      · simp [hc, setQueue, Json.lookup_insertEntry, he, hr, hn]
      · simp [hc, he, hr, hl, hn]
  queue_send_of_ne r method h m := by
    simp only [send]
    cases m.endpoint with
    | malformed | foreign => rfl
    | web url =>
      by_cases hc : m.isReachable
      · simp [hc, queue, setQueue, Json.lookup_insertEntry, h]
      · simp [hc]

end PreparedNode

namespace Session

variable {σ κ : Type}

/-- **A refresh comes out the same however its calls are scheduled.** In memory, and behind a node
with a queue of answers for every method, the calls can change places, and each has its full effect
on the service, also if the other fails. So a refresh leaves the same dashboard, service, notices
and log under every schedule that lets both calls finish. If the balance fails, it is its failure
that the user is told, whatever becomes of the height. -/
theorem refresh_any_schedule (mint : Nat → WalletExport) (window : Nat) (send : Sender σ)
    (queue : String → σ → κ) (hq : send.AnswersByMethod queue) :
    let memory := MemoryState.service mint window
    let remote := remoteService send window
    memory.Interchanges (· = ·) ∧ remote.Interchanges (Sender.SameQueues queue) ∧
      (∀ m, (memory.refreshBlockHeight (memory.refreshWallet m).state).state = m.refreshed) ∧
      (∀ m, send.Refreshed queue m
        (remote.refreshBlockHeight (remote.refreshWallet m).state).state) ∧
      (∀ (s : Session MemoryState) (schedule : List JoinedCall), Completes schedule →
        s.refreshBy memory schedule = some (s.refresh memory)) ∧
      (∀ (s : Session σ) (schedule : List JoinedCall), Completes schedule →
        ∃ r, s.refreshBy remote schedule = some r ∧
          Agree (SameUpTo (Sender.SameQueues queue)) r (s.refresh remote)) ∧
      (∀ (s : Session MemoryState) (w : Wallet), s.dashboard.mode = .active w →
        (s.refresh memory).2.service = s.service.refreshed ∧
          ∀ e, (memory.refreshWallet s.service).outcome = .error e →
            (s.refresh memory).1 = false ∧
              (s.refresh memory).2.outbox = s.outbox.post [.error e.message]) ∧
      (∀ (s : Session σ) (w : Wallet), s.dashboard.mode = .active w →
        (∀ method ∈ ["wallet_refresh", "chain_blockHeight"],
          queue method (s.refresh remote).2.service =
            queue method (send ⟨method, []⟩ s.service).2) ∧
          ∀ e, (remote.refreshWallet s.service).outcome = .error e →
            (s.refresh remote).1 = false ∧
              (s.refresh remote).2.outbox = s.outbox.post [.error e.message]) := by
  intro memory remote
  have hmemory : memory.Interchanges (· = ·) := MemoryState.interchanges mint window
  have hremote : remote.Interchanges (Sender.SameQueues queue) := hq.interchanges window
  have hboth : ∀ m, (memory.refreshBlockHeight (memory.refreshWallet m).state).state =
      m.refreshed := fun m => congrArg Reply.state m.refreshBlockHeight_after_wallet
  refine ⟨hmemory, hremote, hboth, hq.refreshed window, ?_, ?_, ?_, ?_⟩
  · intro s schedule hs
    obtain ⟨⟨b, t⟩, hr, hb, ht⟩ :=
      refreshBy_agrees (s := s) hmemory memory.loadsAlike_eq (fun _ => rfl) hs
    rw [hr, ← show (b, t) = s.refresh memory from Prod.ext hb ht.eq]
  · intro s schedule hs
    exact refreshBy_agrees hremote (hq.loadsAlike window) (fun _ _ => rfl) hs
  · intro s w hm
    refine ⟨?_, fun e he => refresh_of_refreshWallet_error hm he⟩
    have hreads := MemoryState.onlyReads_service mint window
    exact keeps_service_refresh (Q := (· = s.service.refreshed)) hm
      (fun m h => (hreads.state_getWallet m).trans h)
      (fun m h => (hreads.state_recentBlocks m).trans h) (hboth s.service)
  · intro s w hm
    refine ⟨?_, fun e he => refresh_of_refreshWallet_error hm he⟩
    let done := (remote.refreshBlockHeight (remote.refreshWallet s.service).state).state
    have hdone : send.Refreshed queue s.service done := hq.refreshed window s.service
    -- A load after the two calls takes its answers from other queues.
    have hkeep : ∀ method, method ≠ "wallet_get" → method ≠ "chain_recentBlocks" →
        queue method (s.refresh remote).2.service = queue method done := by
      intro method hg hb
      exact keeps_service_refresh (Q := fun m => queue method m = queue method done) hm
        (fun m h => (hq.queue_send_of_ne ⟨"wallet_get", []⟩ hg m).trans h)
        (fun m h => (hq.queue_send_of_ne ⟨"chain_recentBlocks", _⟩ hb m).trans h) rfl
    intro method hmethod
    simp only [List.mem_cons, List.not_mem_nil, or_false] at hmethod
    rcases hmethod with rfl | rfl
    · rw [hkeep _ (by decide) (by decide), hdone.wallet]
    · rw [hkeep _ (by decide) (by decide), hdone.height]

/-- Both calls fail, the height is done first, and both answers are taken from their queues: the
user is told about the balance. -/
theorem refresh_any_schedule_both_failing :
    let send : Sender PreparedNode := PreparedNode.send
    let svc := remoteService send 50
    let n : PreparedNode :=
      { endpoint := .web "http://node/"
        queues :=
          [("chain_blockHeight", [.value 503 .null, .hangUp]),
            ("wallet_refresh", [.hangUp, .value 200 .null])] }
    let s : Session PreparedNode :=
      { dashboard := { pageSize := ⟨6, by decide⟩, mode := .active ⟨"A", 5⟩ }, service := n }
    let schedule : List JoinedCall := [.height, .height, .wallet, .wallet]
    let told : Failure := .client "Reqwest error: error sending request for url (http://node/)"
    send.AnswersByMethod PreparedNode.queue ∧ Completes schedule ∧
      (svc.refreshWallet n).outcome = .error told ∧
      (∃ e, (svc.refreshBlockHeight n).outcome = .error e ∧ e ≠ told) ∧
      ∃ r, s.refreshBy svc schedule = some r ∧ r.1 = false ∧
        r.2.outbox.unread = [.error told.message] ∧
        PreparedNode.queue "wallet_refresh" r.2.service =
          (.web "http://node/", true, [.value 200 .null]) ∧
        PreparedNode.queue "chain_blockHeight" r.2.service =
          (.web "http://node/", true, [.hangUp]) := by
  intro send svc n s schedule told
  have hq : send.AnswersByMethod PreparedNode.queue := PreparedNode.answersByMethod
  have hs : Completes schedule := by decide
  have hwallet : (svc.refreshWallet n).outcome = .error told := by rfl
  have hheight : (svc.refreshBlockHeight n).outcome = .error (.client
      "Reqwest error: HTTP status server error (503 X) for url (http://node/)") := by rfl
  obtain ⟨-, -, -, -, -, hschedule, -, hactive⟩ :=
    refresh_any_schedule (fun _ => default) 50 send PreparedNode.queue hq
  obtain ⟨r, hr, hfst, hsame⟩ := hschedule s schedule hs
  obtain ⟨heffect, htold⟩ := hactive s ⟨"A", 5⟩ rfl
  obtain ⟨hfails, hout⟩ := htold told hwallet
  refine ⟨hq, hs, hwallet, ⟨_, hheight, by decide⟩, r, hr, hfst.trans hfails, ?_, ?_, ?_⟩
  · rw [hsame.outbox, hout]
    rfl
  · rw [hsame.service, heffect _ (by decide)]
    rfl
  · rw [hsame.service, heffect _ (by decide)]
    rfl

end Session

end WalletDashboard
