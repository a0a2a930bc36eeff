import WalletDashboard.Proofs.Exchanges
import WalletDashboard.Rpc.Node
import WalletDashboard.Service.Remote

/-!
# What is sent to a node

Every call of the service of a node is one request (`ServiceCall.request`), so the exchanges of an
operation tell which requests are sent in the course of it.

* `Sender.Logs`: as long as the way to a node can be used, the node receives what is sent, once and
  in order. A prepared node does so while it can be reached at a web address (`PreparedNode.logs`).
* `Session.requestsOf` spells out the requests of every operation, from what the dashboard shows
  when it begins and from what the node answers to the earlier ones.
* `Session.received_perform`: these are the requests that the node receives, and there are no
  others.
-/

namespace WalletDashboard

namespace Text

/-- `trimmed` is `text` without the white space around it, and otherwise unchanged. -/
def IsTrimOf (trimmed text : List Char) : Prop :=
  ∃ before after, text = before ++ trimmed ++ after ∧
    (∀ c ∈ before ++ after, isBlank c = true) ∧
    (∀ c, trimmed.head? = some c ∨ trimmed.getLast? = some c → isBlank c = false)

theorem isTrimOf_trimList (cs : List Char) : IsTrimOf (trimList cs) cs := by
  -- First the front is cut off, then the same is done from behind.
  let rest := cs.dropWhile isBlank
  have hfront : cs.takeWhile isBlank ++ rest = cs := List.takeWhile_append_dropWhile
  have hback : trimList cs ++ (rest.reverse.takeWhile isBlank).reverse = rest := by
    rw [trimList, ← List.reverse_append, List.takeWhile_append_dropWhile, List.reverse_reverse]
  refine ⟨cs.takeWhile isBlank, (rest.reverse.takeWhile isBlank).reverse, ?_, ?_, ?_⟩
  · rw [List.append_assoc, hback, hfront]
  · intro c hc
    rcases List.mem_append.mp hc with hc | hc
    · exact List.all_eq_true.mp List.all_takeWhile c hc
    · exact List.all_eq_true.mp List.all_takeWhile c (List.mem_reverse.mp hc)
  · rintro c (hc | hc)
    -- What stands first after the cut at the back stood first before it.
    · have hfirst : rest.head? = some c := by
        rw [← hback, List.head?_append, hc]
        rfl
      have hnot := List.head?_dropWhile_not isBlank cs
      rwa [show (cs.dropWhile isBlank).head? = some c from hfirst] at hnot
    · have hnot := List.head?_dropWhile_not isBlank rest.reverse
      rw [trimList, List.getLast?_reverse] at hc
      rwa [hc] at hnot

end Text

/-! ### Requests and the way to a node -/

/-- The request that a call of the service of a node makes. -/
def ServiceCall.request (recent : UInt64) : ServiceCall → RpcRequest
  | .getWallet => ⟨"wallet_get", []⟩
  | .createWallet => ⟨"wallet_create", []⟩
  | .importWallet key => ⟨"wallet_import", [.string key]⟩
  | .refreshWallet => ⟨"wallet_refresh", []⟩
  | .refreshBlockHeight => ⟨"chain_blockHeight", []⟩
  | .logout => ⟨"wallet_logout", []⟩
  | .recentBlocks => ⟨"chain_recentBlocks", [.nat recent]⟩

/-- A way that can be used takes every request to the node, once and in order, and can then still be
used. -/
structure Sender.Logs {σ : Type} (send : Sender σ) (usable : σ → Prop)
    (received : σ → List RpcRequest) : Prop where
  received_send {m : σ} (h : usable m) (r : RpcRequest) :
    received (send r m).2 = received m ++ [r]
  usable_send {m : σ} (h : usable m) (r : RpcRequest) : usable (send r m).2

namespace PreparedNode

/-- The node can be reached at a web address. -/
def IsUsable (n : PreparedNode) : Prop := n.isReachable = true ∧ ∃ url, n.endpoint = .web url

theorem logs : Sender.Logs send IsUsable received where
  received_send := by
    rintro n ⟨hr, url, hu⟩ r
    simp only [send, hu, hr, if_true]
  usable_send := by
    rintro n ⟨hr, url, hu⟩ r
    simp only [send, hu, hr, if_true, IsUsable, setQueue]
    exact ⟨trivial, url, rfl⟩

end PreparedNode

/-- A call sends its request, and nothing else comes of it on the way to the node. -/
theorem state_call_remoteService {σ : Type} (send : Sender σ) (recent : UInt64) (c : ServiceCall)
    (m : σ) :
    ((remoteService send recent.toNat).call c m).state = (send (c.request recent) m).2 := by
  cases c with
  | recentBlocks =>
    show (send ⟨"chain_recentBlocks", [.nat (UInt64.ofNat recent.toNat)]⟩ m).2 = _
    rw [UInt64.ofNat_toNat]
    rfl
  | createWallet =>
    show (send.createWallet m).state = _
    unfold Sender.createWallet
    simp only
    split <;> rfl
  | _ => rfl

namespace Session

variable {σ : Type} (send : Sender σ) (recent : UInt64)

/-- The requests of a load: the blocks are asked for only if there is a wallet. -/
def loadRequests (m : σ) : List RpcRequest :=
  ServiceCall.getWallet.request recent ::
    match ((remoteService send recent.toNat).getWallet m).outcome with
    | .ok (some _) => [ServiceCall.recentBlocks.request recent]
    | _ => []

/-- The requests of an import: a blank key is not sent, and what is left of another one without the
white space around it is sent as it is. -/
def importRequests (key : String) (m : σ) : List RpcRequest :=
  if Text.trim key = "" then []
  else
    let reply := (remoteService send recent.toNat).importWallet (Text.trim key) m
    (ServiceCall.importWallet (Text.trim key)).request recent ::
      match reply.outcome with
      | .ok _ => loadRequests send recent reply.state
      | .error _ => []

/-- The requests of a refresh over `mode`: the balance and the height are both asked for, whatever
either comes to. -/
def refreshRequests (mode : Mode) (m : σ) : List RpcRequest :=
  match mode with
  | .justCreated _ => []
  | .noWallet => loadRequests send recent m
  | .active _ =>
    let svc := remoteService send recent.toNat
    let wallet := svc.refreshWallet m
    let height := svc.refreshBlockHeight wallet.state
    [ServiceCall.refreshWallet.request recent, ServiceCall.refreshBlockHeight.request recent] ++
      match wallet.outcome, height.outcome with
      | .ok _, .ok _ => loadRequests send recent height.state
      | _, _ => []

/-- The requests of an operation. -/
def requestsOf (s : Session σ) : Action → List RpcRequest
  | .load => loadRequests send recent s.service
  | .refresh => refreshRequests send recent s.dashboard.mode s.service
  | .importWallet key => importRequests send recent key s.service
  | .importOnStartup key =>
    let loaded := s.load (remoteService send recent.toNat)
    loadRequests send recent s.service ++
      if loaded.1 = true ∧ loaded.2.dashboard.mode.wallet? = none then
        importRequests send recent key loaded.2.service
      else []
  | .createWallet => [ServiceCall.createWallet.request recent]
  | .acknowledgeExport =>
    match s.dashboard.mode with
    | .justCreated _ => loadRequests send recent s.service
    | .noWallet | .active _ => []
  | .confirmSwitch =>
    match s.dashboard.switch with
    | .closed => []
    | .opened =>
      ServiceCall.logout.request recent ::
        loadRequests send recent ((remoteService send recent.toNat).logout s.service).state
  | .requestSwitch | .cancelSwitch | .nextPage | .previousPage | .jumpToPage _ => []

/-! ### The requests are those of the exchanges -/

/-- The requests that exchanges were made by. -/
def sentIn (xs : List Exchange) : List RpcRequest := xs.map fun x => x.call.request recent

theorem sentIn_loadExchanges (m : σ) :
    sentIn recent ((remoteService send recent.toNat).loadExchanges m) =
      loadRequests send recent m := by
  rcases hw : ((remoteService send recent.toNat).getWallet m).outcome with e | _ | w <;>
    simp only [WalletService.loadExchanges, loadRequests, hw] <;> rfl

theorem sentIn_importExchanges (key : String) (m : σ) :
    sentIn recent ((remoteService send recent.toNat).importExchanges key m) =
      importRequests send recent key m := by
  unfold WalletService.importExchanges importRequests
  split
  · rfl
  · simp only
    cases ((remoteService send recent.toNat).importWallet (Text.trim key) m).outcome with
    | error e => rfl
    | ok _ => exact congrArg (_ :: ·) (sentIn_loadExchanges send recent _)

theorem sentIn_refreshExchanges (mode : Mode) (m : σ) :
    sentIn recent ((remoteService send recent.toNat).refreshExchanges mode m) =
      refreshRequests send recent mode m := by
  cases mode with
  | justCreated e => rfl
  | noWallet => exact sentIn_loadExchanges send recent m
  | active w =>
    simp only [WalletService.refreshExchanges, refreshRequests]
    let svc := remoteService send recent.toNat
    cases (svc.refreshWallet m).outcome with
    | error e => rfl
    | ok _ =>
      cases (svc.refreshBlockHeight (svc.refreshWallet m).state).outcome with
      | error e => rfl
      | ok height => exact congrArg (_ :: _ :: ·) (sentIn_loadExchanges send recent _)

/-- A load goes through without a wallet exactly if the service answers that there is none. -/
theorem load_without_wallet_iff (svc : WalletService σ) (s : Session σ) :
    (s.load svc).1 = true ∧ (s.load svc).2.dashboard.mode.wallet? = none ↔
      (svc.getWallet s.service).outcome = .ok none := by
  constructor
  · rintro ⟨hl, hm⟩
    cases hw : (svc.getWallet s.service).outcome with
    | error e =>
      rw [load_of_error (tryLoad_of_error hw)] at hl
      cases hl
    | ok wallet =>
      rw [wallet?_load_of_ok hw] at hm
      rw [hm]
  · intro hw
    exact ⟨by rw [load_of_none hw], wallet?_load_of_ok hw⟩

theorem sentIn_startupExchanges (s : Session σ) (key : String) :
    sentIn recent ((remoteService send recent.toNat).startupExchanges key s.service) =
      requestsOf send recent s (.importOnStartup key) := by
  have hload := sentIn_loadExchanges send recent s.service
  have hiff := load_without_wallet_iff (remoteService send recent.toNat) s
  unfold WalletService.startupExchanges requestsOf
  rw [sentIn, List.map_append]
  change sentIn recent _ ++ sentIn recent _ = _
  rw [hload]
  congr 1
  cases hw : ((remoteService send recent.toNat).getWallet s.service).outcome with
  | error e =>
    rw [if_neg (by rw [hiff, hw]; nofun)]
    rfl
  | ok wallet =>
    cases wallet with
    | some w =>
      rw [if_neg (by rw [hiff, hw]; nofun)]
      rfl
    | none =>
      rw [if_pos (by rw [hiff, hw]), service_load_of_none hw]
      exact sentIn_importExchanges send recent key _

theorem sentIn_exchangesOf (s : Session σ) (a : Action) :
    sentIn recent ((remoteService send recent.toNat).exchangesOf s.dashboard s.service a) =
      requestsOf send recent s a := by
  cases a with
  | load => exact sentIn_loadExchanges send recent s.service
  | refresh => exact sentIn_refreshExchanges send recent s.dashboard.mode s.service
  | importWallet key => exact sentIn_importExchanges send recent key s.service
  | importOnStartup key => exact sentIn_startupExchanges send recent s key
  | acknowledgeExport =>
    simp only [WalletService.exchangesOf, WalletService.acknowledgeExchanges, requestsOf]
    cases s.dashboard.mode with
    | justCreated e => exact sentIn_loadExchanges send recent s.service
    | noWallet | active => rfl
  | confirmSwitch =>
    simp only [WalletService.exchangesOf, WalletService.switchExchanges, requestsOf]
    cases s.dashboard.switch with
    | closed => rfl
    | opened => exact congrArg (_ :: ·) (sentIn_loadExchanges send recent _)
  | createWallet | requestSwitch | cancelSwitch | nextPage | previousPage | jumpToPage => rfl

/-! ### What the node receives -/

variable {send recent} {usable : σ → Prop} {received : σ → List RpcRequest}

/-- The node receives what the exchanges on record were made by. -/
theorem received_recorded (h : send.Logs usable received) {s : Session σ} (hs : usable s.service)
    (a : Action) :
    received (s.perform (remoteService send recent.toNat) a).2.service =
      received s.service ++
        sentIn recent
          ((remoteService send recent.toNat).exchangesOf s.dashboard s.service a) := by
  let svc := remoteService send recent.toNat
  -- Call by call, the node has received as much as is on record.
  let Agrees (x : σ × List Exchange) : Prop :=
    usable x.1 ∧ received x.1 = received s.service ++ sentIn recent x.2
  have hcall : ∀ c x, Agrees x → Agrees (svc.recorded.call c x).state := by
    rintro c ⟨m, xs⟩ ⟨hm, hr⟩
    rw [svc.call_recorded]
    refine ⟨?_, ?_⟩
    · show usable (svc.call c m).state
      rw [state_call_remoteService]
      exact h.usable_send hm _
    · show received (svc.call c m).state = _
      rw [state_call_remoteService, h.received_send hm, hr, sentIn, sentIn, List.map_append,
        List.append_assoc]
      rfl
  have hmoves := perform_moves svc.recorded (s.recording []) a
  have hend := hmoves.keeps (P := fun x => Agrees x.2) (fun _ _ hm => hm.keeps_service hcall)
    ⟨hs, (List.append_nil _).symm⟩
  rw [perform_recording] at hend
  exact hend.2

/-- **The node receives the requests that are spelled out, and no others.** The key that an import
sends is the one that was given without the white space around it. -/
theorem received_perform (h : send.Logs usable received) {s : Session σ} (hs : usable s.service)
    (a : Action) :
    received (s.perform (remoteService send recent.toNat) a).2.service =
        received s.service ++ requestsOf send recent s a ∧
      ∀ key : String, Text.IsTrimOf (Text.trim key).toList key.toList := by
  refine ⟨?_, fun key => ?_⟩
  · rw [received_recorded h hs, sentIn_exchangesOf]
  · rw [Text.trim, String.toList_ofList]
    exact Text.isTrimOf_trimList _

/-- A key with white space around it, on startup, and a node that has no wallet before and after it
accepts the key. -/
theorem received_perform_startup :
    let n : PreparedNode :=
      { endpoint := .web "http://node/"
        queues :=
          [("wallet_get", [.value 200 (PreparedNode.resultBody .null)]),
            ("wallet_import", [.value 200 (PreparedNode.resultBody .null)])] }
    let s := Session.start ⟨6, by decide⟩ n
    Sender.Logs PreparedNode.send PreparedNode.IsUsable PreparedNode.received ∧ n.IsUsable ∧
      (s.perform (remoteService PreparedNode.send (50 : UInt64).toNat)
        (.importOnStartup " ab\t")).2.service.received =
          [⟨"wallet_get", []⟩, ⟨"wallet_import", [.string "ab"]⟩, ⟨"wallet_get", []⟩] := by
  intro n s
  have hn : n.IsUsable := ⟨rfl, "http://node/", rfl⟩
  let a : Action := .importOnStartup " ab\t"
  have hr :
      (s.perform (remoteService PreparedNode.send (50 : UInt64).toNat) a).2.service.received =
        s.service.received ++ requestsOf PreparedNode.send 50 s a :=
    (received_perform PreparedNode.logs hn a).1
  exact ⟨PreparedNode.logs, hn, hr⟩

end Session

end WalletDashboard
