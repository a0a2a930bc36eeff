import WalletDashboard.Proofs.Exchanges

/-!
# What the user is told about failures

Operations are made of one another, and each of them both tells the user about failures and gives
back whether there was one. Still no failure is told twice, none is lost, and none is told by an
operation that then counts as successful.

* `Session.Tells s es s'`: on the way from `s` to `s'` the user is told about the failures `es`, in
  an error notice each, and in their order (`Tells.after`).
* `Session.stop?` is the failure that stops an operation, read off the exchanges with the service.
* `Session.Reports s stop r`: the user is told about `stop` and about nothing else, and what `r`
  gives back is whether there was no such failure. Loading reports so (`load_reports`), and with it
  whatever ends in a load.

`errorTexts_perform` puts them together, over any dashboard and any service.
-/

namespace WalletDashboard

/-! ### Notices on their way to the user -/

/-- The outbox after notices were sent. Nothing comes of them if nobody reads them. -/
def Outbox.post (notices : List Notice) (o : Outbox) : Outbox :=
  if o.isRead then { o with unread := o.unread ++ notices } else o

@[simp] theorem Outbox.post_nil (o : Outbox) : o.post [] = o := by
  obtain ⟨_ | _, unread⟩ := o <;> simp [post]

theorem Outbox.post_post (ns ms : List Notice) (o : Outbox) :
    (o.post ns).post ms = o.post (ns ++ ms) := by
  obtain ⟨_ | _, unread⟩ := o <;> simp [post]

/-- The text of an error notice. -/
def Notice.errorText? : Notice → Option String
  | info _ => none
  | error text => some text

/-- The texts of the error notices. -/
def errorTexts (notices : List Notice) : List String := notices.filterMap Notice.errorText?

theorem errorTexts_append (ns ms : List Notice) :
    errorTexts (ns ++ ms) = errorTexts ns ++ errorTexts ms :=
  List.filterMap_append

/-! ### Failures among the exchanges -/

/-- The failure that an outcome is, if it is one. -/
def failureOf? {α : Type} : Except Failure α → Option Failure
  | .ok _ => none
  | .error e => some e

@[simp] theorem failureOf?_ok {α : Type} (x : α) :
    failureOf? (.ok x : Except Failure α) = none := rfl

@[simp] theorem failureOf?_error {α : Type} (e : Failure) :
    failureOf? (.error e : Except Failure α) = some e := rfl

@[simp] theorem failureOf?_map {α β : Type} (f : α → β) (r : Except Failure α) :
    failureOf? (r.map f) = failureOf? r := by
  cases r <;> rfl

/-- The failure that an exchange ended with, if it did. -/
def Exchange.failure? (x : Exchange) : Option Failure := failureOf? x.outcome

/-- The failures among the exchanges, in order. -/
def failures (xs : List Exchange) : List Failure := xs.filterMap Exchange.failure?

@[simp] theorem failures_nil : failures [] = [] := rfl

theorem failures_cons_of_none {x : Exchange} {xs : List Exchange} (h : x.failure? = none) :
    failures (x :: xs) = failures xs :=
  List.filterMap_cons_none h

theorem failures_cons_of_some {x : Exchange} {xs : List Exchange} {e : Failure}
    (h : x.failure? = some e) : failures (x :: xs) = e :: failures xs :=
  List.filterMap_cons_some h

@[simp] theorem failures_cons (x : Exchange) (xs : List Exchange) :
    failures (x :: xs) = x.failure?.toList ++ failures xs := by
  cases h : x.failure? with
  | none => exact failures_cons_of_none h
  | some e => exact failures_cons_of_some h

theorem failures_append (xs ys : List Exchange) :
    failures (xs ++ ys) = failures xs ++ failures ys :=
  List.filterMap_append

namespace WalletService

variable {σ : Type} (svc : WalletService σ)

theorem failure?_exchange (c : ServiceCall) (m : σ) :
    (svc.exchange c m).failure? =
      match c with
      | .getWallet => failureOf? (svc.getWallet m).outcome
      | .createWallet => failureOf? (svc.createWallet m).outcome
      | .importWallet key => failureOf? (svc.importWallet key m).outcome
      | .refreshWallet => failureOf? (svc.refreshWallet m).outcome
      | .refreshBlockHeight => failureOf? (svc.refreshBlockHeight m).outcome
      | .logout => failureOf? (svc.logout m).outcome
      | .recentBlocks => failureOf? (svc.recentBlocks m).outcome := by
  cases c <;> exact failureOf?_map _ _

/-- At most one call of a load fails, the last. -/
theorem failures_loadExchanges (m : σ) :
    failures (svc.loadExchanges m) = (failures (svc.loadExchanges m)).head?.toList := by
  cases hw : (svc.getWallet m).outcome with
  | error e => simp [svc.loadExchanges_of_error hw, failure?_exchange, hw]
  | ok wallet =>
    cases wallet with
    | none => simp [svc.loadExchanges_of_none hw, failure?_exchange, hw]
    | some w =>
      cases hb : (svc.recentBlocks (svc.getWallet m).state).outcome <;>
        simp [svc.loadExchanges_of_wallet hw, failure?_exchange, hw, hb]

end WalletService

/-- Without a key there is nothing to import. -/
def keyFailure? (key : String) : Option Failure :=
  if Text.trim key = "" then some .invalidKey else none

namespace Session

variable {σ : Type}

/-- The failure for want of a key, if the operation gets as far as to need one. -/
def missingKey? (svc : WalletService σ) (s : Session σ) : Action → Option Failure
  | .importWallet key => keyFailure? key
  | .importOnStartup key =>
    match (svc.getWallet s.service).outcome with
    | .ok none => keyFailure? key
    | _ => none
  | _ => none

/-- The failure that stops an operation: the first that the service answers with, or else that there
is no key. -/
def stop? (svc : WalletService σ) (s : Session σ) (a : Action) : Option Failure :=
  (failures (s.exchanges svc a)).head?.or (s.missingKey? svc a)

/-! ### Telling the user -/

section Outbox

variable (s : Session σ)

theorem outbox_notify (n : Notice) : (s.notify n).outbox = s.outbox.post [n] := by
  obtain ⟨d, m, ⟨_ | _, unread⟩, log⟩ := s <;> rfl

theorem outbox_turnTo (mode : Mode) : (s.turnTo mode).outbox = s.outbox := by
  simp only [turnTo]; split <;> rfl

end Outbox

/-- On the way from `s` to `s'` the user is told about the failures `es`, one by one. -/
def Tells (s : Session σ) (es : List Failure) (s' : Session σ) : Prop :=
  ∃ ns, s'.outbox = s.outbox.post ns ∧ errorTexts ns = es.map Failure.message

variable {s s₁ s₂ : Session σ} {es es' : List Failure}

theorem Tells.of_outbox_eq (h : s₁.outbox = s.outbox) : Tells s [] s₁ :=
  ⟨[], by rw [h, Outbox.post_nil], rfl⟩

/-- What was told before comes first. -/
theorem Tells.after (h' : Tells s₁ es' s₂) (h : Tells s es s₁) : Tells s (es ++ es') s₂ := by
  obtain ⟨ns, ho, ht⟩ := h
  obtain ⟨ns', ho', ht'⟩ := h'
  exact ⟨ns ++ ns', by rw [ho', ho, Outbox.post_post],
    by rw [errorTexts_append, ht, ht', List.map_append]⟩

theorem Tells.notify_info (h : Tells s es s₁) (text : String) :
    Tells s es (s₁.notify (.info text)) := by
  have hn : Tells s₁ [] (s₁.notify (.info text)) := ⟨[.info text], outbox_notify s₁ _, rfl⟩
  rw [← List.append_nil es]
  exact hn.after h

theorem Tells.notifyFailure (h : Tells s es s₁) (e : Failure) :
    Tells s (es ++ [e]) (s₁.notifyFailure e) := by
  have hn : Tells s₁ [e] (s₁.notifyFailure e) :=
    ⟨[.error e.message], outbox_notify (s₁.write _) _, rfl⟩
  exact hn.after h

theorem Tells.turnTo (h : Tells s es s₁) (mode : Mode) : Tells s es (s₁.turnTo mode) := by
  obtain ⟨ns, ho, ht⟩ := h
  exact ⟨ns, by rw [outbox_turnTo, ho], ht⟩

/-- The user is told about the failure `stop`, if there is one, and about no other; what `r` gives
back is that there is none. -/
structure Reports (s : Session σ) (stop : Option Failure) (r : Bool × Session σ) : Prop where
  tells : Tells s stop.toList r.2
  fst_eq : r.1 = stop.isNone

/-- What was told before counts too, but it was no failure. -/
theorem Reports.after {stop : Option Failure} {r : Bool × Session σ} (hr : Reports s₁ stop r)
    (h : Tells s [] s₁) : Reports s stop r where
  tells := hr.tells.after h
  fst_eq := hr.fst_eq

/-- To give up is to report. -/
theorem Reports.give_up (e : Failure) (h : s₁.outbox = s.outbox) :
    Reports s (some e) (false, s₁.notifyFailure e) where
  tells := (Tells.of_outbox_eq h).notifyFailure e
  fst_eq := rfl

/-! ### The operations -/

section Operations

variable (svc : WalletService σ) (s : Session σ)

theorem outbox_reloadBlocks : (s.reloadBlocks svc).2.outbox = s.outbox := by
  cases ha : s.dashboard.mode.address? with
  | none =>
    rw [reloadBlocks_of_none ha]
    rfl
  | some address =>
    cases hb : (svc.recentBlocks s.service).outcome with
    | ok blocks =>
      rw [reloadBlocks_of_ok ha hb]
      rfl
    | error e =>
      rw [reloadBlocks_of_error ha hb]
      rfl

theorem failureOf?_reloadBlocks {address : String} (h : s.dashboard.mode.address? = some address) :
    failureOf? (s.reloadBlocks svc).1 = failureOf? (svc.recentBlocks s.service).outcome := by
  cases hb : (svc.recentBlocks s.service).outcome with
  | ok blocks =>
    rw [reloadBlocks_of_ok h hb]
    rfl
  | error e =>
    rw [reloadBlocks_of_error h hb]
    rfl

/-- Until its outcome is known a load tells the user nothing. -/
theorem outbox_tryLoad : (s.tryLoad svc).2.outbox = s.outbox := by
  cases hw : (svc.getWallet s.service).outcome with
  | error e =>
    rw [tryLoad_of_error hw]
    rfl
  | ok wallet =>
    rw [tryLoad_of_ok hw, outbox_reloadBlocks, outbox_turnTo]
    rfl

/-- A load is stopped by the call that fails. -/
theorem failureOf?_tryLoad :
    failureOf? (s.tryLoad svc).1 = (failures (svc.loadExchanges s.service)).head? := by
  cases hw : (svc.getWallet s.service).outcome with
  | error e =>
    rw [tryLoad_of_error hw, svc.loadExchanges_of_error hw]
    simp [svc.failure?_exchange, hw]
  | ok wallet =>
    rw [tryLoad_of_ok hw]
    cases wallet with
    | none =>
      rw [reloadBlocks_of_none (by rw [dashboard_turnTo]; rfl), svc.loadExchanges_of_none hw]
      simp [svc.failure?_exchange, hw]
    | some w =>
      have ha : ((s.ask svc.getWallet).2.turnTo (.active w)).dashboard.mode.address? =
          some w.address := by rw [dashboard_turnTo]; rfl
      have hr := failureOf?_reloadBlocks svc _ ha
      rw [service_turnTo, service_ask] at hr
      rw [Mode.ofWallet?, hr, svc.loadExchanges_of_wallet hw]
      simp [svc.failure?_exchange, hw]

theorem settleOutcome_reports {α : Type} {r : Except Failure α × Session σ}
    (h : r.2.outbox = s.outbox) : Reports s (failureOf? r.1) (settleOutcome r) := by
  obtain ⟨e | x, s₁⟩ := r
  · exact .give_up e h
  · exact ⟨.of_outbox_eq h, rfl⟩

/-- **A load reports the call that fails.** -/
theorem load_reports :
    Reports s (failures (svc.loadExchanges s.service)).head? (s.load svc) := by
  rw [← failureOf?_tryLoad]
  exact settleOutcome_reports s (outbox_tryLoad svc s)

theorem importWallet_reports (key : String) :
    Reports s ((failures (svc.importExchanges key s.service)).head?.or (keyFailure? key))
      (s.importWallet svc key) := by
  by_cases hk : Text.trim key = ""
  · rw [importWallet_of_blank hk]
    simp only [WalletService.importExchanges, keyFailure?, if_pos hk]
    exact .give_up .invalidKey rfl
  · simp only [WalletService.importExchanges, keyFailure?, if_neg hk, Option.or_none]
    cases hi : (svc.importWallet (Text.trim key) s.service).outcome with
    | error e =>
      rw [importWallet_of_error hk hi,
        failures_cons_of_some (e := e) (by simp [svc.failure?_exchange, hi]), List.head?_cons]
      exact .give_up e rfl
    | ok _ =>
      rw [importWallet_of_ok hk hi, failures_cons_of_none (by simp [svc.failure?_exchange, hi])]
      have hl := load_reports svc
        ((s.ask (svc.importWallet (Text.trim key))).2.notify (.info "Wallet imported."))
      rw [service_notify, service_ask] at hl
      exact hl.after (.notify_info (.of_outbox_eq rfl) _)

theorem importOnStartup_reports (key : String) :
    Reports s
      ((failures (svc.startupExchanges key s.service)).head?.or
        (s.missingKey? svc (.importOnStartup key)))
      (s.importOnStartup svc key) := by
  have hl := load_reports svc s
  cases hw : (svc.getWallet s.service).outcome with
  | error e =>
    rw [importOnStartup_of_error hw]
    simpa only [WalletService.startupExchanges, missingKey?, hw, List.append_nil,
      Option.or_none] using hl
  | ok wallet =>
    cases wallet with
    | some w =>
      rw [importOnStartup_of_wallet hw]
      simp only [WalletService.startupExchanges, missingKey?, hw, List.append_nil, Option.or_none]
      refine ⟨?_, hl.fst_eq⟩
      split <;> exact hl.tells
    | none =>
      rw [importOnStartup_of_none hw]
      have hi := importWallet_reports svc (s.load svc).2 key
      have hf : failures (svc.loadExchanges s.service) = [] := by
        simp [svc.loadExchanges_of_none hw, svc.failure?_exchange, hw]
      rw [hf] at hl
      rw [service_load_of_none hw] at hi
      simp only [WalletService.startupExchanges, missingKey?, hw, failures_append, hf,
        List.nil_append]
      exact hi.after hl.tells

theorem outbox_refreshBoth : (s.refreshBoth svc).2.outbox = s.outbox := by
  rw [snd_refreshBoth]
  rfl

/-- If both calls of a refresh fail, the first of them counts. -/
theorem refresh_reports :
    Reports s (failures (svc.refreshExchanges s.dashboard.mode s.service)).head?
      (s.refresh svc) := by
  cases hm : s.dashboard.mode with
  | justCreated e =>
    rw [refresh_of_justCreated hm]
    exact ⟨.of_outbox_eq rfl, rfl⟩
  | noWallet =>
    rw [refresh_of_noWallet hm]
    exact load_reports svc s
  | active w =>
    have ho := outbox_refreshBoth svc s
    cases hr : (s.refreshBoth svc).1 with
    | ok height =>
      rw [refresh_of_ok hm hr]
      obtain ⟨hw, hh⟩ := fst_refreshBoth_eq_ok_iff.mp hr
      have hl := load_reports svc
        ((s.refreshBoth svc).2.onDashboard ({ · with blockHeight := some height }))
      rw [service_onDashboard, service_refreshBoth] at hl
      have hf : failures (svc.refreshExchanges (.active w) s.service) =
          failures (svc.loadExchanges
            (svc.refreshBlockHeight (svc.refreshWallet s.service).state).state) := by
        simp [WalletService.refreshExchanges, svc.failure?_exchange, hw, hh]
      rw [hf]
      exact hl.after (.of_outbox_eq ho)
    | error e =>
      have hf : (failures (svc.refreshExchanges (.active w) s.service)).head? = some e := by
        obtain hw | ⟨hw, hh⟩ := fst_refreshBoth_eq_error_iff.mp hr
        · simp [WalletService.refreshExchanges, svc.failure?_exchange, hw]
        · simp [WalletService.refreshExchanges, svc.failure?_exchange, hw, hh]
      rw [refresh_of_error hm hr, hf]
      exact .give_up e ho

theorem createWallet_tells :
    Tells s (failures [svc.exchange .createWallet s.service]).head?.toList
      (s.createWallet svc) := by
  cases h : (svc.createWallet s.service).outcome with
  | ok e =>
    rw [createWallet_of_ok h, failures_cons_of_none (by simp [svc.failure?_exchange, h]),
      failures_nil]
    refine .turnTo (.notify_info (.of_outbox_eq ?_) _) _
    rfl
  | error e =>
    rw [createWallet_of_error h,
      failures_cons_of_some (e := e) (by simp [svc.failure?_exchange, h])]
    exact .notifyFailure (.of_outbox_eq rfl) e

theorem acknowledgeExport_tells :
    Tells s (failures (svc.acknowledgeExchanges s.dashboard.mode s.service)).head?.toList
      (s.acknowledgeExport svc) := by
  simp only [acknowledgeExport, WalletService.acknowledgeExchanges]
  cases s.dashboard.mode with
  | justCreated e => exact (load_reports svc s).tells
  | noWallet | active => exact .of_outbox_eq rfl

/-- A confirmed switch tells about the failed logout and about the failed load. -/
theorem confirmSwitch_tells :
    Tells s (failures (svc.switchExchanges s.dashboard.switch s.service))
      (s.confirmSwitch svc) := by
  cases hs : s.dashboard.switch with
  | closed =>
    rw [confirmSwitch_of_closed hs]
    exact .of_outbox_eq rfl
  | opened =>
    rw [WalletService.switchExchanges]
    cases h : (svc.logout s.service).outcome with
    | ok _ =>
      rw [confirmSwitch_of_ok hs h, failures_cons_of_none (by simp [svc.failure?_exchange, h])]
      have hl := load_reports svc
        (((s.onDashboard ({ · with switch := .closed })).ask svc.logout).2.write
          [⟨.info, "[Dashboard] Logged out, ready for another wallet"⟩])
      rw [service_write, service_ask, service_onDashboard] at hl
      rw [svc.failures_loadExchanges]
      exact hl.tells.after (.of_outbox_eq rfl)
    | error e =>
      rw [confirmSwitch_of_error hs h,
        failures_cons_of_some (e := e) (by simp [svc.failure?_exchange, h])]
      have hl := load_reports svc
        (((s.onDashboard ({ · with switch := .closed })).ask svc.logout).2.notifyFailure e)
      rw [service_notifyFailure, service_ask, service_onDashboard] at hl
      rw [svc.failures_loadExchanges]
      exact hl.tells.after (.notifyFailure (.of_outbox_eq rfl) e)

theorem stop?_eq (a : Action) :
    s.stop? svc a =
      (failures (svc.exchangesOf s.dashboard s.service a)).head?.or (s.missingKey? svc a) := by
  rw [stop?, exchanges_eq]

/-- **Every operation that gives back whether it succeeded reports what stopped it.** -/
theorem perform_reports (a : Action) {b : Bool} (hb : (s.perform svc a).1 = some b) :
    Reports s (s.stop? svc a) (b, (s.perform svc a).2) := by
  rw [stop?_eq]
  cases a <;> simp only [perform, Prod.map_fst, Prod.map_snd, id_eq, Option.some.injEq,
    reduceCtorEq, WalletService.exchangesOf, missingKey?, Option.or_none] at hb ⊢ <;>
    subst hb <;> rw [Prod.eta]
  case load => exact load_reports svc s
  case refresh => exact refresh_reports svc s
  case importWallet key => exact importWallet_reports svc s key
  case importOnStartup key => exact importOnStartup_reports svc s key

/-- The user is told what stopped an operation. Only a confirmed switch goes on after a failure. -/
theorem perform_tells (a : Action) (ha : a ≠ .confirmSwitch) :
    Tells s (s.stop? svc a).toList (s.perform svc a).2 := by
  cases hp : (s.perform svc a).1 with
  | some b => exact (perform_reports svc s a hp).tells
  | none =>
    rw [stop?_eq]
    cases a <;> simp only [perform, Prod.map_fst, reduceCtorEq, WalletService.exchangesOf,
      missingKey?, Option.or_none] at hp ⊢
    case createWallet => exact createWallet_tells svc s
    case acknowledgeExport => exact acknowledgeExport_tells svc s
    case confirmSwitch => exact absurd rfl ha
    all_goals exact .of_outbox_eq rfl

/-- The failed call of a load is the only one, so that all its failures are told. -/
theorem toList_stop?_load :
    (s.stop? svc .load).toList = failures (svc.loadExchanges s.service) := by
  rw [stop?_eq, svc.failures_loadExchanges s.service]
  simp only [WalletService.exchangesOf, missingKey?, Option.or_none]

theorem stop?_refresh_of_error {w : Wallet} {e : Failure} (hm : s.dashboard.mode = .active w)
    (h : (svc.refreshWallet s.service).outcome = .error e) : s.stop? svc .refresh = some e := by
  rw [stop?_eq, WalletService.exchangesOf, hm, WalletService.refreshExchanges,
    failures_cons_of_some (e := e) (by simp [svc.failure?_exchange, h])]
  rfl

end Operations

/-- **Whoever reads the notices is told about every failure once.** An operation that gives back
whether it succeeded sends no error notice if it did and one if it did not, with the text of what
stopped it; in a refresh the failure of the balance comes before that of the height. A confirmed
switch sends a notice for the logout and one for the load that comes after it, as far as they
fail. -/
theorem errorTexts_perform (svc : WalletService σ) (s : Session σ) (a : Action) :
    ∃ ns, (s.perform svc a).2.outbox = s.outbox.post ns ∧
      (∀ b, (s.perform svc a).1 = some b →
        (b = true ↔ errorTexts ns = []) ∧
          (b = false ↔ (errorTexts ns).length = 1) ∧
          errorTexts ns = (s.stop? svc a).toList.map Failure.message) ∧
      (a = .refresh → ∀ w e, s.dashboard.mode = .active w →
        (svc.refreshWallet s.service).outcome = .error e → errorTexts ns = [e.message]) ∧
      (a = .createWallet ∨ a = .acknowledgeExport → (errorTexts ns).length ≤ 1) ∧
      (a = .confirmSwitch →
        errorTexts ns =
          match s.dashboard.switch with
          | .closed => []
          | .opened =>
            ((failureOf? (svc.logout s.service).outcome).toList ++
              ((s.onService fun m => (svc.logout m).state).stop? svc .load).toList).map
                Failure.message) := by
  by_cases ha : a = .confirmSwitch
  · subst ha
    obtain ⟨ns, ho, ht⟩ := confirmSwitch_tells svc s
    refine ⟨ns, ho, by simp [perform], by simp, by simp, fun _ => ?_⟩
    rw [ht]
    cases s.dashboard.switch with
    | closed => rfl
    | opened =>
      simp only [WalletService.switchExchanges, failures_cons, svc.failure?_exchange]
      rw [toList_stop?_load]
      rfl
  · obtain ⟨ns, ho, ht⟩ := perform_tells svc s a ha
    have hle : (errorTexts ns).length ≤ 1 := by
      rw [ht, List.length_map]
      exact Option.length_toList_le
    refine ⟨ns, ho, fun b hb => ?_, ?_, fun _ => hle, fun h => absurd h ha⟩
    · have hr : b = (s.stop? svc a).isNone := (perform_reports svc s a hb).fst_eq
      rw [ht, hr]
      cases s.stop? svc a <;> simp
    · rintro rfl w e hm he
      rw [ht, stop?_refresh_of_error svc s hm he]
      rfl

end Session

end WalletDashboard
