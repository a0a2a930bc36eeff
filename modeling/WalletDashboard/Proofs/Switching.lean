import WalletDashboard.Proofs.Changes
import WalletDashboard.Proofs.Exchanges

/-!
# Switching to another wallet

Whether the user is being asked to confirm a switch depends on nothing but the last request,
cancellation or confirmation (`switchSteps`): the user is asked exactly after a request. The service
is told to log out once for every confirmation of a request, that is one with no other step of the
switch in between, and never else. Whether the logout goes through makes no difference.

`switch_step` and `logouts_exchangesAt` say what one event does to the confirmation and how often it
logs out, and `logouts_run` says so of every run.
-/

namespace WalletDashboard

/-! ### The steps of a switch -/

/-- The step of a switch that an operation is, if it is one. -/
def Action.switchStep? : Action → Option SwitchConfirm.Step
  | .requestSwitch => some .request
  | .cancelSwitch => some .cancel
  | .confirmSwitch => some .confirm
  | _ => none

/-- The step of a switch that an event is, if it is one. -/
def Event.switchStep? {κ : Type} : Event κ → Option SwitchConfirm.Step
  | .act a => a.switchStep?
  | .outside _ | .readerLeaves => none

/-- The requests, cancellations and confirmations among events, in order. -/
def switchSteps {κ : Type} (events : List (Event κ)) : List SwitchConfirm.Step :=
  events.filterMap Event.switchStep?

theorem switchSteps_cons_of_none {κ : Type} {e : Event κ} (events : List (Event κ))
    (h : e.switchStep? = none) : switchSteps (e :: events) = switchSteps events :=
  List.filterMap_cons_none h

theorem switchSteps_cons_of_some {κ : Type} {e : Event κ} {t : SwitchConfirm.Step}
    (events : List (Event κ)) (h : e.switchStep? = some t) :
    switchSteps (e :: events) = t :: switchSteps events :=
  List.filterMap_cons_some h

namespace SwitchConfirm

/-- The state after a step, if there is one. -/
def after (c : SwitchConfirm) : Option Step → SwitchConfirm
  | none => c
  | some t => (c.step t).2

theorem after_some_eq_opened_iff (c : SwitchConfirm) (t : Step) :
    c.after (some t) = .opened ↔ t = .request := by
  cases t <;> simp [after, step, request, cancel, confirm]

/-- The confirmations that come right after a request. -/
def confirmedRequests (steps : List Step) : Nat := (steps.zip steps.tail).count (.request, .confirm)

theorem confirmedRequests_cons_cons (t u : Step) (steps : List Step) :
    confirmedRequests (t :: u :: steps) =
      (if t = .request ∧ u = .confirm then 1 else 0) + confirmedRequests (u :: steps) := by
  simp only [confirmedRequests, List.tail_cons, List.zip_cons_cons, List.count_cons, beq_iff_eq,
    Prod.mk.injEq]
  omega

end SwitchConfirm

/-! ### Logouts among the exchanges -/

/-- How often the service was told to log out. -/
def logouts (xs : List Exchange) : Nat := xs.countP fun x => x.call = .logout

@[simp] theorem logouts_nil : logouts [] = 0 := rfl

theorem logouts_append (xs ys : List Exchange) : logouts (xs ++ ys) = logouts xs + logouts ys :=
  List.countP_append

theorem logouts_cons_of_eq {x : Exchange} (xs : List Exchange) (h : x.call = .logout) :
    logouts (x :: xs) = 1 + logouts xs := by
  rw [logouts, List.countP_cons_of_pos (by simpa using h), Nat.add_comm]
  rfl

theorem logouts_cons_of_ne {x : Exchange} (xs : List Exchange) (h : x.call ≠ .logout) :
    logouts (x :: xs) = logouts xs :=
  List.countP_cons_of_neg (by simpa using h)

namespace WalletService

variable {σ : Type} (svc : WalletService σ)

@[simp] theorem logouts_loadExchanges (m : σ) : logouts (svc.loadExchanges m) = 0 := by
  cases hw : (svc.getWallet m).outcome with
  | error e =>
    rw [loadExchanges_of_error _ hw]
    rfl
  | ok wallet =>
    cases wallet with
    | none =>
      rw [loadExchanges_of_none _ hw]
      rfl
    | some w =>
      rw [loadExchanges_of_wallet _ hw]
      rfl

@[simp] theorem logouts_importExchanges (key : String) (m : σ) :
    logouts (svc.importExchanges key m) = 0 := by
  unfold importExchanges
  split
  · rfl
  · rw [logouts_cons_of_ne _ (by simp [exchange])]
    split
    · exact svc.logouts_loadExchanges _
    · rfl

@[simp] theorem logouts_startupExchanges (key : String) (m : σ) :
    logouts (svc.startupExchanges key m) = 0 := by
  rw [startupExchanges, logouts_append, logouts_loadExchanges]
  split
  · exact (Nat.zero_add _).trans (svc.logouts_importExchanges key _)
  · rfl

@[simp] theorem logouts_refreshExchanges (mode : Mode) (m : σ) :
    logouts (svc.refreshExchanges mode m) = 0 := by
  unfold refreshExchanges
  split
  · rfl
  · exact svc.logouts_loadExchanges m
  · simp only
    rw [logouts_cons_of_ne _ (by simp [exchange]), logouts_cons_of_ne _ (by simp [exchange])]
    split
    · exact svc.logouts_loadExchanges _
    · rfl

@[simp] theorem logouts_acknowledgeExchanges (mode : Mode) (m : σ) :
    logouts (svc.acknowledgeExchanges mode m) = 0 := by
  unfold acknowledgeExchanges
  split
  · exact svc.logouts_loadExchanges m
  · rfl

theorem logouts_switchExchanges (switch : SwitchConfirm) (m : σ) :
    logouts (svc.switchExchanges switch m) = if switch = .opened then 1 else 0 := by
  cases switch with
  | closed => rfl
  | opened =>
    rw [switchExchanges, logouts_cons_of_eq _ (by simp [exchange]), logouts_loadExchanges]
    rfl

/-- The service is told to log out by a confirmation that was asked for, once, and by nothing
else. -/
theorem logouts_exchangesOf (d : Dashboard) (m : σ) (a : Action) :
    logouts (svc.exchangesOf d m a) =
      if a.switchStep? = some .confirm ∧ d.switch = .opened then 1 else 0 := by
  cases a <;> simp only [exchangesOf, Action.switchStep?]
  case confirmSwitch => simp [logouts_switchExchanges]
  case createWallet => rfl
  all_goals simp

end WalletService

namespace Session

variable {σ κ : Type} (svc : WalletService σ) (affect : κ → σ → σ) (s : Session σ)

theorem switch_perform (a : Action) :
    (s.perform svc a).2.dashboard.switch = s.dashboard.switch.after a.switchStep? := by
  have hc : (s.perform svc a).2.dashboard.switch = (a.onDashboard s.dashboard).switch :=
    (perform_changes svc s a).keeps_value (fun _ _ hc => by cases hc <;> rfl)
  rw [hc]
  cases a <;> rfl

theorem switch_step (e : Event κ) :
    (s.step svc affect e).2.dashboard.switch = s.dashboard.switch.after e.switchStep? := by
  cases e with
  | act a => exact switch_perform svc s a
  | outside k => rfl
  | readerLeaves => rfl

theorem logouts_exchangesAt (e : Event κ) :
    logouts (s.exchangesAt svc e) =
      if e.switchStep? = some .confirm ∧ s.dashboard.switch = .opened then 1 else 0 := by
  cases e with
  | act a =>
    rw [exchangesAt, exchanges_eq]
    exact svc.logouts_exchangesOf _ _ a
  | outside k => rfl
  | readerLeaves => rfl

/-- A run that begins after the step `prev`, if there was one. -/
theorem logouts_run_after (prev : Option SwitchConfirm.Step) {s : Session σ}
    (hs : s.dashboard.switch = .opened ↔ prev = some .request) (events : List (Event κ)) :
    let steps := prev.toList ++ switchSteps events
    logouts (s.exchangesIn svc affect events) = SwitchConfirm.confirmedRequests steps ∧
      ((s.run svc affect events).dashboard.switch = .opened ↔ steps.getLast? = some .request) := by
  -- Every step of the switch becomes the one that the rest of the run begins after.
  induction events generalizing s prev with
  | nil => cases prev <;> exact ⟨rfl, hs⟩
  | cons e events ih =>
    have hsw := switch_step svc affect s e
    rw [exchangesIn, logouts_append, logouts_exchangesAt, run_cons]
    cases ht : e.switchStep? with
    | none =>
      rw [ht] at hsw
      obtain ⟨hcount, hopen⟩ := ih prev (by rwa [hsw])
      rw [switchSteps_cons_of_none _ ht, hcount, hopen]
      simp
    | some t =>
      rw [ht] at hsw
      obtain ⟨hcount, hopen⟩ := ih (some t) (by
        rw [hsw, SwitchConfirm.after_some_eq_opened_iff, Option.some.injEq])
      rw [switchSteps_cons_of_some _ ht, hcount, hopen]
      cases prev with
      | none => simp [hs]
      | some p => simp [hs, SwitchConfirm.confirmedRequests_cons_cons, and_comm]

/-- **The service is told to log out once for every confirmation of a request, and the user is being
asked exactly after a request.** No other operation touches the switch or logs out, whatever comes
of it. -/
theorem logouts_run (svc : WalletService σ) (affect : κ → σ → σ) (size : PageSize) (service : σ)
    (events : List (Event κ)) :
    let s := (start size service).run svc affect events
    let steps := switchSteps events
    ((start size service).exchangesIn svc affect events).countP (·.call = .logout) =
      (steps.zip steps.tail).count (.request, .confirm) ∧
    (s.dashboard.switch = .opened ↔ steps.getLast? = some .request) ∧
    ∀ a, a.switchStep? = none →
      (s.perform svc a).2.dashboard.switch = s.dashboard.switch ∧
        ∀ x ∈ s.exchanges svc a, x.call ≠ .logout := by
  intro s steps
  obtain ⟨hcount, hopen⟩ :=
    logouts_run_after svc affect none (s := start size service) (by simp [start]) events
  refine ⟨hcount, hopen, fun a ha => ⟨?_, ?_⟩⟩
  · rw [switch_perform, ha]
    rfl
  · have hl : logouts (s.exchanges svc a) = 0 := by
      rw [exchanges_eq, svc.logouts_exchangesOf, ha]
      rfl
    exact fun x hx => by simpa using List.countP_eq_zero.mp hl x hx

end Session

end WalletDashboard
