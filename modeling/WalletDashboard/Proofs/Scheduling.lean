import WalletDashboard.Dashboard.Join
import WalletDashboard.Proofs.LoadedView
import WalletDashboard.Proofs.SideBySide

/-!
# A refresh under a schedule

A refresh waits for two calls at once, and the service may get to them in either order. If the two
can change places (`WalletService.Interchanges`), then after every schedule each call has the
outcome that it has when it is made alone, and the service is in one of two related states
(`Join.Stands.run`). What is left of the refresh, a load at most, does not tell them apart
(`Session.SameUpTo.load`), so that the refresh comes out as if the calls were made one after the
other (`Session.refreshBy_agrees`), and it comes out exactly if both calls had their turns
(`Session.refreshBothBy_isSome_iff`).

Two sessions are the same up to `R` if they differ at most in the state of the service, and are
related by `R` in that (`Session.SameUpTo`).
-/

namespace WalletDashboard

/-! ### Two calls that do not get in each other's way -/

namespace WalletService

variable {σ : Type}

/-- The two calls of a refresh can change places: neither makes a difference to what comes of the
other, and after both the state is the same up to `R`, whichever came first. -/
structure Interchanges (svc : WalletService σ) (R : σ → σ → Prop) : Prop where
  outcome_refreshWallet (m : σ) :
    (svc.refreshWallet (svc.refreshBlockHeight m).state).outcome = (svc.refreshWallet m).outcome
  outcome_refreshBlockHeight (m : σ) :
    (svc.refreshBlockHeight (svc.refreshWallet m).state).outcome =
      (svc.refreshBlockHeight m).outcome
  state (m : σ) :
    R (svc.refreshWallet (svc.refreshBlockHeight m).state).state
      (svc.refreshBlockHeight (svc.refreshWallet m).state).state
  log_refreshWallet (m : σ) : (svc.refreshWallet m).log = []
  log_refreshBlockHeight (m : σ) : (svc.refreshBlockHeight m).log = []

/-- The state of the service after it has done the calls of a refresh that are marked. -/
inductive Served (svc : WalletService σ) (m : σ) : Bool → Bool → σ → Prop
  | neither : Served svc m false false m
  | wallet : Served svc m true false (svc.refreshWallet m).state
  | height : Served svc m false true (svc.refreshBlockHeight m).state
  | walletFirst : Served svc m true true (svc.refreshBlockHeight (svc.refreshWallet m).state).state
  | heightFirst : Served svc m true true (svc.refreshWallet (svc.refreshBlockHeight m).state).state

section Served

variable {svc : WalletService σ} {R : σ → σ → Prop} {m n : σ} {w h : Bool}

/-- The balance is still to be computed, and what comes of it does not depend on the height. -/
theorem Served.refreshWallet (hc : svc.Interchanges R) (hn : svc.Served m false h n) :
    (svc.refreshWallet n).outcome = (svc.refreshWallet m).outcome ∧
      svc.Served m true h (svc.refreshWallet n).state := by
  cases hn with
  | neither => exact ⟨rfl, .wallet⟩
  | height => exact ⟨hc.outcome_refreshWallet m, .heightFirst⟩

theorem Served.refreshBlockHeight (hc : svc.Interchanges R) (hn : svc.Served m w false n) :
    (svc.refreshBlockHeight n).outcome = (svc.refreshBlockHeight m).outcome ∧
      svc.Served m w true (svc.refreshBlockHeight n).state := by
  cases hn with
  | neither => exact ⟨rfl, .height⟩
  | wallet => exact ⟨hc.outcome_refreshBlockHeight m, .walletFirst⟩

/-- Once both are done, the order does not matter any more. -/
theorem Served.related (hc : svc.Interchanges R) (hrefl : ∀ m, R m m)
    (hn : svc.Served m true true n) :
    R n (svc.refreshBlockHeight (svc.refreshWallet m).state).state := by
  cases hn with
  | walletFirst => exact hrefl _
  | heightFirst => exact hc.state m

end Served

end WalletService

/-! ### A schedule of the two calls -/

/-- How far a call with the given outcome is after `n` turns. -/
def CallProgress.after {α : Type} (outcome : Except Failure α) : Nat → CallProgress α
  | 0 => waiting
  | 1 => answered outcome
  | _ => finished outcome

/-- Every call gets the turns that it takes to be finished. -/
def Completes (schedule : List JoinedCall) : Prop := ∀ c, 2 ≤ schedule.count c

theorem completes_iff {schedule : List JoinedCall} :
    Completes schedule ↔ 2 ≤ schedule.count .wallet ∧ 2 ≤ schedule.count .height := by
  constructor
  · exact fun h => ⟨h _, h _⟩
  · rintro ⟨hw, hh⟩ (_ | _)
    · exact hw
    · exact hh

instance (schedule : List JoinedCall) : Decidable (Completes schedule) :=
  decidable_of_iff _ completes_iff.symm

section Progress

variable {σ α : Type} {operation : σ → Reply σ α} {outcome : Except Failure α} {s : Session σ}

theorem CallProgress.turn_after_zero (h : (operation s.service).outcome = outcome)
    (hlog : (operation s.service).log = []) :
    (after outcome 0).turn operation s =
      (after outcome 1, { s with service := (operation s.service).state }) := by
  simp only [after, turn, Session.ask, Session.write, h, hlog, List.append_nil, Prod.map_apply, id]

theorem CallProgress.turn_after_succ (n : Nat) :
    (after outcome (n + 1)).turn operation s = (after outcome (n + 2), s) := by
  cases n <;> rfl

end Progress

namespace Join

variable {σ : Type} {svc : WalletService σ} {R : σ → σ → Prop} {s : Session σ} {w h : Nat}
  {j : Join σ}

/-- The join of `s` after `w` turns of the balance and `h` of the height: the outcomes are those
that the calls have when they are made alone, and nothing but the service has changed. -/
structure Stands (svc : WalletService σ) (s : Session σ) (w h : Nat) (j : Join σ) : Prop where
  wallet : j.wallet = .after (svc.refreshWallet s.service).outcome w
  height : j.height = .after (svc.refreshBlockHeight s.service).outcome h
  session : ∃ m, svc.Served s.service (0 < w) (0 < h) m ∧ j.session = { s with service := m }

theorem Stands.turn_wallet (hc : svc.Interchanges R) (hj : j.Stands svc s w h) :
    (j.turn svc .wallet).Stands svc s (w + 1) h := by
  obtain ⟨session, wallet, height⟩ := j
  obtain ⟨rfl, rfl, m, hm, rfl⟩ := hj
  cases w with
  | zero =>
    obtain ⟨ho, hm'⟩ := hm.refreshWallet hc
    have ht := CallProgress.turn_after_zero (s := { s with service := m }) ho
      (hc.log_refreshWallet m)
    simp only [turn, ht]
    exact ⟨rfl, rfl, _, hm', rfl⟩
  | succ w =>
    simp only [turn, CallProgress.turn_after_succ]
    exact ⟨rfl, rfl, m, hm, rfl⟩

theorem Stands.turn_height (hc : svc.Interchanges R) (hj : j.Stands svc s w h) :
    (j.turn svc .height).Stands svc s w (h + 1) := by
  obtain ⟨session, wallet, height⟩ := j
  obtain ⟨rfl, rfl, m, hm, rfl⟩ := hj
  cases h with
  | zero =>
    obtain ⟨ho, hm'⟩ := hm.refreshBlockHeight hc
    have ht := CallProgress.turn_after_zero (s := { s with service := m }) ho
      (hc.log_refreshBlockHeight m)
    simp only [turn, ht]
    exact ⟨rfl, rfl, _, hm', rfl⟩
  | succ h =>
    simp only [turn, CallProgress.turn_after_succ]
    exact ⟨rfl, rfl, m, hm, rfl⟩

/-- How often each call had its turn is all that counts. -/
theorem Stands.run (hc : svc.Interchanges R) (hj : j.Stands svc s w h)
    (schedule : List JoinedCall) :
    (j.run svc schedule).Stands svc s (w + schedule.count .wallet)
      (h + schedule.count .height) := by
  induction schedule generalizing j w h with
  | nil => exact hj
  | cons c schedule ih =>
    cases c with
    | wallet =>
      have hr := ih (hj.turn_wallet hc)
      rw [Nat.add_right_comm] at hr
      rw [List.count_cons_self, List.count_cons_of_ne (by decide)]
      exact hr
    | height =>
      have hr := ih (hj.turn_height hc)
      rw [Nat.add_right_comm h] at hr
      rw [List.count_cons_self, List.count_cons_of_ne (by decide)]
      exact hr

theorem stands_start (svc : WalletService σ) (s : Session σ) :
    Stands svc s 0 0 { session := s } where
  wallet := rfl
  height := rfl
  session := ⟨s.service, .neither, rfl⟩

/-- Both outcomes are there as soon as both calls had two turns, and no sooner. -/
theorem Stands.outcomes? (hj : j.Stands svc s w h) :
    j.outcomes? =
      if 2 ≤ w ∧ 2 ≤ h then
        some ((svc.refreshWallet s.service).outcome, (svc.refreshBlockHeight s.service).outcome)
      else none := by
  obtain ⟨session, wallet, height⟩ := j
  obtain ⟨rfl, rfl, -⟩ := hj
  rcases w with _ | _ | w <;> rcases h with _ | _ | h <;>
    simp [Join.outcomes?, CallProgress.after]

end Join

/-! ### Sessions over related states of the service -/

/-- Replies that differ at most in the state that is left, and are related in it. -/
structure Reply.SameUpTo {σ α : Type} (R : σ → σ → Prop) (r r' : Reply σ α) : Prop where
  outcome : r.outcome = r'.outcome
  state : R r.state r'.state
  log : r.log = r'.log

/-- The calls of a load do not tell related states apart. -/
structure WalletService.LoadsAlike {σ : Type} (svc : WalletService σ) (R : σ → σ → Prop) :
    Prop where
  getWallet {m n : σ} (h : R m n) : (svc.getWallet m).SameUpTo R (svc.getWallet n)
  recentBlocks {m n : σ} (h : R m n) : (svc.recentBlocks m).SameUpTo R (svc.recentBlocks n)

theorem WalletService.loadsAlike_eq {σ : Type} (svc : WalletService σ) :
    svc.LoadsAlike (· = ·) where
  getWallet := by
    rintro m n rfl
    exact ⟨rfl, rfl, rfl⟩
  recentBlocks := by
    rintro m n rfl
    exact ⟨rfl, rfl, rfl⟩

namespace Session

variable {σ : Type}

/-- Sessions that differ at most in the state of the service, and are related in it. -/
structure SameUpTo (R : σ → σ → Prop) (s t : Session σ) : Prop where
  dashboard : s.dashboard = t.dashboard
  service : R s.service t.service
  outbox : s.outbox = t.outbox
  log : s.log = t.log

namespace SameUpTo

variable {R : σ → σ → Prop} {svc : WalletService σ} {s t : Session σ}

theorem eq (h : s.SameUpTo (· = ·) t) : s = t := by
  obtain ⟨d, m, o, l⟩ := s
  obtain ⟨rfl, rfl, rfl, rfl⟩ := h
  rfl

theorem onDashboard (h : s.SameUpTo R t) (f : Dashboard → Dashboard) :
    (s.onDashboard f).SameUpTo R (t.onDashboard f) :=
  { h with dashboard := congrArg f h.dashboard }

theorem write (h : s.SameUpTo R t) (lines : List LogLine) :
    (s.write lines).SameUpTo R (t.write lines) :=
  { h with log := congrArg (· ++ lines) h.log }

theorem ask {α : Type} (h : s.SameUpTo R t) {operation : σ → Reply σ α}
    (hr : (operation s.service).SameUpTo R (operation t.service)) :
    (s.ask operation).2.SameUpTo R (t.ask operation).2 := by
  have hw : ({ s with service := (operation s.service).state } : Session σ).SameUpTo R
      { t with service := (operation t.service).state } := { h with service := hr.state }
  simp only [Session.ask, hr.log]
  exact hw.write _

theorem notify (h : s.SameUpTo R t) (n : Notice) : (s.notify n).SameUpTo R (t.notify n) := by
  simp only [Session.notify, h.outbox]
  split
  · exact { h with outbox := rfl }
  · exact h.write _

theorem notifyFailure (h : s.SameUpTo R t) (e : Failure) :
    (s.notifyFailure e).SameUpTo R (t.notifyFailure e) :=
  (h.write _).notify _

theorem turnTo (h : s.SameUpTo R t) (mode : Mode) : (s.turnTo mode).SameUpTo R (t.turnTo mode) := by
  simp only [Session.turnTo, h.dashboard]
  split
  · exact h.onDashboard _
  · exact (h.write _).onDashboard _

theorem reloadBlocks (h : s.SameUpTo R t) (hl : svc.LoadsAlike R) :
    Agree (SameUpTo R) (s.reloadBlocks svc) (t.reloadBlocks svc) := by
  cases ha : s.dashboard.mode.address? with
  | none =>
    rw [reloadBlocks_of_none ha, reloadBlocks_of_none (h.dashboard ▸ ha)]
    exact ⟨rfl, h.onDashboard _⟩
  | some address =>
    have ha' : t.dashboard.mode.address? = some address := h.dashboard ▸ ha
    have hr := hl.recentBlocks h.service
    cases hb : (svc.recentBlocks s.service).outcome with
    | ok blocks =>
      rw [reloadBlocks_of_ok ha hb, reloadBlocks_of_ok ha' (hr.outcome ▸ hb)]
      exact ⟨rfl, (h.ask hr).onDashboard _⟩
    | error e =>
      rw [reloadBlocks_of_error ha hb, reloadBlocks_of_error ha' (hr.outcome ▸ hb)]
      exact ⟨rfl, h.ask hr⟩

theorem tryLoad (h : s.SameUpTo R t) (hl : svc.LoadsAlike R) :
    Agree (SameUpTo R) (s.tryLoad svc) (t.tryLoad svc) := by
  have hr := hl.getWallet h.service
  cases hw : (svc.getWallet s.service).outcome with
  | ok wallet =>
    rw [tryLoad_of_ok hw, tryLoad_of_ok (hr.outcome ▸ hw)]
    exact ((h.ask hr).turnTo _).reloadBlocks hl
  | error e =>
    rw [tryLoad_of_error hw, tryLoad_of_error (hr.outcome ▸ hw)]
    exact ⟨rfl, h.ask hr⟩

theorem load (h : s.SameUpTo R t) (hl : svc.LoadsAlike R) :
    Agree (SameUpTo R) (s.load svc) (t.load svc) :=
  (h.tryLoad hl).settleOutcome notifyFailure

theorem afterBoth (h : s.SameUpTo R t) (hl : svc.LoadsAlike R) (outcome : Except Failure UInt64) :
    Agree (SameUpTo R) (Session.afterBoth svc (outcome, s))
      (Session.afterBoth svc (outcome, t)) := by
  cases outcome with
  | ok height => exact (h.onDashboard _).load hl
  | error e => exact ⟨rfl, h.notifyFailure e⟩

end SameUpTo

/-! ### A refresh under a schedule -/

section Schedule

variable {R : σ → σ → Prop} {svc : WalletService σ} {s : Session σ} {schedule : List JoinedCall}

/-- The calls of a refresh have nothing to log, so that only the service is another afterwards. -/
theorem snd_refreshBoth_of_interchanges (hc : svc.Interchanges R) :
    (s.refreshBoth svc).2 =
      { s with
        dashboard := { s.dashboard with refreshing := false }
        service := (svc.refreshBlockHeight (svc.refreshWallet s.service).state).state } := by
  rw [snd_refreshBoth]
  simp only [onDashboard, ask, Session.write, hc.log_refreshWallet, hc.log_refreshBlockHeight,
    List.append_nil]

/-- The refresh waits until both calls had their turns. Then the outcomes are those of calls that
are made one after the other, and the service has done both. -/
theorem refreshBothBy_eq (hc : svc.Interchanges R) (s : Session σ) (schedule : List JoinedCall) :
    ∃ m, svc.Served s.service (0 < schedule.count .wallet) (0 < schedule.count .height) m ∧
      s.refreshBothBy svc schedule =
        if Completes schedule then
          some ((s.refreshBoth svc).1,
            { s with dashboard := { s.dashboard with refreshing := false }, service := m })
        else none := by
  have hj := (Join.stands_start svc (s.onDashboard ({ · with refreshing := true }))).run hc schedule
  rw [Nat.zero_add, Nat.zero_add] at hj
  obtain ⟨m, hm, hsession⟩ := hj.session
  have hout := hj.outcomes?
  refine ⟨m, hm, ?_⟩
  rw [refreshBothBy, hout, hsession, fst_refreshBoth, hc.outcome_refreshBlockHeight]
  by_cases hs : Completes schedule
  · rw [if_pos hs, if_pos (completes_iff.mp hs)]
    rfl
  · rw [if_neg hs, if_neg (mt completes_iff.mpr hs)]
    rfl

theorem refreshBothBy_isSome_iff (hc : svc.Interchanges R) :
    (s.refreshBothBy svc schedule).isSome ↔ Completes schedule := by
  obtain ⟨m, -, heq⟩ := refreshBothBy_eq hc s schedule
  by_cases hs : Completes schedule <;> simp [heq, hs]

/-- The dashboard does not notice which call came first. -/
theorem refreshBothBy_of_completes (hc : svc.Interchanges R) (hrefl : ∀ m, R m m)
    (hs : Completes schedule) :
    ∃ t, s.refreshBothBy svc schedule = some ((s.refreshBoth svc).1, t) ∧
      t.SameUpTo R (s.refreshBoth svc).2 := by
  obtain ⟨m, hm, heq⟩ := refreshBothBy_eq hc s schedule
  rw [if_pos hs] at heq
  obtain ⟨hw, hh⟩ := completes_iff.mp hs
  rw [decide_eq_true (show 0 < schedule.count .wallet by omega),
    decide_eq_true (show 0 < schedule.count .height by omega)] at hm
  refine ⟨_, heq, ?_⟩
  rw [snd_refreshBoth_of_interchanges hc]
  exact ⟨rfl, hm.related hc hrefl, rfl, rfl⟩

theorem refresh_of_active {w : Wallet} (hm : s.dashboard.mode = .active w) :
    s.refresh svc = afterBoth svc (s.refreshBoth svc) := by
  rcases hb : s.refreshBoth svc with ⟨height | e, t⟩ <;> simp only [refresh, hm, hb, afterBoth]

theorem refreshBy_of_active {w : Wallet} (hm : s.dashboard.mode = .active w) :
    s.refreshBy svc schedule = (s.refreshBothBy svc schedule).map (afterBoth svc) := by
  simp only [refreshBy, hm]

/-- **A refresh does not depend on the schedule of its calls.** -/
theorem refreshBy_agrees (hc : svc.Interchanges R) (hl : svc.LoadsAlike R) (hrefl : ∀ m, R m m)
    (hs : Completes schedule) :
    ∃ r, s.refreshBy svc schedule = some r ∧ Agree (SameUpTo R) r (s.refresh svc) := by
  cases hm : s.dashboard.mode with
  | justCreated e =>
    rw [refresh_of_justCreated hm]
    exact ⟨(true, s), by simp only [refreshBy, hm], rfl, rfl, hrefl _, rfl, rfl⟩
  | noWallet =>
    rw [refresh_of_noWallet hm]
    exact ⟨s.load svc, by simp only [refreshBy, hm], rfl, rfl, hrefl _, rfl, rfl⟩
  | active w =>
    obtain ⟨t, ht, hsame⟩ := refreshBothBy_of_completes (s := s) hc hrefl hs
    rw [refreshBy_of_active hm, refresh_of_active hm, ht]
    exact ⟨_, rfl, hsame.afterBoth hl _⟩

/-- If the balance fails, this is what the user is told, whatever becomes of the height. -/
theorem refresh_of_refreshWallet_error {w : Wallet} {e : Failure}
    (hm : s.dashboard.mode = .active w) (hw : (svc.refreshWallet s.service).outcome = .error e) :
    (s.refresh svc).1 = false ∧ (s.refresh svc).2.outbox = s.outbox.post [.error e.message] := by
  have hb : (s.refreshBoth svc).1 = .error e := fst_refreshBoth_eq_error_iff.mpr (.inl hw)
  rw [refresh_of_error hm hb, notifyFailure, outbox_notify]
  exact ⟨rfl, congrArg _ (outbox_refreshBoth svc s)⟩

/-- What holds of the service when both calls are done and what no load breaks holds of it after the
refresh. -/
theorem keeps_service_refresh {Q : σ → Prop} {w : Wallet} (hm : s.dashboard.mode = .active w)
    (hwallet : ∀ m, Q m → Q (svc.getWallet m).state)
    (hblocks : ∀ m, Q m → Q (svc.recentBlocks m).state)
    (hs : Q (svc.refreshBlockHeight (svc.refreshWallet s.service).state).state) :
    Q (s.refresh svc).2.service := by
  rw [← service_refreshBoth] at hs
  cases hb : (s.refreshBoth svc).1 with
  | ok height =>
    rw [refresh_of_ok hm hb]
    exact keeps_service_load hwallet hblocks hs
  | error e => rwa [refresh_of_error hm hb, service_notifyFailure]

end Schedule

end Session

end WalletDashboard
