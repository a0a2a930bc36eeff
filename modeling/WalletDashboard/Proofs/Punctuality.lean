import WalletDashboard.Proofs.Attempts
import WalletDashboard.Proofs.Exchanges
import WalletDashboard.Proofs.LogLines

/-!
# How punctual a refresher is

A refresher that takes a session over loads it once and makes its first attempt at the same moment.
After an attempt that succeeded the next one comes when its timer has waited for a period, whatever
failed before. By a clock that is exactly a period later (`Timer.ofClock`); only if the clock does
not reach so far it is thirty years later. So the attempts keep their distance.

Every attempt leaves one line of the refresher in the log, which says how it went
(`LogLine.outcome?`). So what a refresher has done can be read off the log (`outcomes`), as long as
the service does not write such lines itself.

`Refresher.Shift.attempts_punctual` says so of every run.
-/

namespace WalletDashboard

/-! ### What the log says about attempts -/

namespace LogLine

/-- Whether the attempt that the line is about has succeeded, if it is about one. -/
def outcome? (l : LogLine) : Option Bool :=
  if l.HeadedBy "[Refresher] Refreshed" then some true
  else if l.HeadedBy "[Refresher] Refresh failed" then some false
  else none

/-- A line under another heading is about no attempt. -/
theorem HeadedBy.outcome?_eq_none {heading : String} {l : LogLine} (h : l.HeadedBy heading)
    (hgood : ¬heading.toList <+: "[Refresher] Refreshed".toList ∧
      ¬"[Refresher] Refreshed".toList <+: heading.toList)
    (hbad : ¬heading.toList <+: "[Refresher] Refresh failed".toList ∧
      ¬"[Refresher] Refresh failed".toList <+: heading.toList) : l.outcome? = none := by
  rw [outcome?, if_neg (h.not hgood), if_neg (h.not hbad)]

end LogLine

/-- How the attempts went that the log is about, in order. -/
def outcomes (log : List LogLine) : List Bool := log.filterMap LogLine.outcome?

theorem outcomes_append (log log' : List LogLine) :
    outcomes (log ++ log') = outcomes log ++ outcomes log' :=
  List.filterMap_append

theorem outcomes_concat_of_none (log : List LogLine) {l : LogLine} (h : l.outcome? = none) :
    outcomes (log ++ [l]) = outcomes log := by
  rw [outcomes_append, outcomes, outcomes, List.filterMap_cons_none h, List.filterMap_nil,
    List.append_nil]

theorem outcomes_concat_of_some (log : List LogLine) {l : LogLine} {succeeded : Bool}
    (h : l.outcome? = some succeeded) : outcomes (log ++ [l]) = outcomes log ++ [succeeded] := by
  rw [outcomes_append, outcomes, outcomes, List.filterMap_cons_some h, List.filterMap_nil]

/-- The service writes no line about an attempt. -/
def WalletService.LeavesOutcomes {σ : Type} (svc : WalletService σ) : Prop :=
  ∀ c m, ∀ l ∈ (svc.call c m).log, l.outcome? = none

theorem MemoryState.leavesOutcomes_service (mint : Nat → WalletExport) (window : Nat) :
    (service mint window).LeavesOutcomes :=
  fun c m l hl => (signed_call mint window c m l hl).outcome?_eq_none (by decide) (by decide)

theorem Session.Writes.outcomes_eq {σ : Type} {svc : WalletService σ} {s s' : Session σ}
    (h : Writes svc.OwnLine s s') (hsvc : svc.LeavesOutcomes) :
    outcomes s'.log = outcomes s.log := by
  obtain ⟨lines, hl, hown⟩ := h
  have hnone : outcomes lines = [] := by
    refine List.filterMap_eq_nil_iff.mpr fun l hmem => ?_
    rcases hown l hmem with hdashboard | ⟨c, m, hservice⟩
    · exact hdashboard.outcome?_eq_none (by decide) (by decide)
    · exact hsvc c m l hservice
  rw [hl, outcomes_append, hnone, List.append_nil]

namespace Refresher

variable {σ κ : Type} {svc : WalletService σ}

theorem outcome?_refreshedLine (d : Dashboard) : (refreshedLine d).outcome? = some true := by
  have hhead : (refreshedLine d).HeadedBy "[Refresher] Refreshed" := by
    simp only [refreshedLine, String.append_assoc]
    exact LogLine.headedBy_append .info (by decide) _
  rw [LogLine.outcome?, if_pos hhead]

theorem outcome?_retryLine (r : Refresher) : r.retryLine.outcome? = some false := by
  have hhead : r.retryLine.HeadedBy "[Refresher] Refresh failed" :=
    LogLine.headedBy_append .warn (by decide) _
  rw [LogLine.outcome?, if_neg (hhead.not (by decide)), if_pos hhead]

theorem outcome?_outcomeLine (r : Refresher) (succeeded : Bool) (d : Dashboard) :
    (r.outcomeLine succeeded d).outcome? = some succeeded := by
  cases succeeded with
  | true => exact outcome?_refreshedLine d
  | false => exact outcome?_retryLine r

/-- An attempt is a refresh and one line about it. -/
theorem wake_of_attempt (svc : WalletService σ) {r : Refresher} {s : Session σ} {a : Attempt}
    (h : r.attempt? svc s = some a) :
    (r.wake svc s).2 =
      (s.refresh svc).2.write [r.outcomeLine a.succeeded (s.refresh svc).2.dashboard] := by
  unfold attempt? at h
  cases hp : r.phase with
  | waiting now =>
    rw [hp] at h
    cases h
    rw [wake_of_waiting svc hp]
  | pausing now =>
    rw [hp] at h
    cases h
  | ended =>
    rw [hp] at h
    cases h

/-- An alarm without an attempt leaves the session alone. -/
theorem wake_of_no_attempt (svc : WalletService σ) {r : Refresher} {s : Session σ}
    (h : r.attempt? svc s = none) : (r.wake svc s).2 = s := by
  unfold attempt? at h
  cases hp : r.phase with
  | waiting now =>
    rw [hp] at h
    cases h
  | pausing now => rw [wake_of_pausing svc hp]
  | ended => rw [wake_of_ended svc hp]

theorem outcomes_wake (hsvc : svc.LeavesOutcomes) (r : Refresher) (s : Session σ) :
    outcomes (r.wake svc s).2.log =
      outcomes s.log ++ (r.attempt? svc s).toList.map Attempt.succeeded := by
  cases ha : r.attempt? svc s with
  | none =>
    rw [wake_of_no_attempt svc ha]
    exact (List.append_nil _).symm
  | some a =>
    rw [wake_of_attempt svc ha, Session.write, outcomes_concat_of_some _ (outcome?_outcomeLine ..),
      (Session.refresh_writes svc s).outcomes_eq hsvc]
    rfl

theorem outcomes_runFor (hsvc : svc.LeavesOutcomes) (time fuel : Nat) (r : Refresher)
    (s : Session σ) :
    outcomes (runFor svc time fuel (r, s)).2.log =
      outcomes s.log ++ (attemptsFor svc time fuel (r, s)).map Attempt.succeeded := by
  induction fuel generalizing r s with
  | zero => simp [runFor, attemptsFor]
  | succ fuel ih =>
    unfold runFor attemptsFor
    split
    · have hrest := ih (r.wake svc s).1 (r.wake svc s).2
      rw [outcomes_wake hsvc] at hrest
      rw [hrest, List.map_append, List.append_assoc]
    · simp

/-! ### Taking over -/

/-- What passes when a session is taken over is what passes in one load. -/
theorem takeOver_recording (svc : WalletService σ) (timer : Timer) (period now : Nat) (s : Session σ) :
    takeOver svc.recorded timer period now (s.recording []) =
      ((takeOver svc timer period now s).1,
        (takeOver svc timer period now s).2.recording (svc.loadExchanges s.service)) := by
  simp [takeOver, Session.load_recording]

theorem outcomes_takeOver (hsvc : svc.LeavesOutcomes) (timer : Timer) (period now : Nat)
    (s : Session σ) :
    outcomes (takeOver svc timer period now s).2.log = outcomes s.log := by
  let starting : LogLine := ⟨.info, "[Refresher] Starting with interval " ++ durationText period⟩
  have hstarting : starting.HeadedBy "[Refresher] Starting" :=
    LogLine.headedBy_append .info (by decide) _
  have hinitial (d : Dashboard) : (initialLine d).HeadedBy "[Refresher] Initial" :=
    LogLine.headedBy_append .info (by decide) _
  let s₁ := s.write [starting]
  calc outcomes (takeOver svc timer period now s).2.log
    _ = outcomes (s₁.load svc).2.log :=
      outcomes_concat_of_none _ ((hinitial _).outcome?_eq_none (by decide) (by decide))
    _ = outcomes s₁.log := (Session.load_writes svc s₁).outcomes_eq hsvc
    _ = outcomes s.log :=
      outcomes_concat_of_none _ (hstarting.outcome?_eq_none (by decide) (by decide))

end Refresher

/-! ### The distance from one attempt to the next -/

theorem Attempt.time_lt_next {timer : Timer} {period next : Nat} (hpause : 0 < period / 2)
    {a : Attempt} (h : a.next timer period = some next) : a.time < next := by
  have hperiod : 0 < period := by omega
  cases ha : a.succeeded with
  | true =>
    rw [next_of_succeeded ha] at h
    cases h
    exact timer.lt_wait hperiod
  | false =>
    rw [next_of_failed ha] at h
    exact Nat.lt_trans (timer.lt_wait hpause) (timer.lt_reset hperiod h)

/-- By a clock no attempt comes sooner than a period after the one before it, or thirty years if the
period is longer. -/
theorem Attempt.time_add_le_next {limit period next : Nat} {a : Attempt}
    (h : a.next (.ofClock limit) period = some next) :
    a.time + min period thirtyYears ≤ next := by
  cases ha : a.succeeded with
  | true =>
    rw [next_of_succeeded ha, Timer.wait_ofClock] at h
    split at h <;> cases h <;> omega
  | false =>
    have hnext := next_ofClock_of_failed ha h
    omega

/-- No two attempts are made at the same time. -/
theorem Schedule.pairwise_lt {timer : Timer} {period : Nat} {first next : Option Nat}
    {as : List Attempt} (h : Schedule timer period first as next) (hpause : 0 < period / 2) :
    (as.map Attempt.time).Pairwise (· < ·) := by
  rw [← List.isChain_iff_pairwise, List.isChain_map]
  exact h.isChain.imp fun a b hab => a.time_lt_next hpause hab

namespace Refresher

namespace Shift

variable {σ κ : Type} {svc : WalletService σ} {affect : κ → σ → σ} {x : Shift σ}

/-! ### The first attempt -/

/-- The first alarm goes off at once, and no other by then. -/
theorem attempts_begin (svc : WalletService σ) (timer : Timer) (period now : Nat)
    (s : Session σ) :
    (begin svc timer period now s).attempts =
      [⟨now, ((takeOver svc timer period now s).2.refresh svc).1⟩] := by
  have hleft : (takeOver svc timer period now s).1.phase.left now = 1 := Nat.add_sub_cancel_left ..
  have hdue : (takeOver svc timer period now s).1.phase.isDue now = true :=
    Phase.isDue_iff_left_pos.mpr (by omega)
  show [] ++ attemptsFor svc now _ (takeOver svc timer period now s) = _
  rw [hleft, attemptsFor, if_pos hdue]
  rfl

theorem attempts_prefix_step (e : Event κ) : x.attempts <+: (x.step svc affect e).attempts := by
  cases e with
  | wait ms => exact List.prefix_append _ _
  | outside k => exact List.prefix_rfl

theorem attempts_prefix_run (events : List (Event κ)) :
    x.attempts <+: (x.run svc affect events).attempts := by
  induction events generalizing x with
  | nil => exact List.prefix_rfl
  | cons e events ih => exact (attempts_prefix_step e).trans ih

/-! ### The attempts in the log -/

/-- Since the log told of `before`, it has told of every attempt, and of nothing else. -/
def IsLogged (before : List Bool) (x : Shift σ) : Prop :=
  outcomes x.session.log = before ++ x.attempts.map Attempt.succeeded

variable {before : List Bool}

theorem IsLogged.catchUp (h : x.IsLogged before) (hsvc : svc.LeavesOutcomes) :
    (x.catchUp svc).IsLogged before := by
  show outcomes (runFor svc x.now _ (x.refresher, x.session)).2.log = _
  rw [outcomes_runFor hsvc, show outcomes x.session.log = _ from h, List.append_assoc,
    ← List.map_append]
  rfl

theorem isLogged_begin (hsvc : svc.LeavesOutcomes) (timer : Timer) (period now : Nat)
    (s : Session σ) :
    (begin svc timer period now s).IsLogged (outcomes s.log) := by
  refine IsLogged.catchUp ?_ hsvc
  rw [IsLogged, outcomes_takeOver hsvc]
  exact (List.append_nil _).symm

theorem IsLogged.run (h : x.IsLogged before) (hsvc : svc.LeavesOutcomes)
    (events : List (Event κ)) : (x.run svc affect events).IsLogged before := by
  induction events generalizing x with
  | nil => exact h
  | cons e events ih =>
    refine ih ?_
    cases e with
    | wait ms => exact IsLogged.catchUp (x := { x with now := x.now + ms }) h hsvc
    | outside k => exact h

/-! ### Every run -/

/-- **A refresher is punctual.** It takes the session over by one load and makes its first attempt
at the same time. An attempt that succeeded is followed by the next one as soon as its timer has
waited for a period, whatever failed before: exactly a period later by the timer of a clock, and
thirty years later if the clock does not reach so far. There are never two attempts at a time. Each
of them is a refresh and one line about how it went, and unless the service writes such lines as
well, there are no others in the log. -/
theorem attempts_punctual (svc : WalletService σ) (affect : κ → σ → σ) (timer : Timer) {d : Nat}
    (hd : 1000 ≤ d) (now : Nat) (s : Session σ) (events : List (Event κ)) :
    let x₀ := begin svc timer d now s
    let x := x₀.run svc affect events
    takeOver svc.recorded timer d now (s.recording []) =
        ((takeOver svc timer d now s).1,
          (takeOver svc timer d now s).2.recording (svc.loadExchanges s.service)) ∧
      x₀.attempts = [⟨now, ((takeOver svc timer d now s).2.refresh svc).1⟩] ∧
      x₀.attempts <+: x.attempts ∧
      (x.attempts.IsChain fun a b => a.succeeded = true →
        b.time = timer.wait a.time d ∧ ∀ limit, timer = .ofClock limit →
          (a.time + d < limit → b.time = a.time + d) ∧
            (limit ≤ a.time + d → b.time = a.time + thirtyYears)) ∧
      (∀ a, x.attempts.getLast? = some a → a.succeeded = true → x.now < timer.wait a.time d) ∧
      (∀ limit, timer = .ofClock limit →
        x.attempts.IsChain fun a b => a.time + min d thirtyYears ≤ b.time) ∧
      (x.attempts.map Attempt.time).Pairwise (· < ·) ∧
      (∀ (r : Refresher) (t : Session σ) (a : Attempt), r.attempt? svc t = some a →
        ∃ line, (r.wake svc t).2 = (t.refresh svc).2.write [line] ∧
          line.outcome? = some a.succeeded) ∧
      (svc.LeavesOutcomes →
        outcomes x.session.log = outcomes s.log ++ x.attempts.map Attempt.succeeded) := by
  intro x₀ x
  have hpause : 0 < d / 2 := by omega
  have hx : x.OnTime timer d now := (onTime_begin svc timer hpause now s).run hpause events
  refine ⟨takeOver_recording svc timer d now s, attempts_begin svc timer d now s,
    attempts_prefix_run events, hx.schedule.isChain.imp fun a b hab ha => ⟨?_, ?_⟩,
    fun a hlast ha => ?_, ?_, hx.schedule.pairwise_lt hpause, fun r t a ha => ?_,
    fun hsvc => (isLogged_begin hsvc timer d now s).run hsvc events⟩
  · rw [Attempt.next_of_succeeded ha] at hab
    exact (Option.some.inj hab).symm
  · rintro limit rfl
    rw [Attempt.next_of_succeeded ha, Timer.wait_ofClock, Option.some.injEq] at hab
    exact ⟨fun hreach => by rw [← hab, if_pos hreach],
      fun hend => by rw [← hab, if_neg (Nat.not_lt.mpr hend)]⟩
  · exact hx.now_lt (by omega) hlast (Attempt.next_of_succeeded ha)
  · rintro limit rfl
    exact hx.schedule.isChain.imp fun a b hab => a.time_add_le_next hab
  · exact ⟨_, wake_of_attempt svc ha, outcome?_outcomeLine ..⟩

/-- Every two seconds, over a service that is offline for a while. -/
theorem attempts_punctual_offline :
    let svc := MemoryState.service (fun _ => default) 50
    let m : MemoryState := { wallets := [("A", ⟨"aa", "acid", 0⟩)], active := some "A" }
    let s := ((Session.start ⟨2, by decide⟩ m).load svc).2
    let timer := Timer.ofClock clockEnd
    let x := (begin svc timer 2000 0 s).run svc (fun (c : MemoryState.Command) m => m.apply c)
      [.wait 250, .outside (.setOffline true), .wait 2000, .outside (.setOffline false),
        .wait 5000]
    1000 ≤ 2000 ∧ svc.LeavesOutcomes ∧
      x.attempts = [⟨0, true⟩, ⟨2000, false⟩, ⟨5000, true⟩, ⟨7000, true⟩] ∧
      (x.attempts.IsChain fun a b => a.succeeded = true →
        b.time = timer.wait a.time 2000 ∧ ∀ limit, timer = .ofClock limit →
          (a.time + 2000 < limit → b.time = a.time + 2000) ∧
            (limit ≤ a.time + 2000 → b.time = a.time + thirtyYears)) ∧
      outcomes x.session.log = outcomes s.log ++ [true, false, true, true] := by
  intro svc m s timer x
  have hd : 1000 ≤ 2000 := by decide
  have hsvc : svc.LeavesOutcomes := MemoryState.leavesOutcomes_service _ _
  have hattempts : x.attempts = [⟨0, true⟩, ⟨2000, false⟩, ⟨5000, true⟩, ⟨7000, true⟩] := by
    decide +kernel
  obtain ⟨-, -, -, hchain, -, -, -, -, hlog⟩ :=
    attempts_punctual svc (fun (c : MemoryState.Command) m => m.apply c) timer hd 0 s
      [.wait 250, .outside (.setOffline true), .wait 2000, .outside (.setOffline false),
        .wait 5000]
  refine ⟨hd, hsvc, hattempts, hchain, (hlog hsvc).trans ?_⟩
  show outcomes s.log ++ x.attempts.map Attempt.succeeded = _
  rw [hattempts]
  rfl

/-- The period is as long as can be, and the clock does not reach its end. The second attempt is
made after thirty years. -/
theorem not_punctual_longest_period :
    let svc := MemoryState.service (fun _ => default) 50
    let m : MemoryState := { wallets := [("A", ⟨"aa", "acid", 0⟩)], active := some "A" }
    let s := ((Session.start ⟨2, by decide⟩ m).load svc).2
    let d := 18446744073709551615 * 1000
    let x := (begin svc (.ofClock clockEnd) d 0 s).run svc (fun (_ : Unit) m => m)
      [.wait 250, .wait thirtyYears]
    1000 ≤ d ∧ x.attempts = [⟨0, true⟩, ⟨thirtyYears, true⟩] ∧
      ¬x.attempts.IsChain fun a b => a.succeeded = true → b.time = a.time + d := by
  intro svc m s d x
  have hattempts : x.attempts = [⟨0, true⟩, ⟨thirtyYears, true⟩] := by decide +kernel
  refine ⟨by decide, hattempts, ?_⟩
  rw [hattempts]
  decide

end Shift

end Refresher

end WalletDashboard
