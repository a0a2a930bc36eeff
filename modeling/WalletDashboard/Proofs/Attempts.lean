import Mathlib.Data.List.Chain
import WalletDashboard.Proofs.Alarms
import WalletDashboard.Service.Memory

/-!
# When a refresher tries again

A refresher tries to bring its session up to date whenever its alarm goes off, unless the alarm ends
a pause. After a failure it says that it tries again after half a period, and so long it does pause;
but the alarm at the end of the pause only begins the next period, and the next attempt is made at
the end of that.

* `Refresher.attemptsUntil`: the attempts that `Refresher.runUntil` makes.
* `Attempt.next`: when an attempt is followed by another. `Schedule` says that some attempts are made
  at the times at which they should follow one another.
* `Refresher.Shift` is a refresher at work, with a clock and the attempts made so far. Time goes by,
  and the service may be changed from elsewhere (`Shift.run`).

`Refresher.Shift.attempts_run` says when a failed attempt is followed by the next one, in every run.
-/

namespace WalletDashboard

/-- An attempt to bring a session up to date. -/
structure Attempt where
  time : Nat
  succeeded : Bool
  deriving DecidableEq, Repr

namespace Refresher

variable {σ κ : Type}

/-- The attempt that is made when the alarm goes off, unless that ends a pause. -/
def attempt? (svc : WalletService σ) (r : Refresher) (s : Session σ) : Option Attempt :=
  match r.phase with
  | .waiting now => some ⟨now, (s.refresh svc).1⟩
  | .pausing _ | .ended => none

/-- The attempts of at most `fuel` alarms, as far as they go off until `time`. -/
def attemptsFor (svc : WalletService σ) (time : Nat) : Nat → Refresher × Session σ → List Attempt
  | 0, _ => []
  | fuel + 1, (r, s) =>
    if r.phase.isDue time then
      (r.attempt? svc s).toList ++ attemptsFor svc time fuel (r.wake svc s)
    else []

/-- The attempts of all alarms until `time`. -/
def attemptsUntil (svc : WalletService σ) (time : Nat) (r : Refresher) (s : Session σ) :
    List Attempt :=
  attemptsFor svc time (r.phase.left time) (r, s)

/-- When the next attempt will be made, if any. A pause is followed by a whole period. -/
def nextAttempt (r : Refresher) : Option Nat :=
  match r.phase with
  | .waiting alarm => some alarm
  | .pausing alarm => r.timer.reset alarm r.period
  | .ended => none

end Refresher

/-- When an attempt is followed by the next one: at the end of the period, which begins anew after
the pause if the attempt failed. -/
def Attempt.next (timer : Timer) (period : Nat) (a : Attempt) : Option Nat :=
  if a.succeeded then some (timer.wait a.time period)
  else timer.reset (timer.wait a.time (period / 2)) period

/-- The attempts `as` are made at the times at which they should follow one another, the first of
them at the time `first`; after them another one should follow at the time `next`. No attempt should
follow any more if there is no such time. -/
def Schedule (timer : Timer) (period : Nat) : Option Nat → List Attempt → Option Nat → Prop
  | first, [], next => next = first
  | first, a :: as, next =>
    first = some a.time ∧ Schedule timer period (a.next timer period) as next

namespace Attempt

variable {timer : Timer} {period next : Nat} {a : Attempt}

theorem next_of_succeeded (h : a.succeeded = true) :
    a.next timer period = some (timer.wait a.time period) := if_pos h

theorem next_of_failed (h : a.succeeded = false) :
    a.next timer period = timer.reset (timer.wait a.time (period / 2)) period :=
  if_neg (by simp [h])

/-- By a clock the pause and the period after it are waited for in full, or the refresher ends. -/
theorem next_ofClock_of_failed {limit : Nat} (h : a.succeeded = false)
    (hnext : a.next (.ofClock limit) period = some next) :
    next = a.time + period / 2 + period := by
  rw [next_of_failed h, Timer.reset_ofClock_eq_some, Timer.wait_ofClock] at hnext
  split at hnext <;> omega

end Attempt

namespace Schedule

variable {timer : Timer} {period : Nat} {first next last : Option Nat} {as bs : List Attempt}

theorem append (h : Schedule timer period first as next) (h' : Schedule timer period next bs last) :
    Schedule timer period first (as ++ bs) last := by
  induction as generalizing first with
  | nil =>
    obtain rfl : next = first := h
    exact h'
  | cons a as ih => exact ⟨h.1, ih h.2⟩

theorem isChain (h : Schedule timer period first as next) :
    as.IsChain fun a b => a.next timer period = some b.time := by
  induction as generalizing first with
  | nil => exact .nil
  | cons a as ih =>
    cases as with
    | nil => exact .singleton a
    | cons b as => exact .cons_cons h.2.1 (ih h.2)

theorem next_eq (h : Schedule timer period first as next) {a : Attempt}
    (ha : as.getLast? = some a) : next = a.next timer period := by
  induction as generalizing first with
  | nil => cases ha
  | cons b as ih =>
    cases as with
    | nil =>
      cases ha
      exact h.2
    | cons c as => exact ih h.2 (by rwa [List.getLast?_cons_cons] at ha)

end Schedule

/-! ### The attempts of a refresher -/

namespace Refresher

variable {σ κ : Type} (svc : WalletService σ)

/-- An alarm makes the attempt that is due, or ends a pause. -/
theorem schedule_wake (r : Refresher) (s : Session σ) :
    Schedule r.timer r.period r.nextAttempt (r.attempt? svc s).toList
      (r.wake svc s).1.nextAttempt := by
  cases hp : r.phase with
  | waiting now =>
    rw [wake_of_waiting svc hp]
    simp only [nextAttempt, attempt?, afterAttempt, hp, Option.toList_some, Schedule, Attempt.next,
      pause]
    cases (s.refresh svc).1 <;> exact ⟨trivial, rfl⟩
  | pausing now =>
    rw [wake_of_pausing svc hp]
    simp only [nextAttempt, attempt?, hp]
    cases r.timer.reset now r.period <;> rfl
  | ended =>
    rw [wake_of_ended svc hp]
    simp only [nextAttempt, attempt?, hp]
    rfl

theorem schedule_attemptsFor (time fuel : Nat) (r : Refresher) (s : Session σ) :
    Schedule r.timer r.period r.nextAttempt (attemptsFor svc time fuel (r, s))
      (runFor svc time fuel (r, s)).1.nextAttempt := by
  induction fuel generalizing r s with
  | zero => rfl
  | succ fuel ih =>
    unfold attemptsFor runFor
    split
    · have hrest := ih (r.wake svc s).1 (r.wake svc s).2
      rw [period_wake, timer_wake] at hrest
      exact (schedule_wake svc r s).append hrest
    · rfl

theorem schedule_attemptsUntil (time : Nat) (r : Refresher) (s : Session σ) :
    Schedule r.timer r.period r.nextAttempt (r.attemptsUntil svc time s)
      (r.runUntil svc time s).1.nextAttempt :=
  schedule_attemptsFor svc time _ r s

/-- As long as nothing is due the next attempt is still to come. -/
theorem lt_nextAttempt {r : Refresher} (hperiod : 0 < r.period) {now next : Nat}
    (h : r.phase.isDue now = false) (hnext : r.nextAttempt = some next) : now < next := by
  unfold nextAttempt at hnext
  cases hp : r.phase with
  | waiting alarm =>
    rw [hp] at h hnext
    cases hnext
    exact Phase.lt_alarm h rfl
  | pausing alarm =>
    rw [hp] at h hnext
    exact Nat.lt_trans (Phase.lt_alarm h rfl) (r.timer.lt_reset hperiod hnext)
  | ended =>
    rw [hp] at hnext
    cases hnext

/-! ### A refresher at work -/

/-- A refresher at work: the time, the refresher with its session, and the attempts that it has made
so far. -/
structure Shift (σ : Type) where
  now : Nat
  refresher : Refresher
  session : Session σ
  attempts : List Attempt := []

namespace Shift

/-- The refresher does what is due by now. -/
def catchUp (svc : WalletService σ) (x : Shift σ) : Shift σ :=
  { now := x.now
    refresher := (x.refresher.runUntil svc x.now x.session).1
    session := (x.refresher.runUntil svc x.now x.session).2
    attempts := x.attempts ++ x.refresher.attemptsUntil svc x.now x.session }

/-- A session is taken over at the time `now`. -/
def begin (svc : WalletService σ) (timer : Timer) (period now : Nat) (s : Session σ) : Shift σ :=
  catchUp svc
    { now
      refresher := (takeOver svc timer period now s).1
      session := (takeOver svc timer period now s).2 }

/-- What can happen to a refresher at work. -/
inductive Event (κ : Type)
  /-- Time goes by. -/
  | wait (ms : Nat)
  /-- A change to the service from elsewhere. -/
  | outside (k : κ)
  deriving DecidableEq, Repr

def step (svc : WalletService σ) (affect : κ → σ → σ) (x : Shift σ) : Event κ → Shift σ
  | .wait ms => catchUp svc { x with now := x.now + ms }
  | .outside k => { x with session := x.session.onService (affect k) }

def run (svc : WalletService σ) (affect : κ → σ → σ) (x : Shift σ) : List (Event κ) → Shift σ
  | [] => x
  | e :: events => (x.step svc affect e).run svc affect events

/-- The attempts follow one another as they should, and none is missing. -/
structure OnTime (timer : Timer) (period first : Nat) (x : Shift σ) : Prop where
  timer_eq : x.refresher.timer = timer
  period_eq : x.refresher.period = period
  schedule : Schedule timer period (some first) x.attempts x.refresher.nextAttempt
  not_isDue : x.refresher.phase.isDue x.now = false

variable {svc : WalletService σ} {affect : κ → σ → σ} {timer : Timer} {period first : Nat}
  {x : Shift σ}

/-- To be on time it is enough to catch up. -/
theorem onTime_catchUp (hpause : 0 < period / 2) (htimer : x.refresher.timer = timer)
    (hperiod : x.refresher.period = period)
    (h : Schedule timer period (some first) x.attempts x.refresher.nextAttempt) :
    (x.catchUp svc).OnTime timer period first where
  timer_eq := (timer_runUntil svc x.now x.refresher x.session).trans htimer
  period_eq := (period_runUntil svc x.now x.refresher x.session).trans hperiod
  schedule := by
    subst htimer hperiod
    exact h.append (schedule_attemptsUntil svc x.now x.refresher x.session)
  not_isDue := by
    subst hperiod
    exact not_isDue_runUntil svc x.now hpause x.session

theorem onTime_begin (svc : WalletService σ) (timer : Timer) (hpause : 0 < period / 2) (now : Nat)
    (s : Session σ) : (begin svc timer period now s).OnTime timer period now :=
  onTime_catchUp hpause rfl rfl rfl

theorem OnTime.step (h : x.OnTime timer period first) (hpause : 0 < period / 2) (e : Event κ) :
    (x.step svc affect e).OnTime timer period first := by
  cases e with
  | wait ms => exact onTime_catchUp hpause h.timer_eq h.period_eq h.schedule
  | outside k => exact ⟨h.timer_eq, h.period_eq, h.schedule, h.not_isDue⟩

theorem OnTime.run (h : x.OnTime timer period first) (hpause : 0 < period / 2)
    (events : List (Event κ)) : (x.run svc affect events).OnTime timer period first := by
  induction events generalizing x with
  | nil => exact h
  | cons e events ih => exact ih (h.step hpause e)

/-- The attempt that should follow the last one is still to come. -/
theorem OnTime.now_lt (h : x.OnTime timer period first) (hperiod : 0 < period) {a : Attempt}
    (ha : x.attempts.getLast? = some a) {next : Nat} (hnext : a.next timer period = some next) :
    x.now < next :=
  lt_nextAttempt (by rwa [h.period_eq]) h.not_isDue ((h.schedule.next_eq ha).trans hnext)

/-- **After a failed attempt the next one is made after the pause that is announced and another
period,** and not after the pause alone. It is made as soon as so much time has gone by. How long
the two take is up to the timer. The timer of a clock waits for both in full, whatever they are, and
if the clock does not reach so far no attempt follows. -/
theorem attempts_run (svc : WalletService σ) (affect : κ → σ → σ) (timer : Timer) {seconds : Nat}
    (h : 1 ≤ seconds) (now : Nat) (s : Session σ) (events : List (Event κ)) :
    let d := seconds * 1000
    let x := (begin svc timer d now s).run svc affect events
    (x.attempts.IsChain fun a b => a.succeeded = false →
        timer.reset (timer.wait a.time (d / 2)) d = some b.time ∧
          ∀ limit, timer = .ofClock limit →
            b.time = a.time + d / 2 + d ∧ b.time ≠ a.time + d / 2) ∧
      ∀ a, x.attempts.getLast? = some a → a.succeeded = false →
        ∀ next, timer.reset (timer.wait a.time (d / 2)) d = some next → x.now < next := by
  intro d x
  have hd : d = seconds * 1000 := rfl
  have hpause : 0 < d / 2 := by omega
  have hx : x.OnTime timer d now := (onTime_begin svc timer hpause now s).run hpause events
  refine ⟨hx.schedule.isChain.imp fun a b hab ha => ⟨?_, ?_⟩, fun a hlast ha next hnext => ?_⟩
  · rwa [Attempt.next_of_failed ha] at hab
  · rintro limit rfl
    have htime := Attempt.next_ofClock_of_failed ha hab
    exact ⟨htime, by omega⟩
  · exact hx.now_lt (by omega) hlast ((Attempt.next_of_failed ha).trans hnext)

/-- A wallet of a service that is offline, taken over every two seconds and then left alone. -/
theorem attempts_run_offline :
    let svc := MemoryState.service (fun _ => default) 50
    let m : MemoryState :=
      { wallets := [("A", ⟨"aa", "acid", 0⟩)], active := some "A", offline := true }
    let s := ((Session.start ⟨2, by decide⟩ m).load svc).2
    let timer := Timer.ofClock clockEnd
    let x := (begin svc timer 2000 0 s).run svc (fun (_ : Unit) m => m) [.wait 1250, .wait 1750]
    (1 : Nat) ≤ 2 ∧ x.attempts = [⟨0, false⟩, ⟨3000, false⟩] ∧
      x.attempts.IsChain (fun a b => a.succeeded = false →
        timer.reset (timer.wait a.time (2000 / 2)) 2000 = some b.time ∧
          ∀ limit, timer = .ofClock limit →
            b.time = a.time + 2000 / 2 + 2000 ∧ b.time ≠ a.time + 2000 / 2) := by
  intro svc m s timer x
  have htwo : (1 : Nat) ≤ 2 := by decide
  exact ⟨htwo, by decide, (attempts_run svc _ timer htwo 0 s [.wait 1250, .wait 1750]).1⟩

/-- The first attempt fails and is to be made again after a second, but is not. -/
theorem not_retried_after_pause :
    let svc := MemoryState.service (fun _ => default) 50
    let m : MemoryState :=
      { wallets := [("A", ⟨"aa", "acid", 0⟩)], active := some "A", offline := true }
    let s := ((Session.start ⟨2, by decide⟩ m).load svc).2
    let x := (begin svc (.ofClock clockEnd) 2000 0 s).run svc (fun (_ : Unit) m => m) [.wait 1250]
    x.attempts = [⟨0, false⟩] ∧ 0 + 2000 / 2 ≤ x.now ∧
      x.refresher.retryLine.text = "[Refresher] Refresh failed | retrying in 1s" := by
  decide

end Shift

end Refresher

end WalletDashboard
