import WalletDashboard.Proofs.Operations
import WalletDashboard.Refresher

/-!
# Runs of a refresher

A refresher works alone on the session that it took over: its alarms go off one after another, and
in between the service may be changed from elsewhere.

* `Refresher.wake_of_waiting`, `Refresher.wake_of_pausing`, `Refresher.wake_of_ended`: what an alarm
  does, by what the refresher was waiting for.
* `Refresher.run` is the refresher with its session after a list of such events.
* `Refresher.start_eq_run`: what a refresher has done at the time it starts is such a run from
  `Refresher.takeOver`, and so is everything that it does up to some time
  (`Refresher.runUntil_eq_run`).
-/

namespace WalletDashboard

namespace Refresher

/-! ### Alarms -/

section Wake

variable {σ : Type} (svc : WalletService σ) {r : Refresher} {now : Nat}

/-- The line about an attempt to bring the session up to date. -/
def outcomeLine (r : Refresher) (succeeded : Bool) (d : Dashboard) : LogLine :=
  if succeeded then refreshedLine d else r.retryLine

/-- What a refresher is waiting for after an attempt at the time `now`. -/
def afterAttempt (r : Refresher) (now : Nat) (succeeded : Bool) : Phase :=
  if succeeded then .waiting (r.timer.wait now r.period) else .pausing (r.timer.wait now r.pause)

/-- At the end of a period the session is brought up to date, and one line tells how that went. -/
theorem wake_of_waiting (h : r.phase = .waiting now) (s : Session σ) :
    r.wake svc s =
      ({ r with phase := r.afterAttempt now (s.refresh svc).1 },
        (s.refresh svc).2.write
          [r.outcomeLine (s.refresh svc).1 (s.refresh svc).2.dashboard]) := by
  simp only [wake, h]
  rcases s.refresh svc with ⟨_ | _, s'⟩ <;> rfl

/-- At the end of a pause the period begins anew, or the refresher ends. -/
theorem wake_of_pausing (h : r.phase = .pausing now) (s : Session σ) :
    r.wake svc s = ({ r with phase := (r.timer.reset now r.period).elim .ended .waiting }, s) := by
  simp only [wake, h]

theorem wake_of_ended (h : r.phase = .ended) (s : Session σ) : r.wake svc s = (r, s) := by
  simp only [wake, h]

/-- An alarm changes what a refresher is waiting for, and nothing else of it. -/
theorem fst_wake (r : Refresher) (s : Session σ) :
    (r.wake svc s).1 = { r with phase := (r.wake svc s).1.phase } := by
  cases hp : r.phase with
  | waiting now => rw [wake_of_waiting svc hp]
  | pausing now => rw [wake_of_pausing svc hp]
  | ended => rw [wake_of_ended svc hp]

theorem period_wake (r : Refresher) (s : Session σ) : (r.wake svc s).1.period = r.period := by
  rw [fst_wake]

theorem timer_wake (r : Refresher) (s : Session σ) : (r.wake svc s).1.timer = r.timer := by
  rw [fst_wake]

end Wake

/-! ### Runs -/

/-- What can happen while a refresher is at work. -/
inductive Event (κ : Type)
  | alarm
  /-- A change to the service from elsewhere. -/
  | outside (k : κ)
  deriving DecidableEq, Repr

variable {σ κ : Type}

/-- The refresher and its session after an event. -/
def step (svc : WalletService σ) (affect : κ → σ → σ) (rs : Refresher × Session σ) :
    Event κ → Refresher × Session σ
  | .alarm => rs.1.wake svc rs.2
  | .outside k => (rs.1, rs.2.onService (affect k))

/-- The refresher and its session after a list of events. -/
def run (svc : WalletService σ) (affect : κ → σ → σ) (rs : Refresher × Session σ) :
    List (Event κ) → Refresher × Session σ
  | [] => rs
  | e :: events => run svc affect (step svc affect rs e) events

variable (svc : WalletService σ) (affect : κ → σ → σ)

@[simp] theorem run_nil (rs : Refresher × Session σ) : run svc affect rs [] = rs := rfl

@[simp] theorem run_cons (rs : Refresher × Session σ) (e : Event κ) (events : List (Event κ)) :
    run svc affect rs (e :: events) = run svc affect (step svc affect rs e) events := rfl

/-- Up to some time a refresher does nothing but answer its alarms. -/
theorem runUntil_eq_run (time : Nat) (r : Refresher) (s : Session σ) :
    ∃ n, runUntil svc time r s = run svc affect (r, s) (List.replicate n .alarm) := by
  suffices h : ∀ fuel rs, ∃ n, runFor svc time fuel rs =
      run svc affect rs (List.replicate n .alarm) from h _ _
  intro fuel
  -- Every unit of fuel that is used up is an alarm.
  induction fuel with
  | zero => exact fun rs => ⟨0, rfl⟩
  | succ fuel ih =>
    rintro ⟨r, s⟩
    unfold runFor
    split
    · obtain ⟨n, hn⟩ := ih (r.wake svc s)
      exact ⟨n + 1, hn⟩
    · exact ⟨0, rfl⟩

/-- A refresher takes the session over, and goes on to answer its alarms. -/
theorem start_eq_run (timer : Timer) (period now : Nat) (s : Session σ) :
    ∃ n, start svc timer period now s =
      run svc affect (takeOver svc timer period now s) (List.replicate n .alarm) :=
  runUntil_eq_run svc affect now _ _

end Refresher

end WalletDashboard
