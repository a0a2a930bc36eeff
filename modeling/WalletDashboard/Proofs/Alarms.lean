import WalletDashboard.Proofs.Refreshing

/-!
# What is due up to a time

A refresher answers the alarms that go off until some time. Every alarm comes later than the one
before it (`Refresher.alarm_lt_alarm_wake`), so there are only so many of them, and what the
refresher does can be followed from one to the next (`Refresher.alarm_induction`).

* `Refresher.runUntil_runUntil`: up to a later time it does what it does up to an earlier one, and
  then goes on.
* `Refresher.not_isDue_runUntil`: it leaves nothing undone.
* `Refresher.reset_of_hasEnded_runUntil`: it ends only if its period cannot begin anew.
-/

namespace WalletDashboard

namespace Phase

variable {p : Phase} {time later : Nat}

theorem left_of_alarm {alarm : Nat} (h : alarm ∈ p.alarm?) : p.left time = time + 1 - alarm := by
  rw [left, Option.mem_def.mp h]
  rfl

theorem isDue_iff_left_pos : p.isDue time = true ↔ 0 < p.left time := by
  rw [isDue, left]
  cases p.alarm? with
  | none => simp
  | some alarm =>
    rw [Option.any_some, decide_eq_true_eq, Option.elim_some]
    omega

theorem left_eq_zero (h : p.isDue time = false) : p.left time = 0 := by
  have hnot : ¬0 < p.left time := fun hpos => by
    rw [isDue_iff_left_pos.mpr hpos] at h
    cases h
  omega

/-- What is not due yet is still to come. -/
theorem lt_alarm (h : p.isDue time = false) {alarm : Nat} (halarm : alarm ∈ p.alarm?) :
    time < alarm := by
  have hleft := left_eq_zero h
  rw [left_of_alarm halarm] at hleft
  omega

theorem left_mono (h : time ≤ later) : p.left time ≤ p.left later := by
  rw [left, left]
  cases p.alarm? with
  | none => exact Nat.le_refl 0
  | some alarm => exact Nat.sub_le_sub_right (Nat.succ_le_succ h) alarm

theorem isDue_mono (h : time ≤ later) (hdue : p.isDue time = true) : p.isDue later = true :=
  isDue_iff_left_pos.mpr (Nat.lt_of_lt_of_le (isDue_iff_left_pos.mp hdue) (left_mono h))

end Phase

namespace Refresher

variable {σ : Type} (svc : WalletService σ)

theorem pause_wake (r : Refresher) (s : Session σ) : (r.wake svc s).1.pause = r.pause := by
  rw [pause, pause, period_wake]

/-- Every alarm comes later than the one before it, if a pause takes any time. -/
theorem alarm_lt_alarm_wake {r : Refresher} (hpause : 0 < r.pause) {s : Session σ} {alarm : Nat}
    (h : alarm ∈ (r.wake svc s).1.phase.alarm?) : ∃ now ∈ r.phase.alarm?, now < alarm := by
  have hperiod : 0 < r.period := by
    unfold pause at hpause
    omega
  cases hp : r.phase with
  | waiting now =>
    rw [wake_of_waiting svc hp, afterAttempt] at h
    refine ⟨now, rfl, ?_⟩
    cases hr : (s.refresh svc).1 <;> rw [hr] at h <;> cases h
    · exact r.timer.lt_wait hpause
    · exact r.timer.lt_wait hperiod
  | pausing now =>
    rw [wake_of_pausing svc hp] at h
    refine ⟨now, rfl, ?_⟩
    cases hr : r.timer.reset now r.period <;> rw [hr] at h <;> cases h
    exact r.timer.lt_reset hperiod hr
  | ended =>
    rw [wake_of_ended svc hp, hp] at h
    cases h

/-- An alarm that is due uses up some of the milliseconds left. -/
theorem left_wake_lt {r : Refresher} (hpause : 0 < r.pause) {time : Nat}
    (hdue : r.phase.isDue time = true) (s : Session σ) :
    (r.wake svc s).1.phase.left time < r.phase.left time := by
  have hpos := Phase.isDue_iff_left_pos.mp hdue
  cases halarm : (r.wake svc s).1.phase.alarm? with
  | none =>
    rw [Phase.left, halarm]
    exact hpos
  | some alarm =>
    obtain ⟨now, hnow, hlt⟩ := alarm_lt_alarm_wake svc hpause halarm
    rw [Phase.left_of_alarm hnow] at hpos ⊢
    rw [Phase.left_of_alarm halarm]
    omega

variable {time : Nat} {r : Refresher}

theorem runFor_of_not_due (h : r.phase.isDue time = false) (fuel : Nat) (s : Session σ) :
    runFor svc time fuel (r, s) = (r, s) := by
  cases fuel with
  | zero => rfl
  | succ fuel => rw [runFor, if_neg (by simp [h])]

/-- It does not matter how much fuel there is, as long as there is a unit for every millisecond
left. -/
theorem runFor_eq_of_enough (hpause : 0 < r.pause) {fuel fuel' : Nat}
    (hfuel : r.phase.left time ≤ fuel) (hfuel' : r.phase.left time ≤ fuel') (s : Session σ) :
    runFor svc time fuel (r, s) = runFor svc time fuel' (r, s) := by
  -- Every alarm uses up one unit of the fuel and at least one of the milliseconds.
  induction fuel generalizing fuel' r s with
  | zero =>
    have hdue : r.phase.isDue time = false := by
      rw [Bool.eq_false_iff, ne_eq, Phase.isDue_iff_left_pos]
      omega
    rw [runFor_of_not_due svc hdue, runFor_of_not_due svc hdue]
  | succ fuel ih =>
    cases hdue : r.phase.isDue time with
    | true =>
      have hpos := Phase.isDue_iff_left_pos.mp hdue
      have hless := left_wake_lt svc hpause hdue s
      have hpause' : 0 < (r.wake svc s).1.pause := by rwa [pause_wake]
      obtain ⟨more, rfl⟩ : ∃ more, fuel' = more + 1 := ⟨fuel' - 1, by omega⟩
      rw [runFor, runFor, if_pos hdue, if_pos hdue]
      exact ih hpause' (by omega) (by omega) (r.wake svc s).2
    | false => rw [runFor_of_not_due svc hdue, runFor_of_not_due svc hdue]

theorem runUntil_of_not_due (h : r.phase.isDue time = false) (s : Session σ) :
    r.runUntil svc time s = (r, s) :=
  runFor_of_not_due svc h _ s

/-- What is due by some time is the next alarm and what is due after it. -/
theorem runUntil_of_due (hpause : 0 < r.pause) (h : r.phase.isDue time = true) (s : Session σ) :
    r.runUntil svc time s = (r.wake svc s).1.runUntil svc time (r.wake svc s).2 := by
  have hpos := Phase.isDue_iff_left_pos.mp h
  have hless := left_wake_lt svc hpause h s
  have hpause' : 0 < (r.wake svc s).1.pause := by rwa [pause_wake]
  obtain ⟨fuel, hfuel⟩ : ∃ fuel, r.phase.left time = fuel + 1 :=
    ⟨r.phase.left time - 1, by omega⟩
  unfold runUntil
  rw [hfuel, runFor, if_pos h]
  exact runFor_eq_of_enough svc hpause' (by omega) (by omega) (r.wake svc s).2

/-- To show something of a refresher up to some time, it is enough to show it if nothing is due, and
to go back over an alarm. -/
@[elab_as_elim]
theorem alarm_induction {motive : Refresher → Session σ → Prop} (time : Nat)
    (idle : ∀ r s, r.phase.isDue time = false → motive r s)
    (alarm : ∀ r s, 0 < r.pause → r.phase.isDue time = true →
      motive (r.wake svc s).1 (r.wake svc s).2 → motive r s)
    (r : Refresher) (s : Session σ) (hpause : 0 < r.pause) : motive r s := by
  -- The induction is on the milliseconds left.
  induction hleft : r.phase.left time using Nat.strongRecOn generalizing r s with
  | ind left ih =>
    cases hdue : r.phase.isDue time with
    | true =>
      have hless := left_wake_lt svc hpause hdue s
      have hpause' : 0 < (r.wake svc s).1.pause := by rwa [pause_wake]
      exact alarm r s hpause hdue (ih _ (by omega) _ _ hpause' rfl)
    | false => exact idle r s hdue

/-- What a refresher keeps at every alarm it keeps up to any time. -/
theorem runUntil_keeps {P : Refresher × Session σ → Prop}
    (hwake : ∀ r s, P (r, s) → P (r.wake svc s)) (time : Nat) {r : Refresher} {s : Session σ}
    (h : P (r, s)) : P (r.runUntil svc time s) := by
  unfold runUntil
  generalize r.phase.left time = fuel
  induction fuel generalizing r s with
  | zero => exact h
  | succ fuel ih =>
    unfold runFor
    split
    · exact ih (hwake r s h)
    · exact h

theorem fst_runUntil (time : Nat) (r : Refresher) (s : Session σ) :
    (r.runUntil svc time s).1 = { r with phase := (r.runUntil svc time s).1.phase } := by
  refine runUntil_keeps svc (P := fun x => x.1 = { r with phase := x.1.phase })
    (fun r' s' h => ?_) time rfl
  have hphase : r' = { r with phase := r'.phase } := h
  rw [fst_wake, hphase]

theorem period_runUntil (time : Nat) (r : Refresher) (s : Session σ) :
    (r.runUntil svc time s).1.period = r.period := by
  rw [fst_runUntil]

theorem timer_runUntil (time : Nat) (r : Refresher) (s : Session σ) :
    (r.runUntil svc time s).1.timer = r.timer := by
  rw [fst_runUntil]

theorem pause_runUntil (time : Nat) (r : Refresher) (s : Session σ) :
    (r.runUntil svc time s).1.pause = r.pause := by
  rw [pause, pause, period_runUntil]

/-- **Up to a later time a refresher does what it does up to an earlier one, and then goes on.** -/
theorem runUntil_runUntil {later : Nat} (htime : time ≤ later) (hpause : 0 < r.pause)
    (s : Session σ) :
    (r.runUntil svc time s).1.runUntil svc later (r.runUntil svc time s).2 =
      r.runUntil svc later s := by
  refine alarm_induction svc time (fun r s hdue => ?_) (fun r s hpause hdue ih => ?_) r s hpause
  · rw [runUntil_of_not_due svc hdue]
  · rw [runUntil_of_due svc hpause hdue, runUntil_of_due svc hpause (Phase.isDue_mono htime hdue)]
    exact ih

/-- Nothing that is due is left undone. -/
theorem not_isDue_runUntil (time : Nat) (hpause : 0 < r.pause) (s : Session σ) :
    (r.runUntil svc time s).1.phase.isDue time = false := by
  refine alarm_induction svc time (fun r s hdue => ?_) (fun r s hpause hdue ih => ?_) r s hpause
  · rwa [runUntil_of_not_due svc hdue]
  · rwa [runUntil_of_due svc hpause hdue]

/-! ### The end of a refresher -/

/-- A refresher that has ended does nothing more. -/
theorem runUntil_of_hasEnded (h : r.hasEnded = true) (s : Session σ) :
    r.runUntil svc time s = (r, s) := by
  have hphase : r.phase = .ended := beq_iff_eq.mp h
  exact runUntil_of_not_due svc (by rw [hphase]; rfl) s

end Refresher

end WalletDashboard
