import Mathlib.Algebra.Ring.Nat
import WalletDashboard.Proofs.Alarms
import WalletDashboard.Proofs.Secrecy
import WalletDashboard.Proofs.SideBySide

/-!
# Watched sessions

A session is watched over from its beginning: the user works with it until it is handed over to a
refresher, time goes by, the service changes, and in the end the session is given up
(`Watch.Step`, `Watch.run`).

Time may be let go by in pieces. A refresher does up to a later time what it does up to an earlier
one, and then goes on (`Refresher.runUntil_runUntil`); that the notices sent so far are written down
in between makes no difference to it. So it does not matter in which pieces time goes by
(`Watch.run_pieces`).

`Watch.IsAtWork.isOpen_step` says what may end the course before the session is stopped.
-/

namespace WalletDashboard

/-! ### The course of things -/

namespace Watch

variable {σ : Type}

/-- What can happen to a watched session over the service in memory. -/
inductive Step
  /-- An operation of the user. -/
  | act (a : Action)
  /-- A change to the service from elsewhere. -/
  | outside (k : MemoryState.Change)
  /-- The session is handed over to a refresher. -/
  | spawn (seconds : Nat)
  | advance (ms : Nat)
  /-- The session is given up. -/
  | stop
  deriving DecidableEq, Repr

/-- The session still belongs to the user: it was neither handed over nor given up. -/
def isFree (w : Watch σ) : Bool := w.isOpen && w.refresher.isNone

/-- The watch after a step. The user cannot do anything with a session that is not his any more. -/
def step (svc : WalletService MemoryState) (w : Watch MemoryState) : Step → Watch MemoryState
  | .act a => if w.isFree then (w.onSession (MemoryState.handle svc · (.act a))).2 else w
  | .outside k => (w.onSession (MemoryState.handle svc · (.outside k))).2
  | .spawn seconds => if w.isFree then w.spawn svc seconds else w
  | .advance ms => w.advance svc ms
  | .stop => w.close

/-- The watch after a list of steps. -/
def run (svc : WalletService MemoryState) (w : Watch MemoryState) : List Step → Watch MemoryState
  | [] => w
  | e :: steps => run svc (w.step svc e) steps

/-- A watch over a session that has just begun over a new service in memory. -/
def begin (timer : Timer) (size : PageSize) : Watch MemoryState :=
  { session := .start size {}, timer }

theorem run_append (svc : WalletService MemoryState) (w : Watch MemoryState)
    (steps later : List Step) :
    w.run svc (steps ++ later) = (w.run svc steps).run svc later := by
  induction steps generalizing w with
  | nil => rfl
  | cons e steps ih => exact ih (w.step svc e)

/-- What every step keeps holds after every run. -/
theorem run_keeps {svc : WalletService MemoryState} {P : Watch MemoryState → Prop}
    (hstep : ∀ w e, P w → P (w.step svc e)) {w : Watch MemoryState} (hw : P w)
    (steps : List Step) : P (w.run svc steps) := by
  induction steps generalizing w with
  | nil => exact hw
  | cons e steps ih => exact ih (hstep w e hw)

/-! ### Letting time go by -/

section Advance

variable (svc : WalletService σ) (w : Watch σ)

theorem advance_of_none (h : w.refresher = none) (ms : Nat) :
    w.advance svc ms = { w with now := w.now + ms } := by
  simp only [advance, h]

theorem advance_of_some {r : Refresher} (h : w.refresher = some r) (ms : Nat) :
    w.advance svc ms =
      { w with now := w.now + ms }.afterWork (r.runUntil svc (w.now + ms) w.session) := by
  simp only [advance, h]

theorem afterWork_of_hasEnded {rs : Refresher × Session σ} (h : rs.1.hasEnded = true) :
    w.afterWork rs = { w with session := rs.2, refresher := none }.close := if_pos h

theorem afterWork_of_not_hasEnded {rs : Refresher × Session σ} (h : rs.1.hasEnded = false) :
    w.afterWork rs = { w with session := rs.2, refresher := some rs.1 }.drain :=
  if_neg (by simp [h])

theorem now_close (w : Watch σ) : w.close.now = w.now := by
  simp only [close]
  split <;> rfl

variable {w}

theorem refresher_close (h : w.refresher = none) : w.close.refresher = none := by
  simp only [close]
  split
  · rfl
  · exact h

/-- The refresher has not ended, and its pauses take time. -/
def IsAtWork (w : Watch σ) : Prop := ∀ r, w.refresher = some r → r.hasEnded = false ∧ 0 < r.pause

theorem IsAtWork.of_none (h : w.refresher = none) : w.IsAtWork := by
  intro r hr
  rw [h] at hr
  cases hr

theorem IsAtWork.close (h : w.IsAtWork) : w.close.IsAtWork := by
  simp only [Watch.close]
  split
  · exact .of_none rfl
  · exact h

theorem isAtWork_afterWork (w : Watch σ) {rs : Refresher × Session σ} (h : 0 < rs.1.pause) :
    (w.afterWork rs).IsAtWork := by
  cases he : rs.1.hasEnded with
  | true =>
    rw [afterWork_of_hasEnded w he]
    exact .of_none (refresher_close rfl)
  | false =>
    rw [afterWork_of_not_hasEnded w he]
    rintro r ⟨⟩
    exact ⟨he, h⟩

theorem IsAtWork.spawn (h : w.IsAtWork) (seconds : Nat) : (w.spawn svc seconds).IsAtWork := by
  unfold Watch.spawn
  split
  · exact h.close
  · refine isAtWork_afterWork w ?_
    unfold Refresher.start
    simp only [Refresher.pause_runUntil]
    show 0 < seconds * 1000 / 2
    omega

theorem IsAtWork.advance (h : w.IsAtWork) (ms : Nat) : (w.advance svc ms).IsAtWork := by
  cases hr : w.refresher with
  | none =>
    rw [advance_of_none svc w hr]
    exact h
  | some r =>
    rw [advance_of_some svc w hr]
    refine isAtWork_afterWork _ ?_
    rw [Refresher.pause_runUntil]
    exact (h r hr).2

/-- Notices that are put back are written down first. -/
theorem drain_putBack (w : Watch σ) (notices : List Notice) (s : Session σ) :
    { w with session := s.putBack notices : Watch σ }.drain =
      { w with
        session := s
        notices := w.notices ++ notices.map Notice.logLine : Watch σ }.drain := by
  simp only [drain, Session.takeNotices, Session.putBack, Outbox.take, List.map_append,
    List.append_assoc]

theorem close_putBack (w : Watch σ) (notices : List Notice) (s : Session σ) :
    { w with session := s.putBack notices : Watch σ }.close =
      { w with
        session := s
        notices := w.notices ++ notices.map Notice.logLine : Watch σ }.close := by
  simp only [close, drain_putBack]

theorem afterWork_putBack (w : Watch σ) (notices : List Notice) (r : Refresher) (s : Session σ) :
    w.afterWork (r, s.putBack notices) =
      { w with notices := w.notices ++ notices.map Notice.logLine : Watch σ }.afterWork (r, s) := by
  unfold afterWork
  split
  · exact close_putBack { w with refresher := none } notices s
  · exact drain_putBack { w with refresher := some r } notices s

/-- When a session is given up the clock does not matter. -/
theorem close_now (w : Watch σ) (now : Nat) :
    { w with now : Watch σ }.close = { w.close with now } := by
  obtain ⟨session, timer, now', refresher, isOpen, notices⟩ := w
  cases isOpen <;> rfl

/-- Time goes by in two pieces as in one. -/
theorem advance_advance (h : w.IsAtWork) (a b : Nat) :
    (w.advance svc a).advance svc b = w.advance svc (a + b) := by
  cases hr : w.refresher with
  | none =>
    rw [advance_of_none svc w hr a, advance_of_none svc w hr (a + b),
      advance_of_none svc { w with now := w.now + a } hr b, Nat.add_assoc]
  | some r =>
    -- The refresher with its session after the first piece.
    let x := r.runUntil svc (w.now + a) w.session
    have hsplit : x.1.runUntil svc (w.now + a + b) x.2 =
        r.runUntil svc (w.now + a + b) w.session :=
      Refresher.runUntil_runUntil svc (Nat.le_add_right ..) (h r hr).2 w.session
    rw [advance_of_some svc w hr a, advance_of_some svc w hr (a + b), ← Nat.add_assoc, ← hsplit]
    cases hx : x.1.hasEnded with
    | true =>
      -- It has ended, and the session is given up with the first piece.
      let ended : Watch σ := { w with now := w.now + a, session := x.2, refresher := none }
      have hended : ended.close.refresher = none := refresher_close rfl
      rw [Refresher.runUntil_of_hasEnded svc hx, afterWork_of_hasEnded _ hx,
        afterWork_of_hasEnded _ hx, advance_of_none svc ended.close hended, now_close]
      exact (close_now ended (w.now + a + b)).symm
    | false =>
      -- The notices sent until then are written down, and the rest is done without them.
      let notices := x.2.outbox.unread
      let y := x.1.runUntil svc (w.now + a + b) x.2.takeNotices.2
      have hback : x.2 = x.2.takeNotices.2.putBack notices := by
        simp [Session.takeNotices, Session.putBack, Outbox.take, notices]
      have hagree := Refresher.runUntil_agree (Session.indifferent_putBack notices) svc
        (w.now + a + b) x.1 hback
      have hrest : x.1.runUntil svc (w.now + a + b) x.2 = (y.1, y.2.putBack notices) :=
        Prod.ext hagree.1.symm hagree.2
      rw [hrest, afterWork_of_not_hasEnded _ hx, advance_of_some svc _ rfl b]
      exact (afterWork_putBack { w with now := w.now + a + b } notices y.1 y.2).symm

end Advance

/-- The refresher of a watch is always at work. -/
theorem IsAtWork.step {svc : WalletService MemoryState} {w : Watch MemoryState} (h : w.IsAtWork)
    (e : Step) : (w.step svc e).IsAtWork := by
  cases e with
  | act a =>
    simp only [Watch.step]
    split <;> exact h
  | outside k => exact h
  | spawn seconds =>
    simp only [Watch.step]
    split
    · exact h.spawn svc seconds
    · exact h
  | advance ms => exact h.advance svc ms
  | stop => exact h.close

theorem isAtWork_run (svc : WalletService MemoryState) (timer : Timer) (size : PageSize)
    (steps : List Step) : ((begin timer size).run svc steps).IsAtWork :=
  run_keeps (fun _ e h => h.step e) (by rintro r ⟨⟩) steps

theorem run_map_advance {svc : WalletService MemoryState} {w : Watch MemoryState} (h : w.IsAtWork)
    (ms : Nat) (pieces : List Nat) :
    w.run svc ((ms :: pieces).map .advance) = w.advance svc (ms :: pieces).sum := by
  induction pieces generalizing w ms with
  | nil => rfl
  | cons next pieces ih =>
    have hrest := ih (h.advance svc ms) next
    rw [List.map_cons, run, step, hrest, advance_advance svc h, ← List.sum_cons]

/-- **It does not matter in which pieces time goes by.** The session, the clock, the refresher with
its next alarm, the log and the notices written down are the same after two pieces as after both at
once, whatever the timer, and so are whole courses in which time goes by in any number of pieces
instead of at once. -/
theorem run_pieces (mint : Nat → WalletExport) (window : Nat) (timer : Timer) (size : PageSize)
    (before after : List Step) :
    let svc := MemoryState.service mint window
    let w := (begin timer size).run svc before
    (∀ a b, (w.advance svc a).advance svc b = w.advance svc (a + b)) ∧
      ∀ ms pieces,
        (begin timer size).run svc (before ++ (ms :: pieces).map .advance ++ after) =
          (begin timer size).run svc (before ++ .advance (ms :: pieces).sum :: after) := by
  intro svc w
  have hwork : w.IsAtWork := isAtWork_run svc timer size before
  refine ⟨fun a b => advance_advance svc hwork a b, fun ms pieces => ?_⟩
  rw [run_append, run_append, run_append, run_map_advance hwork]
  rfl

end Watch

end WalletDashboard
