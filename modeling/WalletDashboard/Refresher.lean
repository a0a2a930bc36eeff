import WalletDashboard.Dashboard.Session
import WalletDashboard.Dashboard.View
import WalletDashboard.Decimal
import WalletDashboard.Timer

/-!
# Refreshing at regular times

A refresher brings a session up to date at the end of every period. When that fails, it pauses for
half a period and only then starts to count the next period.

* `Refresher.wake` is what it does when its alarm goes off, and `Refresher.runUntil` everything it
  does up to a time. If its timer cannot begin the period anew, it ends.
* `Watch` is a session with a clock, perhaps a refresher that has taken it over, and a reader that
  writes the notices down as log lines.

Times are in milliseconds. Nothing else takes time.
-/

namespace WalletDashboard

/-- A length of time as it is shown, such as `7.5s` or `500ms`. -/
def durationText (ms : Nat) : String :=
  if ms = 0 then "0ns"
  else if ms < 1000 then Nat.repr ms ++ "ms"
  else (Decimal.normalize ⟨ms, 3⟩).text ++ "s"

/-- What a refresher is waiting for. -/
inductive Phase
  /-- It waits for the end of a period. -/
  | waiting (alarm : Nat)
  /-- It pauses after a failure. -/
  | pausing (alarm : Nat)
  /-- Its timer could not begin the period anew, and it has ended. -/
  | ended
  deriving DecidableEq, Repr

namespace Phase

/-- When the next alarm goes off. -/
def alarm? : Phase → Option Nat
  | waiting alarm | pausing alarm => some alarm
  | ended => none

/-- Some alarm goes off until `time`. -/
def isDue (time : Nat) (p : Phase) : Bool := p.alarm?.any (· ≤ time)

/-- The milliseconds left until `time`, from the next alarm on. -/
def left (time : Nat) (p : Phase) : Nat := p.alarm?.elim 0 (time + 1 - ·)

end Phase

/-- A refresher: its timer, how long its period is, and what it is waiting for. -/
structure Refresher where
  timer : Timer
  period : Nat
  phase : Phase

namespace Refresher

variable {σ : Type}

/-- The pause after a failure. -/
def pause (r : Refresher) : Nat := r.period / 2

/-- The refresher has ended. -/
def hasEnded (r : Refresher) : Bool := r.phase == .ended

/-- The log line after the session was brought up to date. -/
def refreshedLine (d : Dashboard) : LogLine :=
  ⟨.info, "[Refresher] Refreshed (" ++ Nat.repr d.rewards.length ++ " rewards, page " ++
    Nat.repr d.currentPage ++ "/" ++ Nat.repr d.totalPages ++ ")\n" ++ d.view⟩

/-- The log line after the session could not be brought up to date. -/
def retryLine (r : Refresher) : LogLine :=
  ⟨.warn, "[Refresher] Refresh failed | retrying in " ++ durationText r.pause⟩

/-- The alarm goes off. After a pause the period begins anew; otherwise the session is brought up to
date. -/
def wake (svc : WalletService σ) (r : Refresher) (s : Session σ) : Refresher × Session σ :=
  match r.phase with
  | .waiting now =>
    match s.refresh svc with
    | (true, s) =>
      ({ r with phase := .waiting (r.timer.wait now r.period) },
        s.write [refreshedLine s.dashboard])
    | (false, s) =>
      ({ r with phase := .pausing (r.timer.wait now r.pause) }, s.write [r.retryLine])
  | .pausing now => ({ r with phase := (r.timer.reset now r.period).elim .ended .waiting }, s)
  | .ended => (r, s)

/-- At most `fuel` alarms, as far as they go off until `time`. -/
def runFor (svc : WalletService σ) (time : Nat) :
    Nat → Refresher × Session σ → Refresher × Session σ
  | 0, rs => rs
  | fuel + 1, (r, s) =>
    if r.phase.isDue time then runFor svc time fuel (r.wake svc s) else (r, s)

/-- All alarms until `time`. Each moves the next one on, if a pause takes any time. -/
def runUntil (svc : WalletService σ) (time : Nat) (r : Refresher) (s : Session σ) :
    Refresher × Session σ :=
  runFor svc time (r.phase.left time) (r, s)

/-- The log line with the view that a refresher begins with. -/
def initialLine (d : Dashboard) : LogLine := ⟨.info, "[Refresher] Initial view:\n" ++ d.view⟩

/-- Takes a session over at time `now`: it is loaded and shown, and the first alarm is to go off at
once. -/
def takeOver (svc : WalletService σ) (timer : Timer) (period now : Nat) (s : Session σ) :
    Refresher × Session σ :=
  let s := s.write [⟨.info, "[Refresher] Starting with interval " ++ durationText period⟩]
  let s := (s.load svc).2
  ({ timer, period, phase := .waiting now }, s.write [initialLine s.dashboard])

/-- Takes a session over at time `now`, and does what is due by then. -/
def start (svc : WalletService σ) (timer : Timer) (period now : Nat) (s : Session σ) :
    Refresher × Session σ :=
  let (r, s) := takeOver svc timer period now s
  runUntil svc now r s

end Refresher

/-- A session that is watched over. -/
structure Watch (σ : Type) where
  session : Session σ
  /-- The timer that refreshers are given. -/
  timer : Timer := .ofClock clockEnd
  /-- The time. -/
  now : Nat := 0
  refresher : Option Refresher := none
  /-- Whether the session can still send notices. -/
  isOpen : Bool := true
  /-- The notices that were written down. -/
  notices : List LogLine := []

namespace Watch

variable {σ : Type}

/-- Writes down the notices that were sent. -/
def drain (w : Watch σ) : Watch σ :=
  let (notices, session) := w.session.takeNotices
  { w with session, notices := w.notices ++ notices.map Notice.logLine }

/-- The session is given up, and the reader of its notices is told so, once. -/
def close (w : Watch σ) : Watch σ :=
  let w := w.drain
  if w.isOpen then
    { w with
      refresher := none, isOpen := false
      notices := w.notices ++ [⟨.info, "[Notice] Channel closed."⟩] }
  else w

/-- Does something to the session. -/
def onSession {α : Type} (f : Session σ → α × Session σ) (w : Watch σ) : α × Watch σ :=
  let (a, session) := f w.session
  (a, { w with session }.drain)

/-- A refresher has done what was due. If it has ended, the session is given up. -/
def afterWork (rs : Refresher × Session σ) (w : Watch σ) : Watch σ :=
  if rs.1.hasEnded then { w with session := rs.2, refresher := none }.close
  else { w with session := rs.2, refresher := some rs.1 }.drain

/-- Hands the session over to a refresher. None can work without time between its alarms. -/
def spawn (svc : WalletService σ) (seconds : Nat) (w : Watch σ) : Watch σ :=
  if seconds = 0 then w.close
  else w.afterWork (Refresher.start svc w.timer (seconds * 1000) w.now w.session)

/-- Lets time go by. -/
def advance (svc : WalletService σ) (ms : Nat) (w : Watch σ) : Watch σ :=
  let w := { w with now := w.now + ms }
  match w.refresher with
  | none => w
  | some r => w.afterWork (r.runUntil svc w.now w.session)

/-- The notices written down so far, and the watch with a new list. -/
def takeNotices (w : Watch σ) : List LogLine × Watch σ := (w.notices, { w with notices := [] })

/-- The log so far, and the watch with a new log. -/
def takeLog (w : Watch σ) : List LogLine × Watch σ :=
  let (log, session) := w.session.takeLog
  (log, { w with session })

end Watch

end WalletDashboard
