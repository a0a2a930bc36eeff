/-!
# Timers

A timer says when something that waits from now on is woken. Times are in milliseconds.

`Timer.ofClock` is the timer of a clock: it waits in full as far as the clock reaches.
-/

namespace WalletDashboard

/-- A timer. Every wait takes some time. -/
structure Timer where
  /-- The end of a pause, or of a period that follows upon another. -/
  wait (now ms : Nat) : Nat
  /-- The end of a period that begins anew, if the timer can begin it. -/
  reset (now ms : Nat) : Option Nat
  lt_wait {now ms : Nat} : 0 < ms → now < wait now ms
  lt_reset {now ms next : Nat} : 0 < ms → reset now ms = some next → now < next

/-- Thirty years of 365 days. -/
def thirtyYears : Nat := 30 * 365 * 86400 * 1000

theorem thirtyYears_pos : 0 < thirtyYears := by decide

/-- The end of a clock whose seconds are signed numbers of 64 bits. -/
def clockEnd : Nat := 2 ^ 63 * 1000

namespace Timer

/-- The timer of a clock that ends at `limit`. It waits in full. If the clock does not reach the end
of a wait, it waits for thirty years instead, which are always left; but a period can only begin
anew if the clock reaches its end. -/
def ofClock (limit : Nat) : Timer where
  wait now ms := if now + ms < limit then now + ms else now + thirtyYears
  reset now ms := if now + ms < limit then some (now + ms) else none
  lt_wait h := by
    have hyears := thirtyYears_pos
    split <;> omega
  lt_reset h hnext := by
    split at hnext
    · cases hnext
      omega
    · cases hnext

variable {limit now ms next : Nat}

theorem wait_ofClock :
    (ofClock limit).wait now ms = if now + ms < limit then now + ms else now + thirtyYears := rfl

theorem reset_ofClock_eq_some :
    (ofClock limit).reset now ms = some next ↔ now + ms < limit ∧ now + ms = next := by
  simp [ofClock]

end Timer

end WalletDashboard
