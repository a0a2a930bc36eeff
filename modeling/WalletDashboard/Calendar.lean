import WalletDashboard.Decimal

/-!
# Calendar dates

Dates of the Gregorian calendar, carried on backwards and forwards without end, and the instants
that Unix seconds count.

* `Date.ofDays` finds the date of a day numbered from 1 January of year 1: first the year, out of
  whole spans of 400, 100, 4 and 1 years, then the month, out of the lengths of the months.
  `Date.toDays` counts back.
* `Instant.ofSeconds` and `Instant.toSeconds` do the same with the time of day, counted from the
  start of 1970.
* `timeText` is the instant as it is shown; a time beyond the last year is shown in seconds.
-/

namespace WalletDashboard

/-- Every fourth year has a leap day, but of the years that end a century only every fourth. -/
def isLeapYear (year : Nat) : Bool := year % 4 = 0 && (year % 100 ≠ 0 || year % 400 = 0)

/-- The lengths of the months of a year. -/
def monthLengths (year : Nat) : List Nat :=
  [31, if isLeapYear year then 29 else 28, 31, 30, 31, 30, 31, 31, 30, 31, 30, 31]

/-- A day of the calendar. Months and days are counted from 1. -/
structure Date where
  year : Nat
  month : Nat
  day : Nat
  deriving DecidableEq, Repr, Inhabited

namespace Date

/-- The month and the day of the month of the `n`-th day of a year, both counted from 0. -/
def monthAndDay : List Nat → Nat → Nat × Nat
  | [], n => (0, n)
  | length :: rest, n =>
    if n < length then (0, n)
    else
      let (month, day) := monthAndDay rest (n - length)
      (month + 1, day)

/-- The number of days before the first day of `year`. -/
def daysBeforeYear (year : Nat) : Nat :=
  (year - 1) * 365 + (year - 1) / 4 - (year - 1) / 100 + (year - 1) / 400

/-- The year that holds day `n`, counted from the first day of year 1, and the number of the day
in it. In the last of four centuries, and in the last of four years, the leap day belongs to the
same span. -/
def yearAndDay (n : Nat) : Nat × Nat :=
  let cycles := n / 146097
  let n := n % 146097
  let centuries := min (n / 36524) 3
  let n := n - centuries * 36524
  let quads := n / 1461
  let n := n % 1461
  let years := min (n / 365) 3
  (cycles * 400 + centuries * 100 + quads * 4 + years + 1, n - years * 365)

/-- The date of day `n`, where day 0 is 1 January of year 1. -/
def ofDays (n : Nat) : Date :=
  let (year, dayOfYear) := yearAndDay n
  let (month, day) := monthAndDay (monthLengths year) dayOfYear
  ⟨year, month + 1, day + 1⟩

/-- The number of days from 1 January of year 1 to the date. -/
def toDays (d : Date) : Nat :=
  daysBeforeYear d.year + ((monthLengths d.year).take (d.month - 1)).foldl (· + ·) 0 + (d.day - 1)

/-- A date that the calendar has. -/
def Exists (d : Date) : Prop :=
  1 ≤ d.year ∧ 1 ≤ d.month ∧ 1 ≤ d.day ∧
    ∃ length, (monthLengths d.year)[d.month - 1]? = some length ∧ d.day ≤ length

/-- Years have at least four digits, and a sign if they have more. -/
def yearText (year : Nat) : String :=
  (if 9999 < year then "+" else "") ++ paddedDigits 4 year

/-- The date as `YYYY-MM-DD`. -/
def text (d : Date) : String :=
  yearText d.year ++ "-" ++ paddedDigits 2 d.month ++ "-" ++ paddedDigits 2 d.day

end Date

/-- A second of a day of the calendar. -/
structure Instant where
  date : Date
  hour : Nat
  minute : Nat
  second : Nat
  deriving DecidableEq, Repr, Inhabited

namespace Instant

/-- The number of days from 1 January of year 1 to 1 January 1970. -/
def epochDays : Nat := 719162

/-- The last year that is written as a date. -/
def lastYear : Nat := 262142

/-- The instant `t` seconds after the start of 1970. -/
def ofSeconds (t : Nat) : Instant :=
  let rest := t % 86400
  ⟨Date.ofDays (epochDays + t / 86400), rest / 3600, rest % 3600 / 60, rest % 60⟩

/-- The number of seconds from the start of 1970 to the instant. -/
def toSeconds (i : Instant) : Nat :=
  (i.date.toDays - epochDays) * 86400 + i.hour * 3600 + i.minute * 60 + i.second

/-- The instant as `YYYY-MM-DD HH:MM:SS UTC`. -/
def text (i : Instant) : String :=
  i.date.text ++ " " ++ paddedDigits 2 i.hour ++ ":" ++ paddedDigits 2 i.minute ++ ":" ++
    paddedDigits 2 i.second ++ " UTC"

end Instant

/-- The time `t`, in seconds since the start of 1970, as it is shown. -/
def timeText (t : UInt64) : String :=
  let instant := Instant.ofSeconds t.toNat
  if instant.date.year ≤ Instant.lastYear then instant.text else Nat.repr t.toNat

end WalletDashboard
