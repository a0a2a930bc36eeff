import WalletDashboard.Calendar

/-!
# Dates and times in TOML texts

A date, a time, or both, perhaps with the offset from UTC, are read and written again in one form:
`T` between the date and the time, `Z` for UTC, and a fraction of a second without zeros at its end.

There are two ways to read them. As a scalar of its own (`dateTimeText?`) a day has 24 hours, and so
has the largest offset. Given as a quoted text (`looseDateTimeText?`), the hour may also be 24, and
an offset counts up to 24 hours, whatever its minutes.
-/

namespace WalletDashboard.Toml

/-- The number that so many digits at the start of a text write. -/
def fixedDigits? : Nat → List Char → Option (Nat × List Char)
  | 0, s => some (0, s)
  | n + 1, c :: s =>
    if c.isDigit then
      (fixedDigits? n s).map fun (m, s) => ((c.toNat - '0'.toNat) * 10 ^ n + m, s)
    else none
  | _ + 1, [] => none

/-- A number of so many digits that lies in a range. -/
def numberIn? (digits low high : Nat) (s : List Char) : Option (Nat × List Char) :=
  match fixedDigits? digits s with
  | some (n, s) => if low ≤ n ∧ n ≤ high then some (n, s) else none
  | none => none

/-- The rest of a text behind a character. -/
def expectChar? (c : Char) : List Char → Option (List Char)
  | d :: s => if c = d then some s else none
  | [] => none

/-- A date that the calendar has, as it is written, and the rest of the text. The year 0 counts as a
leap year. -/
def readDate? (s : List Char) : Option (String × List Char) := do
  let (year, s) ← numberIn? 4 0 9999 s
  let s ← expectChar? '-' s
  let (month, s) ← numberIn? 2 1 12 s
  let s ← expectChar? '-' s
  let (day, s) ← numberIn? 2 1 ((monthLengths year).getD (month - 1) 0) s
  return ((Date.mk year month day).text, s)

/-- A fraction of a second after its point: the first nine digits count. -/
def fractionText (digits : List Char) : String :=
  let digits := digits.take 9
  let kept := (digits.reverse.dropWhile (· == '0')).reverse
  if kept = [] then "" else String.ofList ('.' :: kept)

/-- A time of day as it is written, and the rest of the text. -/
def readTime? (lastHour : Nat) (s : List Char) : Option (String × List Char) := do
  let (hour, s) ← numberIn? 2 0 lastHour s
  let s ← expectChar? ':' s
  let (minute, s) ← numberIn? 2 0 59 s
  let s ← expectChar? ':' s
  let (second, s) ← numberIn? 2 0 60 s
  let whole := paddedDigits 2 hour ++ ":" ++ paddedDigits 2 minute ++ ":" ++ paddedDigits 2 second
  match s with
  | '.' :: rest =>
    match rest.span Char.isDigit with
    | ([], _) => none
    | (digits, rest) => return (whole ++ fractionText digits, rest)
  | s => return (whole, s)

/-- An offset of so many minutes, as it is written. -/
def offsetText (isNegative : Bool) (minutes : Nat) : String :=
  (if isNegative ∧ minutes ≠ 0 then "-" else "+") ++ paddedDigits 2 (minutes / 60) ++ ":" ++
    paddedDigits 2 (minutes % 60)

/-- The minutes of an offset behind its sign. No hours beyond `lastHour`, no minutes beyond
`lastMinute`. -/
def offsetMinutes? (lastHour lastMinute : Nat) (s : List Char) : Option Nat := do
  let (hour, s) ← numberIn? 2 0 lastHour s
  let (minute, s) ← numberIn? 2 0 lastMinute (← expectChar? ':' s)
  if s = [] then some (hour * 60 + minute) else none

/-- The offset from UTC that a text consists of, as it is written, given how the minutes behind its
sign are read. No offset is written as nothing. -/
def offset? (minutes : List Char → Option Nat) : List Char → Option String
  | [] => some ""
  | ['Z'] => some "Z"
  | ['z'] => some "Z"
  | '+' :: s => (minutes s).map (offsetText false)
  | '-' :: s => (minutes s).map (offsetText true)
  | _ => none

/-- Whether a text is a date and nothing else, so that a time may follow after a space. -/
def isDate (token : List Char) : Bool :=
  match readDate? token with
  | some (_, []) => true
  | _ => false

/-- The date, the time, or both that a text consists of, as they are written, given the last hour
and how the minutes of an offset are read. -/
def dateTimeWith? (lastHour : Nat) (minutes : List Char → Option Nat) (token : List Char) :
    Option String :=
  match readDate? token with
  | some (date, []) => some date
  | some (date, delimiter :: s) => do
    if delimiter ≠ 'T' ∧ delimiter ≠ 't' ∧ delimiter ≠ ' ' then none
    let (time, s) ← readTime? lastHour s
    return date ++ "T" ++ time ++ (← offset? minutes s)
  | none =>
    match readTime? lastHour token with
    | some (time, []) => some time
    | _ => none

/-- The date, the time, or both that a scalar consists of. -/
def dateTimeText? (token : List Char) : Option String :=
  dateTimeWith? 23 (offsetMinutes? 23 59) token

/-- The date, the time, or both that a quoted text gives. -/
def looseDateTimeText? (s : List Char) : Option String :=
  dateTimeWith? 24 (fun s => (offsetMinutes? 99 99 s).filter (· ≤ 24 * 60)) s

end WalletDashboard.Toml
