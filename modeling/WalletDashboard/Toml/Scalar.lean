import WalletDashboard.Binary64
import WalletDashboard.Json.Read
import WalletDashboard.Text.Digits
import WalletDashboard.Toml.Value

/-!
# Scalars without quotes in TOML texts

Numbers, truth values, dates and times consist of the same few characters, none of which may follow
them directly. So the longest run of those characters is one scalar, or the text is wrong
(`readBareScalar`).
-/

namespace WalletDashboard.Toml

/-- A character of a scalar without quotes. -/
def isScalarChar (c : Char) : Bool :=
  c.isAlphanum || c == '_' || c == '+' || c == '-' || c == '.' || c == ':'

/-- Digits with single underscores between them, without the underscores. There is at least one
digit. -/
def groupedDigits? (isDigit : Char → Bool) : List Char → Option (List Char)
  | [] => none
  | [c] => if isDigit c then some [c] else none
  | c :: '_' :: rest => if isDigit c then (groupedDigits? isDigit rest).map (c :: ·) else none
  | c :: rest => if isDigit c then (groupedDigits? isDigit rest).map (c :: ·) else none

/-- The sign at the start of a text: whether the number is negative. -/
def splitSign : List Char → Bool × List Char
  | '-' :: s => (true, s)
  | '+' :: s => (false, s)
  | s => (false, s)

/-- The digits of a whole number in base ten: without zeros in front. -/
def decimalDigits? (s : List Char) : Option (List Char) :=
  match groupedDigits? Char.isDigit s with
  | some ('0' :: _ :: _) => none
  | ds => ds

/-- Whole numbers are from `-2 ^ 63` up to, but not including, `2 ^ 63`. -/
def wholeInRange? (n : Int) : Option Int := if -2 ^ 63 ≤ n ∧ n < 2 ^ 63 then some n else none

/-- The whole number that a text consists of. -/
def whole? (token : List Char) : Option Int :=
  let inBase (base : Nat) (s : List Char) : Option Int := do
    wholeInRange? (Text.numberOf base (← groupedDigits? (Text.isDigitOf base) s))
  match token with
  | '0' :: 'x' :: s => inBase 16 s
  | '0' :: 'o' :: s => inBase 8 s
  | '0' :: 'b' :: s => inBase 2 s
  | s => do
    let (negative, s) := splitSign s
    let n : Int := Text.numberOf 10 (← decimalDigits? s)
    wholeInRange? (if negative then -n else n)

/-- Decimal exponents beyond this, counted at the first digit, lead to zero or out of range. -/
def exponentBound : Int := 400

/-- The magnitude nearest to the number that digits write, times a power of ten; nothing if it is
out of range. -/
def decimalMagnitude (digits : List Char) (exponent : Int) : Option Magnitude :=
  let n := Text.numberOf 10 digits
  let first := (Nat.repr n).length + exponent
  if n = 0 ∨ first < -exponentBound then some .zero
  else if exponentBound < first then none
  else if exponent < 0 then Magnitude.nearest n (10 ^ exponent.natAbs)
  else Magnitude.nearest (n * 10 ^ exponent.toNat) 1

/-- The exponent that a text consists of, after its `e`. -/
def exponent? (s : List Char) : Option Int := do
  let (negative, s) := splitSign s
  let n : Int := Text.numberOf 10 (← groupedDigits? Char.isDigit s)
  return if negative then -n else n

/-- The floating-point number with the given sign. What is too large counts as infinite, which only
a negative number may be. -/
def signedReal? (negative : Bool) (digits : List Char) (exponent : Int) : Option Binary64 :=
  match decimalMagnitude digits exponent with
  | some x => some (.finite negative x)
  | none => if negative then some (.infinite true) else none

/-- The floating-point number that a text consists of. It has a fraction, an exponent, or both. -/
def real? (token : List Char) : Option Binary64 :=
  let (negative, s) := splitSign token
  if s = ['i', 'n', 'f'] then some (.infinite negative)
  else if s = ['n', 'a', 'n'] then some .notANumber
  else
    let (mantissa, exponent) := s.span fun c => c != 'e' && c != 'E'
    let (whole, fraction) := mantissa.span fun c => c != '.'
    match fraction, exponent with
    | [], [] => none
    | _, _ => do
      let ds ← decimalDigits? whole
      let fs ←
        match fraction with
        | [] => some []
        | _ :: fs => groupedDigits? Char.isDigit fs
      let e ←
        match exponent with
        | [] => some 0
        | _ :: e => exponent? e
      signedReal? negative (ds ++ fs) (e - fs.length)

/-- The scalar that a text consists of. -/
def bareScalar? (token : List Char) : Option Value :=
  if token = ['t', 'r', 'u', 'e'] then some (.plain (.flag true))
  else if token = ['f', 'a', 'l', 's', 'e'] then some (.plain (.flag false))
  else
    match dateTimeText? token, whole? token with
    | some text, _ => some (.dateTime text)
    | none, some n => some (.plain (.whole n))
    | none, none => (real? token).map fun x => .plain (.real x)

/-- A scalar without quotes at the start of a text, and the rest. After a date, a space and a digit
begin the time. -/
def readBareScalar (s : List Char) : Option (Value × List Char) :=
  let (token, rest) := s.span isScalarChar
  match rest with
  | ' ' :: d :: more =>
    if isDate token ∧ d.isDigit then
      let (time, rest) := (d :: more).span isScalarChar
      (bareScalar? (token ++ ' ' :: time)).map (·, rest)
    else (bareScalar? token).map (·, rest)
  | _ => (bareScalar? token).map (·, rest)

end WalletDashboard.Toml
