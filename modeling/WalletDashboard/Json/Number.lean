import WalletDashboard.Json

/-!
# Numbers in JSON texts

`Json.readNumber` reads a number at the start of a text.

A whole number is kept if it fits a machine word. Every other number is read as a significand and a
power of ten: as many of the digits are taken into the significand as a machine word holds, and the
power of ten is multiplied into it, or divided out of it, with a rounding in every step. A number
that becomes too large is no number.
-/

namespace WalletDashboard.Json

/-- The value of a decimal digit. -/
def digitValue? (c : Char) : Option Nat := if c.isDigit then some (c.toNat - '0'.toNat) else none

/-- The digits at the start of a text, and the rest. -/
def readDigits : List Char → List Nat × List Char
  | [] => ([], [])
  | c :: rest =>
    match digitValue? c with
    | none => ([], c :: rest)
    | some d =>
      let (ds, rest) := readDigits rest
      (d :: ds, rest)

/-- Natural numbers below this fit a machine word. -/
def wordLimit : Nat := 2 ^ 64

/-- Exponents below this are counted; larger ones are only compared with zero. -/
def exponentLimit : Nat := 2 ^ 31

/-- Takes digits into a significand while it is below `limit`. The digits that are left over start
with the first that does not fit. -/
def takeDigits (limit : Nat) : Nat → List Nat → Nat × List Nat
  | significand, [] => (significand, [])
  | significand, d :: ds =>
    if significand * 10 + d < limit then takeDigits limit (significand * 10 + d) ds
    else (significand, d :: ds)

/-- The greatest power of ten by which a magnitude is multiplied or divided at once. -/
def powerStep : Nat := 308

/-- `x / 10 ^ e`, in steps of at most `10 ^ powerStep`. Two steps bring every significand to zero,
so none after a third counts. -/
def divideByPower (x : Magnitude) (e : Nat) : Nat → Option Magnitude
  | 0 => some x
  | steps + 1 =>
    if e ≤ powerStep then do x.div? (← Magnitude.ofNat? (10 ^ e))
    else if x.isZero then some x
    else do divideByPower (← x.div? (← Magnitude.ofNat? (10 ^ powerStep))) (e - powerStep) steps

/-- `x * 10 ^ e`, unless that is too large. Zero stays zero. -/
def multiplyByPower (x : Magnitude) (e : Nat) : Option Magnitude :=
  if x.isZero then some x
  else if e ≤ powerStep then do x.mul? (← Magnitude.ofNat? (10 ^ e))
  else none

/-- `significand * 10 ^ exponent` as it is computed. -/
def scaled (significand : Nat) (exponent : Int) : Option Magnitude := do
  let x ← Magnitude.ofNat? significand
  if exponent < 0 then divideByPower x exponent.natAbs 4 else multiplyByPower x exponent.toNat

/-- An exponent after its `e`, and the rest: whether it is negative, and its digits. There is at
least one. -/
def readExponent (s : List Char) : Option (Bool × List Nat × List Char) :=
  let (negative, s) :=
    match s with
    | '+' :: rest => (false, rest)
    | '-' :: rest => (true, rest)
    | s => (false, s)
  match readDigits s with
  | ([], _) => none
  | (ds, rest) => some (negative, ds, rest)

/-- The magnitude `significand * 10 ^ exponent`, with an exponent in front of the text applied. -/
def finishReal (significand : Nat) (exponent : Int) (s : List Char) :
    Option (Magnitude × List Char) :=
  let plain := (scaled significand exponent).map (·, s)
  match s with
  | [] => plain
  | c :: rest =>
    if c = 'e' ∨ c = 'E' then do
      let (negative, ds, rest) ← readExponent rest
      match takeDigits exponentLimit 0 ds with
      | (e, []) =>
        (scaled significand (if negative then exponent - e else exponent + e)).map (·, rest)
      | (_, _ :: _) =>
        if significand ≠ 0 ∧ !negative then none else some (Magnitude.zero, rest)
    else plain

/-- The magnitude of which the digits before the point are given, with the fraction and the exponent
in front of the text. -/
def readReal (whole : List Nat) (s : List Char) : Option (Magnitude × List Char) :=
  let (significand, beyond) := takeDigits wordLimit 0 whole
  match s with
  | '.' :: rest =>
    match readDigits rest with
    | ([], _) => none
    | (fraction, rest) =>
      let (significand, left) := takeDigits wordLimit significand fraction
      finishReal significand ((beyond.length : Int) - (fraction.length - left.length : Nat)) rest
  | s => finishReal significand beyond.length s

/-- Whether a fraction or an exponent begins here. -/
def startsReal : List Char → Bool
  | '.' :: _ => true
  | 'e' :: _ => true
  | 'E' :: _ => true
  | _ => false

/-- A whole number with its sign, if it fits a machine word. Zero has no negative. -/
def wholeNumber? (negative : Bool) (ds : List Nat) : Option Number :=
  match takeDigits wordLimit 0 ds with
  | (n, []) =>
    if !negative then some (.natural (UInt64.ofNat n))
    else if n ≠ 0 ∧ n ≤ 2 ^ 63 then some (.negative (-n))
    else none
  | _ => none

/-- A number at the start of a text, and the rest. -/
def readNumber (s : List Char) : Option (Number × List Char) := do
  let (negative, s) :=
    match s with
    | '-' :: rest => (true, rest)
    | s => (false, s)
  let (ds, rest) := readDigits s
  match ds with
  | [] => none
  | 0 :: _ :: _ => none
  | ds =>
    match if startsReal rest then none else wholeNumber? negative ds with
    | some n => some (n, rest)
    | none =>
      let (x, rest) ← readReal ds rest
      some (.real negative x, rest)

end WalletDashboard.Json
