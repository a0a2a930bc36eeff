import WalletDashboard.Powers

/-!
# Punycode

Labels with letters beyond ASCII are written in the letters, digits and hyphens of ASCII (RFC 3492).
The ASCII characters come first, with a hyphen behind them if there are any. The others follow in
the order of their code points: for each stands how many places and code points are passed over
before it comes, as a number whose digits end themselves. How large a digit must be for the number
to go on depends on the numbers before it (`bias`).

* `encode` writes a label.
* `decode?` reads one.
-/

namespace WalletDashboard.Punycode

/-- How many digits there are. -/
def base : Nat := 36

/-- The bias at the beginning. -/
def firstBias : Nat := 72

/-- The code point at which the characters beyond ASCII begin. -/
def firstCode : Nat := 0x80

/-- The least digit with which a number goes on, at a place counted from one. -/
def threshold (bias place : Nat) : Nat := max 1 (min 26 (base * place - bias))

theorem one_le_threshold (bias place : Nat) : 1 ≤ threshold bias place := Nat.le_max_left ..

/-- The bias for a spread of `delta`, with what the places behind have to do already. -/
def settle (passed delta : Nat) : Nat :=
  if delta ≤ 455 then passed + base * delta / (delta + 38) else settle (passed + base) (delta / 35)
termination_by delta
decreasing_by omega

/-- The bias after the number `delta`, by which the label has come to `size` characters. -/
def adapt (isFirst : Bool) (delta size : Nat) : Nat :=
  let delta := if isFirst then delta / 700 else delta / 2
  settle 0 (delta + delta / size)

/-! ### Writing -/

/-- A digit: `a` to `z`, and then `0` to `9`. -/
def digitChar (d : Nat) : Char :=
  if d < 26 then Char.ofNat ('a'.toNat + d) else Char.ofNat ('0'.toNat + (d - 26))

/-- The digits of a number from a place on. -/
def writeNumber (bias place n : Nat) : List Char :=
  let t := threshold bias place
  if n < t then [digitChar n]
  else digitChar (t + (n - t) % (base - t)) :: writeNumber bias (place + 1) ((n - t) / (base - t))
termination_by n
decreasing_by
  have h := one_le_threshold bias place
  exact Nat.lt_of_le_of_lt (Nat.div_le_self _ _) (by omega)

/-- A label on its way to being written. -/
structure Encoder where
  /-- The digits so far, read backwards. -/
  digits : List Char := []
  /-- What has been passed over since the last number. -/
  delta : Nat := 0
  bias : Nat := firstBias
  /-- How many characters are written. -/
  size : Nat

namespace Encoder

/-- Passes a character of the label, when characters of the code point `code` are written. -/
def visit (asciiSize code : Nat) (s : Encoder) (c : Char) : Encoder :=
  if c.toNat < code then { s with delta := s.delta + 1 }
  else if c.toNat = code then
    { digits := (writeNumber s.bias 1 s.delta).reverse ++ s.digits
      delta := 0
      bias := adapt (s.size == asciiSize) s.delta (s.size + 1)
      size := s.size + 1 }
  else s

/-- Writes the characters of the code points `codes`, which go up from `next`. -/
def visitAll (label : List Char) (asciiSize : Nat) : Nat → List Nat → Encoder → Encoder
  | _, [], s => s
  | next, code :: codes, s =>
    let s := { s with delta := s.delta + (code - next) * (s.size + 1) }
    let s := label.foldl (visit asciiSize code) s
    visitAll label asciiSize (code + 1) codes { s with delta := s.delta + 1 }

end Encoder

/-- Puts a number into a list of numbers that go up. -/
def insertCode (n : Nat) : List Nat → List Nat
  | [] => [n]
  | m :: rest =>
    if n < m then n :: m :: rest else if n = m then m :: rest else m :: insertCode n rest

/-- The code points beyond ASCII of a label. -/
def codesBeyond (label : List Char) : List Nat :=
  ((label.map Char.toNat).filter (firstCode ≤ ·)).foldr insertCode []

/-- A label in letters, digits and hyphens. -/
def encode (label : List Char) : List Char :=
  let ascii := label.filter (·.toNat < firstCode)
  let size := ascii.length
  let s := Encoder.visitAll label size firstCode (codesBeyond label) { size }
  ascii ++ (if ascii = [] then [] else ['-']) ++ s.digits.reverse

/-! ### Reading -/

/-- The value of a digit. -/
def digitValue? (c : Char) : Option Nat :=
  if c.isDigit then some (26 + (c.toNat - '0'.toNat))
  else if c.isAlpha then some (c.toLower.toNat - 'a'.toNat)
  else none

/-- Numbers on the way stay below this. -/
def wordLimit : Nat := 2 ^ 32

/-- A label on its way to being read. -/
structure Decoder where
  label : List Char
  /-- The code point of the last character that was read. -/
  code : Nat := firstCode
  /-- The place behind it. -/
  position : Nat := 0
  bias : Nat := firstBias
  /-- The number so far of which the digits are being read. -/
  delta : Nat := 0
  /-- What the next digit counts. -/
  weight : Nat := 1
  /-- The place of the next digit, counted from one. -/
  place : Nat := 1

namespace Decoder

/-- The label before any number is read. -/
def start (ascii : List Char) : Decoder := { label := ascii }

/-- Puts the character into the label for which the number stands. -/
def insert? (s : Decoder) : Option Decoder :=
  let size := s.label.length + 1
  let total := s.position + s.delta
  let code := s.code + total / size
  let position := total % size
  if code.isValidChar then
    some { start (s.label.insertIdx position (Char.ofNat code)) with
      code, position := position + 1, bias := adapt (s.position == 0) s.delta size }
  else none

/-- Reads a digit. -/
def push? (s : Decoder) (c : Char) : Option Decoder := do
  let d ← digitValue? c
  let t := threshold s.bias s.place
  let s := { s with delta := s.delta + d * s.weight }
  if wordLimit ≤ s.position + s.delta then none
  else if d < t then s.insert?
  else
    let weight := s.weight * (base - t)
    if wordLimit ≤ weight then none else some { s with weight, place := s.place + 1 }

/-- The label, unless a number has not come to its end. -/
def finish? (s : Decoder) : Option (List Char) := if s.place = 1 then some s.label else none

end Decoder

/-- What comes before the last hyphen of a text, and what comes after it. -/
def splitLastHyphen (text : List Char) : List Char × List Char :=
  let (digits, ascii) := text.reverse.span (· != '-')
  ((ascii.drop 1).reverse, digits.reverse)

/-- The label that a text writes. A hyphen at the beginning has nothing to end. -/
def decode? (text : List Char) : Option (List Char) := do
  let (ascii, digits) := splitLastHyphen text
  if text.head? = some '-' ∧ ascii = [] then none
  else if ascii.any (firstCode ≤ ·.toNat) then none
  else (← digits.foldlM Decoder.push? (Decoder.start ascii)).finish?

end WalletDashboard.Punycode
