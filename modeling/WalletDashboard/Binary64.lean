import WalletDashboard.Powers

/-!
# Binary floating-point numbers

Double-precision numbers, as exact fractions.

* `Magnitude` is the absolute value of a finite number. All of them are whole multiples of
  `2 ^ -1074`, so a magnitude is a natural number of those (`Magnitude.units`), kept as a
  significand below `2 ^ 53` and a shift.
* `Magnitude.nearest` rounds a fraction to the nearest magnitude, and to the even significand if two
  are equally near. `mul?` and `div?` are the rounded product and quotient.
* `Binary64` adds the sign, the infinities, and what is not a number.
-/

namespace WalletDashboard

/-- The whole number nearest to the quotient of `a` by `b`; the even one if two are equally near. -/
def nearestQuotient (a b : Nat) : Nat :=
  let q := a / b
  let r := a % b
  if b < 2 * r ∨ (2 * r = b ∧ q % 2 = 1) then q + 1 else q

/-- The absolute value of a finite number: `significand * 2 ^ shift` times `2 ^ -1074`. -/
structure Magnitude where
  significand : Nat
  shift : Nat
  deriving DecidableEq, Repr, Inhabited

namespace Magnitude

def zero : Magnitude := ⟨0, 0⟩

def isZero (x : Magnitude) : Bool := x.significand == 0

/-- How many times `2 ^ -1074` the number is. -/
def units (x : Magnitude) : Nat := x.significand * 2 ^ x.shift

/-- How many times `2 ^ -1074` one is. -/
def unitsInOne : Nat := 2 ^ 1074

/-- Significands are smaller than this. -/
def significandLimit : Nat := 2 ^ 53

/-- The largest shift. -/
def lastShift : Nat := 2045

/-- The magnitude nearest to `p / q`, unless that is too large for one. -/
def nearest (p q : Nat) : Option Magnitude :=
  let units := p * unitsInOne
  let shift := Nat.log2 (units / q) - 52
  let significand := nearestQuotient units (q * 2 ^ shift)
  let x :=
    if significand = significandLimit then ⟨significandLimit / 2, shift + 1⟩
    else ⟨significand, shift⟩
  if x.shift ≤ lastShift then some x else none

def ofNat? (n : Nat) : Option Magnitude := nearest n 1

/-- The product, rounded. -/
def mul? (x y : Magnitude) : Option Magnitude :=
  nearest (x.units * y.units) (unitsInOne * unitsInOne)

/-- The quotient, rounded. -/
def div? (x y : Magnitude) : Option Magnitude := nearest x.units y.units

/-- The whole number nearest to the magnitude; the larger one, if two are equally near. -/
def round (x : Magnitude) : Nat := (2 * x.units + unitsInOne) / (2 * unitsInOne)

end Magnitude

/-- A double-precision number. -/
inductive Binary64
  | finite (negative : Bool) (magnitude : Magnitude)
  | infinite (negative : Bool)
  | notANumber
  deriving DecidableEq, Repr, Inhabited

namespace Binary64

def isZero : Binary64 → Bool
  | finite _ x => x.isZero
  | _ => false

/-- The machine word nearest to the number: half is rounded up, and what lies outside is taken to
the nearer end. What is not a number counts as 0. -/
def toWord : Binary64 → UInt64
  | finite false x => UInt64.ofNat (min x.round (2 ^ 64 - 1))
  | infinite false => UInt64.ofNat (2 ^ 64 - 1)
  | _ => 0

end Binary64

end WalletDashboard
