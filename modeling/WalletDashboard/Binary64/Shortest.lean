import WalletDashboard.Binary64

/-!
# Floating-point numbers as text

A magnitude is written with the fewest digits that still tell it from every other magnitude, and
among those with the digits that come nearest to it.

* `Magnitude.shortest` finds the digits. It tries powers of ten from a large one down, and takes the
  first of which a multiple rounds to the magnitude.
* `Magnitude.plainText` writes all digits before and after the point, and the point only if a digit
  follows it.
* `Magnitude.scientificText` has a point or an exponent in every case, and uses the exponent for
  numbers that are large or small.
-/

namespace WalletDashboard.Magnitude

/-- Whether `p / q`, counted in quarters of the smallest magnitude, rounds to `x`. The gap below a
power of two is half the gap above it. -/
def roundsTo (x : Magnitude) (p q : Nat) : Bool :=
  let mid := 4 * x.units
  let above := mid + 2 * 2 ^ x.shift
  let below :=
    mid - (if x.significand = significandLimit / 2 ∧ 0 < x.shift then 1 else 2) * 2 ^ x.shift
  if x.significand % 2 = 0 then decide (below * q ≤ p) && decide (p ≤ above * q)
  else decide (below * q < p) && decide (p < above * q)

/-- The natural number of which the product with `10 ^ k` rounds to `x`, if there is one; the one
nearest to `x`, if there are several. -/
def digitsAt (x : Magnitude) (k : Int) : Option Nat :=
  let one := 4 * unitsInOne * 10 ^ k.toNat
  let q := 10 ^ (-k).toNat
  let mid := 4 * x.units * q
  let low := mid / one
  let candidates := if mid - low * one < (low + 1) * one - mid ∨
      (mid - low * one = (low + 1) * one - mid ∧ low % 2 = 0)
    then [low, low + 1] else [low + 1, low]
  candidates.find? fun d => x.roundsTo (d * one) q

/-- An exponent of ten that is larger than that of any digit of `x`. -/
def exponentBound (x : Magnitude) : Int :=
  if unitsInOne ≤ x.units then (Nat.repr (x.units / unitsInOne)).length
  else 2 - ((Nat.repr (unitsInOne / x.units)).length : Int)

/-- Digits and an exponent of ten: the shortest decimal number that rounds to `x`. -/
def shortest (x : Magnitude) : Nat × Int :=
  let top := x.exponentBound
  let tryAt (i : Nat) : Option (Nat × Int) := (x.digitsAt (top - i)).map (·, top - i)
  ((List.range 20).findSome? tryAt).getD (0, 0)

/-- `digits * 10 ^ k` with all its digits. -/
def placeDigits (digits : String) (k : Int) : String :=
  let cs := digits.toList
  if 0 ≤ k then String.ofList (cs ++ List.replicate k.toNat '0')
  else
    let places := (-k).toNat
    let cs := List.replicate (places + 1 - cs.length) '0' ++ cs
    String.ofList (cs.take (cs.length - places) ++ '.' :: cs.drop (cs.length - places))

/-- The magnitude as `1`, `0.25` or `1000`. -/
def plainText (x : Magnitude) : String :=
  if x.isZero then "0"
  else
    let (digits, k) := x.shortest
    placeDigits (Nat.repr digits) k

/-- An exponent with its sign. -/
def exponentText (e : Int) : String := (if e < 0 then "-" else "+") ++ Nat.repr e.natAbs

/-- The magnitude as `1.0`, `0.25` or `1e+30`. -/
def scientificText (x : Magnitude) : String :=
  if x.isZero then "0.0"
  else
    let (n, k) := x.shortest
    let digits := Nat.repr n
    let exponent := k + digits.length - 1
    if -5 ≤ exponent ∧ exponent ≤ 15 then placeDigits digits k ++ (if 0 ≤ k then ".0" else "")
    else
      let cs := digits.toList
      String.ofList (cs.take 1 ++ (if cs.length = 1 then [] else '.' :: cs.drop 1)) ++ "e" ++
        exponentText exponent

end WalletDashboard.Magnitude

namespace WalletDashboard.Binary64

/-- The number with all its digits. -/
def plainText : Binary64 → String
  | finite negative x => (if negative then "-" else "") ++ x.plainText
  | infinite negative => (if negative then "-" else "") ++ "inf"
  | notANumber => "NaN"

end WalletDashboard.Binary64
