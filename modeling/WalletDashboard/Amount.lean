import WalletDashboard.Decimal

/-!
# Amounts

An amount counts smallest units, of which `unitsPerCoin` make one AGT. Sums of amounts stop at the
ends of the machine word (`addCapped`, `subFloored`).

* `inCoins` is the amount as an exact number of coins. A whole number of coins has no places;
  any other has as many as are left when nine places are shortened by eight, four, two and one
  zeros in turn, so that a zero may stay behind (`0.50`).
* `coinText` is the amount as it is shown: normalized, with the name of the coin.
-/

namespace WalletDashboard

/-- A number of smallest units. -/
abbrev Amount := UInt64

namespace Amount

/-- Smallest units in one coin. -/
def unitsPerCoin : UInt64 := 100000000

/-- The sum, or the largest amount if the sum is larger. -/
def addCapped (a b : Amount) : Amount :=
  if a.toNat + b.toNat < 2 ^ 64 then a + b else UInt64.ofNat (2 ^ 64 - 1)

/-- The difference, or nothing if more is taken away than there is. -/
def subFloored (a b : Amount) : Amount := if b ≤ a then a - b else 0

/-- The amount as a number of coins. Eight zeros are dropped at once only from a number whose low
32 bits are all zero. -/
def inCoins (a : Amount) : Decimal :=
  if a % unitsPerCoin = 0 then ⟨a.toNat / 100000000, 0⟩
  else
    let nine : Decimal := ⟨a.toNat * 10, 9⟩
    let shorter := if nine.units % 2 ^ 32 = 0 then nine.dropZeros 8 else nine
    ((shorter.dropZeros 4).dropZeros 2).dropZeros 1

/-- The amount as it is shown, such as `0.5 AGT`. -/
def coinText (a : Amount) : String := a.inCoins.normalize.text ++ " AGT"

theorem toNat_addCapped (a b : Amount) :
    (addCapped a b).toNat = min (a.toNat + b.toNat) (2 ^ 64 - 1) := by
  unfold addCapped
  split
  · rw [UInt64.toNat_add]; omega
  · simp; omega

theorem toNat_subFloored (a b : Amount) : (subFloored a b).toNat = a.toNat - b.toNat := by
  unfold subFloored
  split
  · next h => exact UInt64.toNat_sub_of_le _ _ h
  · next h =>
    have : a.toNat < b.toNat := by simpa [UInt64.le_iff_toNat_le] using h
    simp; omega

end Amount

end WalletDashboard
