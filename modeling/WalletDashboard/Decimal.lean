import WalletDashboard.Powers

/-!
# Decimal numbers

A decimal number is a whole number of units in its last place. `Decimal.text` writes all its places;
`Decimal.normalize` drops the zeros at the end, and `Decimal.dropZeros` drops a given number of them
at once.

The digits of natural numbers, padded to a width, are here too (`paddedDigits`).
-/

namespace WalletDashboard

/-- The decimal digits of `n`, with zeros in front of them up to `width` characters. -/
def paddedDigits (width n : Nat) : String :=
  let digits := (Nat.repr n).toList
  String.ofList (List.replicate (width - digits.length) '0' ++ digits)

/-- The number `units / 10 ^ places`. -/
structure Decimal where
  units : Nat
  places : Nat
  deriving DecidableEq, Repr, Inhabited

namespace Decimal

/-- Every place is written, and the point only if there is a place behind it. -/
def text (d : Decimal) : String :=
  let whole := Nat.repr (d.units / 10 ^ d.places)
  if d.places = 0 then whole else whole ++ "." ++ paddedDigits d.places (d.units % 10 ^ d.places)

/-- `units / 10 ^ places` without the zeros at the end. -/
def trimmed : Nat → Nat → Decimal
  | units, 0 => ⟨units, 0⟩
  | units, places + 1 => if units % 10 = 0 then trimmed (units / 10) places else ⟨units, places + 1⟩

/-- The same number with no zero in its last place, unless it is whole. -/
def normalize (d : Decimal) : Decimal := trimmed d.units d.places

/-- The same number without its last `count` places, if these hold zeros only. -/
def dropZeros (count : Nat) (d : Decimal) : Decimal :=
  if count ≤ d.places ∧ d.units % 10 ^ count = 0 then ⟨d.units / 10 ^ count, d.places - count⟩
  else d

@[simp] theorem text_whole (n : Nat) : text ⟨n, 0⟩ = Nat.repr n := by simp [text]

@[simp] theorem normalize_whole (n : Nat) : normalize ⟨n, 0⟩ = ⟨n, 0⟩ := rfl

/-- `normalize` keeps the number that is denoted. -/
theorem trimmed_value (units places : Nat) :
    (trimmed units places).units * 10 ^ places = units * 10 ^ (trimmed units places).places := by
  induction places generalizing units with
  | zero => simp [trimmed]
  | succ p ih =>
    unfold trimmed
    split
    · next h =>
      have h10 : units = 10 * (units / 10) := by omega
      have := ih (units / 10)
      calc (trimmed (units / 10) p).units * 10 ^ (p + 1)
          = ((trimmed (units / 10) p).units * 10 ^ p) * 10 := by rw [Nat.pow_succ, Nat.mul_assoc]
        _ = (units / 10 * 10 ^ (trimmed (units / 10) p).places) * 10 := by rw [this]
        _ = units * 10 ^ (trimmed (units / 10) p).places := by
          rw [Nat.mul_right_comm, Nat.mul_comm (units / 10) 10, ← h10]
    · rfl

/-- The places that `dropZeros` removes held zeros only, so the number stays the same. -/
theorem dropZeros_value (count : Nat) (d : Decimal) :
    (dropZeros count d).units * 10 ^ d.places = d.units * 10 ^ (dropZeros count d).places := by
  unfold dropZeros
  split
  · next h =>
    have hp : 10 ^ d.places = 10 ^ count * 10 ^ (d.places - count) := by
      rw [← Nat.pow_add, Nat.add_sub_cancel' h.1]
    rw [hp, ← Nat.mul_assoc, Nat.div_mul_cancel (Nat.dvd_of_mod_eq_zero h.2)]
  · rfl

end Decimal

end WalletDashboard
