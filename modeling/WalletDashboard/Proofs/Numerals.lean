import Mathlib.Data.List.Basic
import WalletDashboard.Decimal

/-!
# Numerals

Numbers are written in decimal digits, some of them with zeros in front up to a width
(`paddedDigits`). `IsNumeral` describes such a text without saying how it is made: it is made of
digits, `Nat.ofDigitChars` reads the number off it, and no zero stands in front of it that the
width does not ask for.

* `isNumeral_paddedDigits` and `isNumeral_repr`: what is written is a numeral.
* `IsNumeral.value_unique`: a numeral writes one number only.
-/

namespace WalletDashboard

/-- `cs` are the decimal digits of `n`, with zeros in front of them only up to `width` digits. -/
structure IsNumeral (width n : Nat) (cs : List Char) : Prop where
  digits : ∀ c ∈ cs, c.isDigit = true
  value : Nat.ofDigitChars 10 cs 0 = n
  width_le : width ≤ cs.length
  unpadded : cs.head? = some '0' → cs.length ≤ width

/-! ### Digits -/

theorem isDigit_of_mem_toDigits {n : Nat} {c : Char} (hc : c ∈ Nat.toDigits 10 n) :
    c.isDigit = true :=
  Nat.isDigit_of_mem_toDigits (by decide) (by decide) hc

/-- A number with more than one digit does not begin with a zero. -/
theorem head?_toDigits_ne_zero {n : Nat} (hn : n ≠ 0) :
    (Nat.toDigits 10 n).head? ≠ some '0' := by
  induction n using Nat.strongRecOn with
  | ind n ih =>
    by_cases hlt : n < 10
    · rw [Nat.toDigits_of_lt_base hlt, List.head?_cons, ne_eq, Option.some.injEq,
        Nat.digitChar_eq_zero]
      exact hn
    · rw [Nat.toDigits_of_base_le (by decide) (Nat.le_of_not_lt hlt),
        List.head?_append_of_ne_nil _ Nat.toDigits_ne_nil]
      exact ih (n / 10) (by omega) (by omega)

theorem length_toDigits_le_of_head? {n : Nat} (h : (Nat.toDigits 10 n).head? = some '0') :
    (Nat.toDigits 10 n).length ≤ 1 := by
  by_cases hn : n = 0
  · subst hn
    decide
  · exact absurd h (head?_toDigits_ne_zero hn)

theorem toList_paddedDigits (width n : Nat) :
    (paddedDigits width n).toList =
      List.replicate (width - (Nat.toDigits 10 n).length) '0' ++ Nat.toDigits 10 n := by
  rw [paddedDigits, String.toList_ofList, Nat.toList_repr]

/-! ### What is written is a numeral -/

theorem isNumeral_paddedDigits {width : Nat} (hwidth : 0 < width) (n : Nat) :
    IsNumeral width n (paddedDigits width n).toList := by
  rw [toList_paddedDigits]
  refine ⟨fun c hc => ?_, ?_, ?_, fun hhead => ?_⟩
  · rcases List.mem_append.mp hc with hc | hc
    · rw [List.eq_of_mem_replicate hc]
      decide
    · exact isDigit_of_mem_toDigits hc
  · rw [Nat.ofDigitChars_append, Nat.ofDigitChars_replicate_zero, Nat.mul_zero,
      Nat.ofDigitChars_ten_toDigits]
  · rw [List.length_append, List.length_replicate]
    omega
  · rw [List.length_append, List.length_replicate]
    -- Either there is room for zeros in front, or the number itself begins with one.
    by_cases hroom : (Nat.toDigits 10 n).length ≤ width
    · omega
    · rw [Nat.sub_eq_zero_of_le (by omega), List.replicate_zero, List.nil_append] at hhead
      have := length_toDigits_le_of_head? hhead
      omega

theorem isNumeral_repr (n : Nat) : IsNumeral 1 n (Nat.repr n).toList := by
  rw [Nat.toList_repr]
  exact
    { digits := fun c hc => isDigit_of_mem_toDigits hc
      value := Nat.ofDigitChars_ten_toDigits
      width_le := Nat.length_toDigits_pos
      unpadded := length_toDigits_le_of_head? }

/-- A number that fits is written in exactly as many digits. -/
theorem length_paddedDigits {width n : Nat} (hwidth : 0 < width) (hn : n < 10 ^ width) :
    (paddedDigits width n).toList.length = width := by
  have hle := (Nat.length_toDigits_le_iff (b := 10) (by decide) hwidth).mpr hn
  rw [toList_paddedDigits, List.length_append, List.length_replicate]
  omega

/-- The last digit of a numeral is the last digit of its number. -/
theorem getLast?_toDigits (n : Nat) :
    (Nat.toDigits 10 n).getLast? = some (Nat.digitChar (n % 10)) := by
  by_cases hlt : n < 10
  · rw [Nat.toDigits_of_lt_base hlt, Nat.mod_eq_of_lt hlt]
    rfl
  · rw [Nat.toDigits_of_base_le (by decide) (Nat.le_of_not_lt hlt), List.getLast?_concat]

theorem getLast?_paddedDigits (width n : Nat) :
    (paddedDigits width n).toList.getLast? = some (Nat.digitChar (n % 10)) := by
  rw [toList_paddedDigits, List.getLast?_append, getLast?_toDigits]
  rfl

/-! ### Numerals are read in one way -/

namespace IsNumeral

variable {width n m : Nat} {cs : List Char}

theorem value_unique (h : IsNumeral width n cs) (h' : IsNumeral width m cs) : n = m :=
  h.value.symm.trans h'.value

theorem notMem_of_not_isDigit (h : IsNumeral width n cs) {c : Char} (hc : c.isDigit = false) :
    c ∉ cs := by
  intro hmem
  rw [h.digits c hmem] at hc
  cases hc

end IsNumeral

end WalletDashboard
