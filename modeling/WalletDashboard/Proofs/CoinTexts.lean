import Mathlib.Algebra.Order.Field.Rat
import Mathlib.Tactic.Positivity
import WalletDashboard.Amount
import WalletDashboard.Proofs.Numerals

/-!
# Amounts as they are shown

An amount is shown as a decimal number of coins.

* `Decimal.value` is the rational number that a decimal number denotes. Dropping zeros and
  normalizing keep it (`Decimal.value_dropZeros`, `Decimal.value_normalize`), so it is the exact
  quotient (`Amount.value_inCoins`).
* `DecimalText` is the text of a decimal number without a zero too many at either end, and
  `readDecimal` reads the rational number back. A decimal number that is reduced is written as such
  a text (`Decimal.written`), and the text denotes the same (`Decimal.readDecimal_written`).

`Amount.coinText_canonical` says what an amount is shown as, and that no two are shown alike.
-/

namespace WalletDashboard

/-- The text of a decimal number without a zero too many. -/
structure DecimalText where
  whole : List Char
  places : List Char
  /-- No zero stands in front of the whole part, unless it is zero. -/
  isNumeral_whole : IsNumeral 1 (Nat.ofDigitChars 10 whole 0) whole
  isDigit_places : ∀ c ∈ places, c.isDigit = true
  /-- No zero stands behind the places. -/
  getLast?_places : places.getLast? ≠ some '0'

namespace DecimalText

/-- The text itself. There is a point only if there are places behind it. -/
def toList (t : DecimalText) : List Char :=
  t.whole ++ if t.places = [] then [] else '.' :: t.places

end DecimalText

/-- The number that is read off digits with at most one point among them. -/
def readDecimal (cs : List Char) : ℚ :=
  let whole := cs.takeWhile (· != '.')
  let places := cs.drop (whole.length + 1)
  Nat.ofDigitChars 10 (whole ++ places) 0 / 10 ^ places.length

theorem DecimalText.readDecimal_toList (t : DecimalText) :
    readDecimal t.toList = Nat.ofDigitChars 10 (t.whole ++ t.places) 0 / 10 ^ t.places.length := by
  have hwhole : ∀ c ∈ t.whole, (c != '.') = true := by
    intro c hc
    have hpoint : '.' ∉ t.whole := t.isNumeral_whole.notMem_of_not_isDigit (by decide)
    exact bne_iff_ne.mpr fun h => hpoint (h ▸ hc)
  have htake : t.toList.takeWhile (· != '.') = t.whole := by
    unfold toList
    rw [List.takeWhile_append_of_pos hwhole]
    split <;> simp
  have hdrop : t.toList.drop (t.whole.length + 1) = t.places := by
    unfold toList
    rw [List.drop_append]
    split <;> simp_all
  simp only [readDecimal, htake, hdrop]

namespace Decimal

/-! ### The number that is denoted -/

/-- The number that is denoted. -/
def value (d : Decimal) : ℚ := d.units / 10 ^ d.places

theorem value_eq_of_mul_eq {d e : Decimal} (h : d.units * 10 ^ e.places = e.units * 10 ^ d.places) :
    d.value = e.value := by
  rw [value, value, div_eq_div_iff (by positivity) (by positivity)]
  exact_mod_cast h

theorem value_dropZeros (count : Nat) (d : Decimal) : (d.dropZeros count).value = d.value :=
  value_eq_of_mul_eq (dropZeros_value count d)

theorem value_normalize (d : Decimal) : d.normalize.value = d.value :=
  value_eq_of_mul_eq (trimmed_value d.units d.places)

/-- The last place, if there is one, holds no zero. -/
def IsReduced (d : Decimal) : Prop := d.places = 0 ∨ d.units % 10 ≠ 0

theorem isReduced_trimmed (units places : Nat) : (trimmed units places).IsReduced := by
  induction places generalizing units with
  | zero => exact .inl rfl
  | succ p ih =>
    unfold trimmed
    split
    · exact ih (units / 10)
    · next h => exact .inr h

theorem isReduced_normalize (d : Decimal) : d.normalize.IsReduced :=
  isReduced_trimmed d.units d.places

/-! ### Reduced numbers as texts -/

section Written

variable {d : Decimal} (h : d.IsReduced)

/-- The text of a reduced number. -/
def written : DecimalText where
  whole := (Nat.repr (d.units / 10 ^ d.places)).toList
  places := if d.places = 0 then [] else (paddedDigits d.places (d.units % 10 ^ d.places)).toList
  isNumeral_whole := by
    have hrepr := isNumeral_repr (d.units / 10 ^ d.places)
    rwa [hrepr.value]
  isDigit_places := by
    intro c hc
    split at hc
    · cases hc
    · next hp => exact (isNumeral_paddedDigits (Nat.pos_of_ne_zero hp) _).digits c hc
  getLast?_places := by
    split
    · rintro ⟨⟩
    · next hp =>
      have hlast := h.resolve_left hp
      have hdvd : 10 ∣ 10 ^ d.places := dvd_pow_self 10 hp
      rw [getLast?_paddedDigits, Nat.mod_mod_of_dvd _ hdvd, ne_eq, Option.some.injEq,
        Nat.digitChar_eq_zero]
      exact hlast

theorem length_places_written : (written h).places.length = d.places := by
  show (if d.places = 0 then [] else (paddedDigits d.places _).toList).length = d.places
  split
  · next hp => exact hp.symm
  · next hp =>
    exact length_paddedDigits (Nat.pos_of_ne_zero hp) (Nat.mod_lt _ (by positivity))

theorem places_written_eq_nil_iff : (written h).places = [] ↔ d.places = 0 := by
  rw [← List.length_eq_zero_iff, length_places_written]

theorem toList_written : (written h).toList = d.text.toList := by
  simp only [DecimalText.toList, places_written_eq_nil_iff, text]
  by_cases hp : d.places = 0
  · rw [if_pos hp, if_pos hp, List.append_nil]
    rfl
  · rw [if_neg hp, if_neg hp, String.toList_append, String.toList_append, List.append_assoc]
    simp only [written, if_neg hp]
    rfl

/-- The text denotes the number. -/
theorem readDecimal_written : readDecimal (written h).toList = d.value := by
  have hwhole : Nat.ofDigitChars 10 (written h).whole 0 = d.units / 10 ^ d.places :=
    (isNumeral_repr _).value
  have hplaces : Nat.ofDigitChars 10 (written h).places 0 = d.units % 10 ^ d.places := by
    show Nat.ofDigitChars 10 (if d.places = 0 then [] else (paddedDigits d.places _).toList) 0 = _
    split
    · next hp =>
      rw [hp, pow_zero, Nat.mod_one]
      rfl
    · next hp => exact (isNumeral_paddedDigits (Nat.pos_of_ne_zero hp) _).value
  have hunits : Nat.ofDigitChars 10 ((written h).whole ++ (written h).places) 0 = d.units := by
    rw [Nat.ofDigitChars_append, Nat.ofDigitChars_eq_ofDigitChars_zero, hwhole, hplaces,
      length_places_written, Nat.div_add_mod]
  rw [DecimalText.readDecimal_toList, hunits, length_places_written, value]

theorem whole_written_eq_zero_iff : (written h).whole = ['0'] ↔ d.units < 10 ^ d.places := by
  constructor
  · intro hzero
    have hvalue := (isNumeral_repr (d.units / 10 ^ d.places)).value
    rw [show (Nat.repr (d.units / 10 ^ d.places)).toList = ['0'] from hzero] at hvalue
    exact Nat.lt_of_div_eq_zero (by positivity) hvalue.symm
  · intro hlt
    show (Nat.repr (d.units / 10 ^ d.places)).toList = ['0']
    rw [Nat.div_eq_of_lt hlt]
    rfl

end Written

end Decimal

namespace Amount

/-! ### Amounts in coins -/

theorem toNat_mod_unitsPerCoin (a : Amount) :
    a % unitsPerCoin = 0 ↔ 10 ^ 8 ∣ a.toNat := by
  rw [← UInt64.toNat_inj, UInt64.toNat_mod]
  exact (Nat.dvd_iff_mod_eq_zero ..).symm

/-- The amount in coins is the exact quotient. -/
theorem value_inCoins (a : Amount) : a.inCoins.value = a.toNat / 10 ^ 8 := by
  have hexact {d : Decimal} (h : d.units * 10 ^ 8 = a.toNat * 10 ^ d.places) :
      d.value = a.toNat / 10 ^ 8 :=
    Decimal.value_eq_of_mul_eq (e := ⟨a.toNat, 8⟩) h
  unfold inCoins
  split
  · next hmod =>
    apply hexact
    show a.toNat / 10 ^ 8 * 10 ^ 8 = a.toNat * 10 ^ 0
    rw [Nat.div_mul_cancel ((toNat_mod_unitsPerCoin a).mp hmod), Nat.pow_zero, Nat.mul_one]
  · have hnine : Decimal.value ⟨a.toNat * 10, 9⟩ = a.toNat / 10 ^ 8 := by
      apply hexact
      rw [Nat.mul_assoc, ← Nat.pow_succ']
    rw [Decimal.value_dropZeros, Decimal.value_dropZeros, Decimal.value_dropZeros]
    split
    · rw [Decimal.value_dropZeros, hnine]
    · exact hnine

/-- A reduced number of coins has at most eight places, and none if the amount is a whole number of
coins. -/
theorem places_of_value_eq {a : Amount} {d : Decimal} (h : d.IsReduced)
    (hvalue : d.value = a.toNat / 10 ^ 8) :
    d.units * 10 ^ 8 = a.toNat * 10 ^ d.places ∧ d.places ≤ 8 ∧
      (d.places = 0 ↔ 10 ^ 8 ∣ a.toNat) := by
  have hmul : d.units * 10 ^ 8 = a.toNat * 10 ^ d.places := by
    rw [Decimal.value, div_eq_div_iff (by positivity) (by positivity)] at hvalue
    exact_mod_cast hvalue
  -- A factor of ten too many would show in the last place.
  have hlast : ∀ k, d.units = k * 10 → d.places = 0 := by
    intro k hk
    refine h.resolve_right fun hne => hne ?_
    rw [hk, Nat.mul_mod_left]
  refine ⟨hmul, ?_, fun hzero => ?_, fun hdvd => ?_⟩
  · by_contra hmany
    obtain ⟨p, hp⟩ : ∃ p, d.places = p + 1 + 8 := ⟨d.places - 9, by omega⟩
    rw [hp, Nat.pow_add, ← Nat.mul_assoc] at hmul
    have hunits := Nat.eq_of_mul_eq_mul_right (by positivity) hmul
    have := hlast (a.toNat * 10 ^ p) (by rw [hunits, Nat.pow_succ, Nat.mul_assoc])
    omega
  · rw [hzero, Nat.pow_zero, Nat.mul_one] at hmul
    exact ⟨d.units, by rw [← hmul, Nat.mul_comm]⟩
  · obtain ⟨k, hk⟩ := hdvd
    by_contra hp
    obtain ⟨p, hp'⟩ := Nat.exists_eq_succ_of_ne_zero hp
    rw [hk, Nat.mul_assoc, Nat.mul_comm] at hmul
    have hunits := Nat.eq_of_mul_eq_mul_left (by positivity) hmul
    exact hp (hlast (k * 10 ^ p) (by rw [hunits, hp', Nat.pow_succ, Nat.mul_assoc]))

/-- The amount is shown as the text `t` and the name of the coin. -/
structure ShownAs (a : Amount) (t : DecimalText) : Prop where
  text : (coinText a).toList = t.toList ++ " AGT".toList
  length_places : t.places.length ≤ 8
  /-- There is a point only if the amount is not a whole number of coins. -/
  places_iff : t.places = [] ↔ 10 ^ 8 ∣ a.toNat
  /-- What is less than a coin has a single zero in front of the point. -/
  whole_iff : t.whole = ['0'] ↔ a.toNat < 10 ^ 8
  /-- The amount can be read back. -/
  reads : readDecimal t.toList * 10 ^ 8 = a.toNat
  value : a.inCoins.value = readDecimal t.toList

theorem exists_shownAs (a : Amount) : ∃ t, a.ShownAs t := by
  let d := a.inCoins.normalize
  have hreduced : d.IsReduced := a.inCoins.isReduced_normalize
  have hvalue : d.value = a.toNat / 10 ^ 8 :=
    a.inCoins.value_normalize.trans (value_inCoins a)
  obtain ⟨hmul, hle, hwhole⟩ := places_of_value_eq hreduced hvalue
  have hlt : d.units < 10 ^ d.places ↔ a.toNat < 10 ^ 8 := by
    rw [← Nat.mul_lt_mul_right (a := 10 ^ 8) (by positivity), hmul,
      Nat.mul_comm (10 ^ d.places), Nat.mul_lt_mul_right (by positivity)]
  have hread := Decimal.readDecimal_written hreduced
  exact ⟨Decimal.written hreduced,
    { text := by rw [Decimal.toList_written, coinText, String.toList_append]
      length_places := by rwa [Decimal.length_places_written]
      places_iff := by rw [Decimal.places_written_eq_nil_iff, hwhole]
      whole_iff := by rw [Decimal.whole_written_eq_zero_iff, hlt]
      reads := by rw [hread, hvalue, div_mul_cancel₀ _ (by positivity)]
      value := by rw [hread, hvalue, value_inCoins] }⟩

/-- **An amount is shown exactly, as a decimal number of coins without a zero too many,** and no two
amounts are shown alike. -/
theorem coinText_canonical : (∀ a : Amount, ∃ t, a.ShownAs t) ∧ Function.Injective coinText := by
  refine ⟨exists_shownAs, fun a b hab => ?_⟩
  obtain ⟨t, ht⟩ := exists_shownAs a
  obtain ⟨u, hu⟩ := exists_shownAs b
  have htext : t.toList = u.toList := by
    have happend := ht.text
    rw [hab, hu.text] at happend
    exact (List.append_cancel_right happend).symm
  have hunits : (a.toNat : ℚ) = b.toNat := by rw [← ht.reads, htext, hu.reads]
  exact UInt64.toNat_inj.mp (by exact_mod_cast hunits)

example : coinText 18446744073709551615 = "184467440737.09551615 AGT" := by decide

end Amount

end WalletDashboard
