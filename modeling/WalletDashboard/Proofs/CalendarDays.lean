import Mathlib.Algebra.BigOperators.Intervals
import WalletDashboard.Calendar

/-!
# Counting the days of the calendar

The days of the calendar are counted by its own rules: year by year, month by month and day by day
(`Date.daysSinceEpoch`). The year that holds a day is found by quotients, out of whole spans of 400,
100, 4 and 1 years; here the two are brought together.

* `Date.daysBeforeYear_eq_sum`: the closed form counts the days of all the years before.
* `Date.yearAndDay_bounds`, `Date.monthAndDay_bounds`: the year and the month that are found for a
  day hold the day.
* `Date.exists_ofDays`, `Date.daysSinceEpoch_ofDays`: every day has a date that the calendar has,
  and from 1970 on as many days are counted to the date as there are.
-/

namespace WalletDashboard

/-- The number of days of a year. -/
def yearLength (year : Nat) : Nat := (monthLengths year).sum

theorem yearLength_eq (year : Nat) : yearLength year = if isLeapYear year then 366 else 365 := by
  unfold yearLength monthLengths
  split <;> rfl

theorem isLeapYear_iff (year : Nat) :
    isLeapYear year = true ↔ year % 4 = 0 ∧ (year % 100 ≠ 0 ∨ year % 400 = 0) := by
  simp [isLeapYear]

theorem length_monthLengths (year : Nat) : (monthLengths year).length = 12 := rfl

namespace Date

/-- The number of days from 1 January 1970 to a date that is not before it. -/
def daysSinceEpoch (d : Date) : Nat :=
  ∑ year ∈ Finset.Ico 1970 d.year, yearLength year +
    ((monthLengths d.year).take (d.month - 1)).sum + (d.day - 1)

/-! ### Years -/

/-- A year is as long as the rule about leap years says. -/
theorem daysBeforeYear_succ {year : Nat} (h : 1 ≤ year) :
    daysBeforeYear (year + 1) = daysBeforeYear year + yearLength year := by
  obtain ⟨m, rfl⟩ : ∃ m, year = m + 1 := ⟨year - 1, by omega⟩
  have hleap := isLeapYear_iff (m + 1)
  have hle : m / 100 ≤ m / 4 := by omega
  rw [yearLength_eq]
  simp only [daysBeforeYear, Nat.add_sub_cancel, Nat.succ_div, Nat.dvd_iff_mod_eq_zero]
  generalize m / 4 = quads at *
  generalize m / 100 = centuries at *
  generalize m / 400 = cycles at *
  split_ifs <;> grind

theorem daysBeforeYear_mono : Monotone daysBeforeYear := by
  refine monotone_nat_of_le_succ fun year => ?_
  by_cases h : 1 ≤ year
  · rw [daysBeforeYear_succ h]
    exact Nat.le_add_right _ _
  · obtain rfl : year = 0 := by omega
    exact le_rfl

theorem daysBeforeYear_eq_sum {year : Nat} (h : 1970 ≤ year) :
    daysBeforeYear year = Instant.epochDays + ∑ y ∈ Finset.Ico 1970 year, yearLength y := by
  induction year, h using Nat.le_induction with
  | base => rfl
  | succ year h ih =>
    rw [daysBeforeYear_succ (by omega), ih, Finset.sum_Ico_succ_top h, Nat.add_assoc]

section Spans

variable (cycles : Nat) {centuries quads years : Nat}

/-- The days before a year, out of the spans of years before it. -/
theorem daysBeforeYear_spans (hc : centuries ≤ 3) (hq : quads ≤ 24) (hy : years ≤ 3) :
    daysBeforeYear (cycles * 400 + centuries * 100 + quads * 4 + years + 1) =
      cycles * 146097 + centuries * 36524 + quads * 1461 + years * 365 := by
  rw [daysBeforeYear, Nat.add_sub_cancel]
  have h4 : (cycles * 400 + centuries * 100 + quads * 4 + years) / 4 =
      cycles * 100 + centuries * 25 + quads := by omega
  have h100 : (cycles * 400 + centuries * 100 + quads * 4 + years) / 100 =
      cycles * 4 + centuries := by omega
  have h400 : (cycles * 400 + centuries * 100 + quads * 4 + years) / 400 = cycles := by omega
  rw [h4, h100, h400]
  omega

/-- The last year of four is the leap year, but not at the end of the first three centuries. -/
theorem isLeapYear_spans (hc : centuries ≤ 3) (hq : quads ≤ 24) (hy : years ≤ 3) :
    isLeapYear (cycles * 400 + centuries * 100 + quads * 4 + years + 1) = true ↔
      years = 3 ∧ (quads ≠ 24 ∨ centuries = 3) := by
  rw [isLeapYear_iff]
  have h4 : (cycles * 400 + centuries * 100 + quads * 4 + years + 1) % 4 = (years + 1) % 4 := by
    omega
  have h100 : (cycles * 400 + centuries * 100 + quads * 4 + years + 1) % 100 =
      (quads * 4 + years + 1) % 100 := by omega
  have h400 : (cycles * 400 + centuries * 100 + quads * 4 + years + 1) % 400 =
      (centuries * 100 + quads * 4 + years + 1) % 400 := by omega
  rw [h4, h100, h400]
  omega

end Spans

/-- The spans that are found for a day. A day too many for its years is the leap day of the last of
them, and if it is the last of a century it is the last of four centuries. -/
theorem exists_spans (n : Nat) :
    ∃ cycles centuries quads years rest,
      yearAndDay n = (cycles * 400 + centuries * 100 + quads * 4 + years + 1, rest) ∧
      n = cycles * 146097 + centuries * 36524 + quads * 1461 + years * 365 + rest ∧
      centuries ≤ 3 ∧ quads ≤ 24 ∧ years ≤ 3 ∧
      (rest < 365 ∨ rest = 365 ∧ years = 3 ∧ (quads ≠ 24 ∨ centuries = 3)) := by
  obtain ⟨cycles, inCycle, hcycles, hinCycle⟩ :
    ∃ q r, n / 146097 = q ∧ n % 146097 = r := ⟨_, _, rfl, rfl⟩
  obtain ⟨centuries, hcenturies⟩ : ∃ q, min (inCycle / 36524) 3 = q := ⟨_, rfl⟩
  obtain ⟨inCentury, hinCentury⟩ : ∃ r, inCycle - centuries * 36524 = r := ⟨_, rfl⟩
  obtain ⟨quads, inQuad, hquads, hinQuad⟩ :
    ∃ q r, inCentury / 1461 = q ∧ inCentury % 1461 = r := ⟨_, _, rfl, rfl⟩
  obtain ⟨years, hyears⟩ : ∃ q, min (inQuad / 365) 3 = q := ⟨_, rfl⟩
  obtain ⟨rest, hrest⟩ : ∃ r, inQuad - years * 365 = r := ⟨_, rfl⟩
  refine ⟨cycles, centuries, quads, years, rest, ?_, ?_⟩
  · simp only [yearAndDay, hcycles, hinCycle, hcenturies, hinCentury, hquads, hinQuad, hyears,
      hrest]
  · omega

/-- The year that is found for day `n` holds this day. -/
theorem yearAndDay_bounds (n : Nat) :
    1 ≤ (yearAndDay n).1 ∧ daysBeforeYear (yearAndDay n).1 + (yearAndDay n).2 = n ∧
      (yearAndDay n).2 < yearLength (yearAndDay n).1 := by
  obtain ⟨cycles, centuries, quads, years, rest, hspans, hn, hc, hq, hy, hrest⟩ := exists_spans n
  have hdays := daysBeforeYear_spans cycles hc hq hy
  have hleap := isLeapYear_spans cycles hc hq hy
  rw [hspans]
  refine ⟨Nat.succ_pos _, by rw [hdays, ← hn], ?_⟩
  show rest < yearLength (cycles * 400 + centuries * 100 + quads * 4 + years + 1)
  rw [yearLength_eq]
  split
  · omega
  · next hnot =>
    rw [hleap] at hnot
    omega

/-! ### Months -/

theorem monthAndDay_of_lt {length n : Nat} (rest : List Nat) (h : n < length) :
    monthAndDay (length :: rest) n = (0, n) :=
  if_pos h

theorem monthAndDay_of_le {length n : Nat} (rest : List Nat) (h : length ≤ n) :
    monthAndDay (length :: rest) n =
      ((monthAndDay rest (n - length)).1 + 1, (monthAndDay rest (n - length)).2) :=
  if_neg (Nat.not_lt.mpr h)

/-- The month that is found for day `n` of a year holds this day. -/
theorem monthAndDay_bounds {lengths : List Nat} {n : Nat} (h : n < lengths.sum) :
    (lengths.take (monthAndDay lengths n).1).sum + (monthAndDay lengths n).2 = n ∧
      ∃ length, lengths[(monthAndDay lengths n).1]? = some length ∧
        (monthAndDay lengths n).2 < length := by
  induction lengths generalizing n with
  | nil => exact absurd h (Nat.not_lt_zero n)
  | cons length rest ih =>
    rw [List.sum_cons] at h
    rcases Nat.lt_or_ge n length with hlt | hge
    · rw [monthAndDay_of_lt rest hlt]
      exact ⟨Nat.zero_add n, length, rfl, hlt⟩
    · rw [monthAndDay_of_le rest hge]
      obtain ⟨hsum, l, hl, hlt⟩ := ih (n := n - length) (by omega)
      refine ⟨?_, l, hl, hlt⟩
      rw [List.take_succ_cons, List.sum_cons]
      omega

/-! ### Dates -/

/-- The date of day `n` out of the year that holds it and the month that does. -/
theorem ofDays_eq (n : Nat) :
    ofDays n =
      ⟨(yearAndDay n).1, (monthAndDay (monthLengths (yearAndDay n).1) (yearAndDay n).2).1 + 1,
        (monthAndDay (monthLengths (yearAndDay n).1) (yearAndDay n).2).2 + 1⟩ := by
  rcases hyear : yearAndDay n with ⟨year, dayOfYear⟩
  rcases hmonth : monthAndDay (monthLengths year) dayOfYear with ⟨month, day⟩
  simp only [ofDays, hyear, hmonth]

theorem exists_of_bounds {year month day length : Nat} (hyear : 1 ≤ year)
    (hlength : (monthLengths year)[month]? = some length) (hday : day < length) :
    Date.Exists ⟨year, month + 1, day + 1⟩ :=
  ⟨hyear, Nat.succ_pos month, Nat.succ_pos day, length, hlength, hday⟩

theorem exists_ofDays (n : Nat) : (ofDays n).Exists := by
  obtain ⟨hyear, -, hday⟩ := yearAndDay_bounds n
  obtain ⟨-, length, hlength, hlt⟩ := monthAndDay_bounds hday
  rw [ofDays_eq]
  exact exists_of_bounds hyear hlength hlt

/-- The year of a day lies before all the years that begin after the day. -/
theorem lt_iff_of_bounds {n y : Nat} (hle : daysBeforeYear y ≤ n) (hlt : n < daysBeforeYear (y + 1))
    (year : Nat) : y < year ↔ n < daysBeforeYear year := by
  constructor
  · intro h
    exact hlt.trans_le (daysBeforeYear_mono h)
  · intro h
    by_contra hge
    exact absurd (hle.trans_lt h) (Nat.not_lt.mpr (daysBeforeYear_mono (Nat.le_of_not_lt hge)))

theorem year_ofDays_lt_iff (n year : Nat) :
    (ofDays n).year < year ↔ n < daysBeforeYear year := by
  obtain ⟨hyear, hsum, hday⟩ := yearAndDay_bounds n
  have hlt : n < daysBeforeYear ((yearAndDay n).1 + 1) := by
    rw [daysBeforeYear_succ hyear]
    omega
  rw [ofDays_eq]
  exact lt_iff_of_bounds (by omega) hlt year

/-- The date of day `n` counts `n` days. -/
theorem daysSinceEpoch_ofDays {n : Nat} (h : Instant.epochDays ≤ n) :
    1970 ≤ (ofDays n).year ∧ (ofDays n).daysSinceEpoch = n - Instant.epochDays := by
  have hyear : 1970 ≤ (ofDays n).year := by
    refine Nat.le_of_not_lt fun hlt => ?_
    rw [year_ofDays_lt_iff] at hlt
    exact absurd hlt (Nat.not_lt.mpr h)
  refine ⟨hyear, ?_⟩
  obtain ⟨-, hsum, hday⟩ := yearAndDay_bounds n
  obtain ⟨hmonth, -⟩ := monthAndDay_bounds hday
  have hyears := daysBeforeYear_eq_sum hyear
  rw [ofDays_eq] at hyears ⊢
  simp only [daysSinceEpoch, Nat.add_sub_cancel] at hyears ⊢
  omega

end Date

end WalletDashboard
