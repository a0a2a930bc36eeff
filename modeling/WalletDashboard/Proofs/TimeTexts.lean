import WalletDashboard.Proofs.CalendarDays
import WalletDashboard.Proofs.Numerals

/-!
# Times as they are shown

A time is a number of seconds since the start of 1970, and is shown as an instant of the calendar in
UTC, as far as the years go.

* `Instant.secondsSinceEpoch` counts the seconds by the rules of the calendar, and
  `Instant.ofSeconds_counts` says that an instant which the calendar has is found for every number
  of seconds, and that it counts as many.
* `Instant.WrittenAs` says how an instant is written: year, month, day and time of day as numerals,
  and the marks between them. The parts can be read back (`Instant.WrittenAs.unique`).
* `Instant.lastSecond` is the last time that is shown so; a later one is shown in seconds.

`timeText_calendar` says what every time is shown as, and that no two are shown alike.
-/

namespace WalletDashboard

namespace Date

variable {d : Date}

theorem Exists.month_le (h : d.Exists) : d.month ≤ 12 := by
  obtain ⟨-, -, -, length, hlength, -⟩ := h
  have hlt := (List.getElem?_eq_some_iff.mp hlength).1
  rw [length_monthLengths] at hlt
  omega

theorem le_of_mem_monthLengths {year length : Nat} (h : length ∈ monthLengths year) :
    length ≤ 31 := by
  simp only [monthLengths, List.mem_cons, List.not_mem_nil, or_false] at h
  split at h <;> omega

theorem Exists.day_le (h : d.Exists) : d.day ≤ 31 := by
  obtain ⟨-, -, -, length, hlength, hday⟩ := h
  exact hday.trans (le_of_mem_monthLengths (List.mem_of_getElem? hlength))

end Date

namespace Instant

/-! ### Seconds -/

/-- A second that the calendar has. -/
structure Exists (i : Instant) : Prop where
  date : i.date.Exists
  hour : i.hour < 24
  minute : i.minute < 60
  second : i.second < 60

/-- The number of seconds from the start of 1970 to an instant that is not before it. -/
def secondsSinceEpoch (i : Instant) : Nat :=
  i.date.daysSinceEpoch * 86400 + i.hour * 3600 + i.minute * 60 + i.second

/-- The instant that is found for `t` counts `t` seconds. -/
theorem ofSeconds_counts (t : Nat) :
    (ofSeconds t).Exists ∧ 1970 ≤ (ofSeconds t).date.year ∧ (ofSeconds t).secondsSinceEpoch = t := by
  obtain ⟨hyear, hdays⟩ := Date.daysSinceEpoch_ofDays (Nat.le_add_right epochDays (t / 86400))
  refine ⟨⟨Date.exists_ofDays _, ?_, ?_, ?_⟩, hyear, ?_⟩
  · show t % 86400 / 3600 < 24
    omega
  · show t % 86400 % 3600 / 60 < 60
    omega
  · show t % 86400 % 60 < 60
    omega
  · show (Date.ofDays (epochDays + t / 86400)).daysSinceEpoch * 86400 + t % 86400 / 3600 * 3600 +
      t % 86400 % 3600 / 60 * 60 + t % 86400 % 60 = t
    rw [hdays, Nat.add_sub_cancel_left]
    omega

/-- The last second of the last year that is written as a date. -/
def lastSecond : Nat := 8210266876799

theorem year_ofSeconds_le_iff (t : Nat) :
    (ofSeconds t).date.year ≤ lastYear ↔ t ≤ lastSecond := by
  have hdays : Date.daysBeforeYear (lastYear + 1) = 95745399 := by decide
  have hyear := Date.year_ofDays_lt_iff (epochDays + t / 86400) (lastYear + 1)
  rw [hdays, epochDays, Nat.lt_succ_iff] at hyear
  show (Date.ofDays (719162 + t / 86400)).year ≤ lastYear ↔ t ≤ 8210266876799
  rw [hyear]
  omega

/-! ### Instants as texts -/

/-- The digits of an instant, part by part. -/
structure Digits where
  year : List Char
  month : List Char
  day : List Char
  hour : List Char
  minute : List Char
  second : List Char

/-- All that stands behind the year. -/
def Digits.afterYear (x : Digits) : List Char :=
  '-' :: (x.month ++ '-' :: (x.day ++ ' ' :: (x.hour ++ ':' :: (x.minute ++ ':' :: (x.second ++
    " UTC".toList)))))

/-- The two digits of a number. -/
structure IsPair (n : Nat) (cs : List Char) : Prop where
  numeral : IsNumeral 2 n cs
  length_eq : cs.length = 2

/-- The text `cs` is made of the digits `x`, and these are the digits of the instant. -/
structure WrittenAs (i : Instant) (x : Digits) (cs : List Char) : Prop where
  /-- A year of more than four digits has a sign in front. -/
  text : cs = (if 9999 < i.date.year then ['+'] else []) ++ x.year ++ x.afterYear
  year : IsNumeral 4 i.date.year x.year
  month : IsPair i.date.month x.month
  day : IsPair i.date.day x.day
  hour : IsPair i.hour x.hour
  minute : IsPair i.minute x.minute
  second : IsPair i.second x.second

theorem isPair_paddedDigits {n : Nat} (h : n < 100) : IsPair n (paddedDigits 2 n).toList :=
  ⟨isNumeral_paddedDigits (by decide) n, length_paddedDigits (by decide) h⟩

/-- The digits of which the text of an instant is made. -/
def digits (i : Instant) : Digits where
  year := (paddedDigits 4 i.date.year).toList
  month := (paddedDigits 2 i.date.month).toList
  day := (paddedDigits 2 i.date.day).toList
  hour := (paddedDigits 2 i.hour).toList
  minute := (paddedDigits 2 i.minute).toList
  second := (paddedDigits 2 i.second).toList

theorem toList_text (i : Instant) :
    i.text.toList =
      (if 9999 < i.date.year then ['+'] else []) ++ i.digits.year ++ i.digits.afterYear := by
  have hdash : "-".toList = ['-'] := rfl
  have hblank : " ".toList = [' '] := rfl
  have hcolon : ":".toList = [':'] := rfl
  have hsign : (if 9999 < i.date.year then "+" else "").toList =
      if 9999 < i.date.year then ['+'] else [] := by split <;> rfl
  simp only [Instant.text, Date.text, Date.yearText, digits, Digits.afterYear,
    String.toList_append, hdash, hblank, hcolon, hsign, List.append_assoc, List.cons_append,
    List.nil_append]

theorem writtenAs_digits {i : Instant} (h : i.Exists) : i.WrittenAs i.digits i.text.toList := by
  have hmonth := h.date.month_le
  have hday := h.date.day_le
  have hhour := h.hour
  have hminute := h.minute
  have hsecond := h.second
  refine ⟨toList_text i, ?_, ?_, ?_, ?_, ?_, ?_⟩ <;> simp only [digits]
  case refine_1 => exact isNumeral_paddedDigits (by decide) i.date.year
  all_goals exact isPair_paddedDigits (by omega)

/-- Digits of one length in front of the same mark are the same, and so is what follows. -/
theorem eq_of_append_cons_eq {c : Char} {a b s t : List Char} (hlength : a.length = b.length)
    (h : a ++ c :: s = b ++ c :: t) : a = b ∧ s = t := by
  obtain ⟨hab, hst⟩ := List.append_inj h hlength
  exact ⟨hab, (List.cons.inj hst).2⟩

namespace IsPair

variable {n m : Nat} {a b : List Char}

theorem length_eq_length (h : IsPair n a) (h' : IsPair m b) : a.length = b.length :=
  h.length_eq.trans h'.length_eq.symm

theorem value_unique (h : IsPair n a) (h' : IsPair m b) (hab : a = b) : n = m :=
  h.numeral.value_unique (hab ▸ h'.numeral)

end IsPair

namespace WrittenAs

variable {i j : Instant} {x y : Digits} {cs : List Char}

theorem length_afterYear (h : i.WrittenAs x cs) : x.afterYear.length = 19 := by
  simp [Digits.afterYear, h.month.length_eq, h.day.length_eq, h.hour.length_eq,
    h.minute.length_eq, h.second.length_eq]

theorem filter_isDigit (h : i.WrittenAs x cs) :
    ((if 9999 < i.date.year then ['+'] else []) ++ x.year).filter Char.isDigit = x.year := by
  rw [List.filter_append, List.filter_eq_self.mpr h.year.digits]
  split <;> rfl

/-- The instant can be read back from its text. -/
theorem unique (h : i.WrittenAs x cs) (h' : j.WrittenAs y cs) : i = j := by
  obtain ⟨hfront, hrest⟩ := List.append_inj' (h.text.symm.trans h'.text)
    (h.length_afterYear.trans h'.length_afterYear.symm)
  have hyear : x.year = y.year := by rw [← h.filter_isDigit, hfront, h'.filter_isDigit]
  obtain ⟨hmonth, hrest⟩ :=
    eq_of_append_cons_eq (h.month.length_eq_length h'.month) (List.cons.inj hrest).2
  obtain ⟨hday, hrest⟩ := eq_of_append_cons_eq (h.day.length_eq_length h'.day) hrest
  obtain ⟨hhour, hrest⟩ := eq_of_append_cons_eq (h.hour.length_eq_length h'.hour) hrest
  obtain ⟨hminute, hrest⟩ := eq_of_append_cons_eq (h.minute.length_eq_length h'.minute) hrest
  obtain ⟨hsecond, -⟩ := List.append_inj hrest (h.second.length_eq_length h'.second)
  obtain ⟨⟨iyear, imonth, iday⟩, ihour, iminute, isecond⟩ := i
  obtain ⟨⟨jyear, jmonth, jday⟩, jhour, jminute, jsecond⟩ := j
  obtain rfl : iyear = jyear := h.year.value_unique (hyear ▸ h'.year)
  obtain rfl : imonth = jmonth := h.month.value_unique h'.month hmonth
  obtain rfl : iday = jday := h.day.value_unique h'.day hday
  obtain rfl : ihour = jhour := h.hour.value_unique h'.hour hhour
  obtain rfl : iminute = jminute := h.minute.value_unique h'.minute hminute
  obtain rfl : isecond = jsecond := h.second.value_unique h'.second hsecond
  rfl

/-- A text with a date has a mark that no number has. -/
theorem mark_mem (h : i.WrittenAs x cs) : '-' ∈ cs := by
  rw [h.text]
  exact List.mem_append_right _ List.mem_cons_self

end WrittenAs

end Instant

/-! ### Times as texts -/

/-- What the time `t` is shown as: an instant which the calendar has and which counts as many
seconds, or else the number of seconds. -/
def ShownTime (t : UInt64) : Prop :=
  if t.toNat ≤ Instant.lastSecond then
    ∃ (i : Instant) (x : Instant.Digits),
      i.Exists ∧ 1970 ≤ i.date.year ∧ i.secondsSinceEpoch = t.toNat ∧
        i.WrittenAs x (timeText t).toList
  else timeText t = Nat.repr t.toNat

theorem timeText_of_le {t : UInt64} (h : t.toNat ≤ Instant.lastSecond) :
    timeText t = (Instant.ofSeconds t.toNat).text :=
  if_pos ((Instant.year_ofSeconds_le_iff t.toNat).mpr h)

theorem timeText_of_gt {t : UInt64} (h : ¬t.toNat ≤ Instant.lastSecond) :
    timeText t = Nat.repr t.toNat :=
  if_neg fun hyear => h ((Instant.year_ofSeconds_le_iff t.toNat).mp hyear)

theorem shownTime (t : UInt64) : ShownTime t := by
  unfold ShownTime
  split
  · next h =>
    obtain ⟨hexists, hyear, hseconds⟩ := Instant.ofSeconds_counts t.toNat
    rw [timeText_of_le h]
    exact ⟨_, _, hexists, hyear, hseconds, Instant.writtenAs_digits hexists⟩
  · next h => exact timeText_of_gt h

/-- **Every time is shown as the instant of the calendar that it is,** as far as the years go, and
beyond them in seconds; no two times are shown alike. -/
theorem timeText_calendar : (∀ t, ShownTime t) ∧ Function.Injective timeText := by
  refine ⟨shownTime, fun t u htu => UInt64.toNat_inj.mp ?_⟩
  have hnumber (v : UInt64) : '-' ∉ (Nat.repr v.toNat).toList :=
    (isNumeral_repr v.toNat).notMem_of_not_isDigit (by decide)
  have ht := shownTime t
  have hu := shownTime u
  unfold ShownTime at ht hu
  rw [htu] at ht
  split at ht <;> split at hu
  case isTrue.isTrue =>
    obtain ⟨i, x, -, -, hi, hx⟩ := ht
    obtain ⟨j, y, -, -, hj, hy⟩ := hu
    rw [← hi, ← hj, hx.unique hy]
  case isTrue.isFalse =>
    obtain ⟨i, x, -, -, -, hx⟩ := ht
    rw [hu] at hx
    exact absurd hx.mark_mem (hnumber u)
  case isFalse.isTrue =>
    obtain ⟨j, y, -, -, -, hy⟩ := hu
    rw [ht] at hy
    exact absurd hy.mark_mem (hnumber t)
  case isFalse.isFalse =>
    exact (isNumeral_repr t.toNat).value_unique (ht.symm.trans hu ▸ isNumeral_repr u.toNat)

example : timeText 8210266876799 = "+262142-12-31 23:59:59 UTC" ∧
    timeText 8210266876800 = "8210266876800" := by decide

end WalletDashboard
