import WalletDashboard.Pagination
import WalletDashboard.Powers

/-!
# Pages counted on machine words

The same pages as in `paginate`, with every number in a word of 64 bits. A step whose result is not
a word stops the computation (`WordFault`), and so do bounds that stand the wrong way round and a
piece that reaches outside the list. Only the requested page is a signed word.

* `Word` holds the steps, each with the condition on which it is taken.
* `pageCountWords`, `visibleWords` and `paginateWords` count out a page in these steps.
-/

namespace WalletDashboard

/-- What stops a computation on machine words. -/
inductive WordFault
  /-- The result is not a word. -/
  | overflow
  | zeroDivisor
  /-- The bounds of a range stand the wrong way round. -/
  | crossed
  /-- A piece reaches outside the list. -/
  | outside
  deriving DecidableEq, Repr

namespace Word

def add (a b : UInt64) : Except WordFault UInt64 :=
  if a.toNat + b.toNat < 2 ^ 64 then .ok (a + b) else .error .overflow

def sub (a b : UInt64) : Except WordFault UInt64 :=
  if b.toNat ≤ a.toNat then .ok (a - b) else .error .overflow

def mul (a b : UInt64) : Except WordFault UInt64 :=
  if a.toNat * b.toNat < 2 ^ 64 then .ok (a * b) else .error .overflow

/-- The quotient, or the next number if the division leaves a remainder. -/
def ceilDiv (a b : UInt64) : Except WordFault UInt64 :=
  if b = 0 then .error .zeroDivisor
  else if a % b = 0 then .ok (a / b)
  else add (a / b) 1

/-- The signed word nearest to `n` from `low` to `high`. -/
def clamp (n low high : Int64) : Except WordFault Int64 :=
  if low ≤ high then .ok (if n < low then low else if high < n then high else n)
  else .error .crossed

/-- The word nearest to `n` from `low` to `high`. -/
def clampUnsigned (n low high : UInt64) : Except WordFault UInt64 :=
  if low ≤ high then .ok (if n < low then low else if high < n then high else n)
  else .error .crossed

/-- The difference, or zero if more is taken away than there is. -/
def subFloored (a b : UInt64) : UInt64 := if b ≤ a then a - b else 0

/-- The items from number `start` to before number `stop`. -/
def slice {α : Type} (items : List α) (start stop : UInt64) : Except WordFault (List α) :=
  if start ≤ stop ∧ stop.toNat ≤ items.length then
    .ok ((items.take stop.toNat).drop start.toNat)
  else .error .outside

/-- Below `2 ^ 64` a number is the word that stands for it. -/
theorem toNat_ofNat {n : Nat} (h : n < 2 ^ 64) : (UInt64.ofNat n).toNat = n :=
  UInt64.toNat_ofNat_of_lt' h

theorem add_ofNat {a b : Nat} (h : a + b < 2 ^ 64) :
    add (.ofNat a) (.ofNat b) = .ok (.ofNat (a + b)) := by
  rw [add, toNat_ofNat (by omega), toNat_ofNat (by omega), if_pos h, UInt64.ofNat_add]

theorem sub_ofNat {a b : Nat} (ha : a < 2 ^ 64) (h : b ≤ a) :
    sub (.ofNat a) (.ofNat b) = .ok (.ofNat (a - b)) := by
  rw [sub, toNat_ofNat ha, toNat_ofNat (by omega), if_pos h, UInt64.ofNat_sub h]

theorem mul_ofNat {a b : Nat} (ha : a < 2 ^ 64) (hb : b < 2 ^ 64) (h : a * b < 2 ^ 64) :
    mul (.ofNat a) (.ofNat b) = .ok (.ofNat (a * b)) := by
  rw [mul, toNat_ofNat ha, toNat_ofNat hb, if_pos h, UInt64.ofNat_mul]

/-- A quotient is rounded up if there is a remainder. -/
theorem ceilDiv_eq_ite {a b : Nat} (h : 0 < b) :
    (a + b - 1) / b = if a % b = 0 then a / b else a / b + 1 := by
  have hdiv := Nat.div_add_mod a b
  have hlt := Nat.mod_lt a h
  split
  · next hr =>
    have hsplit : a + b - 1 = b * (a / b) + (b - 1) := by omega
    have hrest : b - 1 < b := by omega
    rw [hsplit, Nat.mul_add_div h, Nat.div_eq_of_lt hrest, Nat.add_zero]
  · next hr =>
    have hsplit : a + b - 1 = b * (a / b + 1) + (a % b - 1) := by
      rw [Nat.mul_add, Nat.mul_one]
      omega
    have hrest : a % b - 1 < b := by omega
    rw [hsplit, Nat.mul_add_div h, Nat.div_eq_of_lt hrest, Nat.add_zero]

/-- Rounding a quotient up never leaves the words. -/
theorem ceilDiv_ofNat {a b : Nat} (ha : a < 2 ^ 64) (hb : b < 2 ^ 64) (h : 0 < b) :
    ceilDiv (.ofNat a) (.ofNat b) = .ok (.ofNat ((a + b - 1) / b)) := by
  have hzero {n : Nat} (hn : n < 2 ^ 64) : UInt64.ofNat n = 0 ↔ n = 0 := by
    rw [← UInt64.toNat_inj, toNat_ofNat hn]
    rfl
  have hmod : a % b < 2 ^ 64 := Nat.lt_trans (Nat.mod_lt a h) hb
  rw [ceilDiv, if_neg (mt (hzero hb).mp (by omega)), ← UInt64.ofNat_mod ha hb,
    ← UInt64.ofNat_div ha hb, ceilDiv_eq_ite h]
  by_cases hr : a % b = 0
  · rw [if_pos ((hzero hmod).mpr hr), if_pos hr]
  · rw [if_neg (mt (hzero hmod).mp hr), if_neg hr]
    -- With a remainder the divisor is at least two.
    have hb2 : 2 ≤ b := by
      rcases Nat.lt_or_ge b 2 with hb1 | hb2
      · obtain rfl : b = 1 := by omega
        exact absurd (Nat.mod_one a) hr
      · exact hb2
    have hhalf : a / b ≤ a / 2 := Nat.div_le_div_left hb2 (by omega)
    have hnext : a / b + 1 < 2 ^ 64 := by omega
    exact add_ofNat hnext

/-- Between bounds in their order the nearest word is the nearest number. -/
theorem toInt_clamp {n low high : Int64} (h : low ≤ high) :
    ∃ c, clamp n low high = .ok c ∧ c.toInt = clampInt n.toInt low.toInt high.toInt := by
  refine ⟨_, if_pos h, ?_⟩
  rw [Int64.le_iff_toInt_le] at h
  unfold clampInt
  by_cases hlow : n < low
  · rw [if_pos hlow]
    rw [Int64.lt_iff_toInt_lt] at hlow
    omega
  · rw [if_neg hlow]
    rw [Int64.lt_iff_toInt_lt] at hlow
    by_cases hhigh : high < n
    · rw [if_pos hhigh]
      rw [Int64.lt_iff_toInt_lt] at hhigh
      omega
    · rw [if_neg hhigh]
      rw [Int64.lt_iff_toInt_lt] at hhigh
      omega

/-- A signed word that is not negative is the same number without the sign. -/
theorem toUInt64_eq_ofNat {n : Int64} (h : 0 ≤ n.toInt) : n.toUInt64 = .ofNat n.toInt.toNat := by
  have hlt := n.toInt_lt
  rw [← UInt64.toNat_inj, toNat_ofNat (by omega), Int64.toNat_toUInt64_of_le]
  · rfl
  · rw [Int64.le_iff_toInt_le]
    exact h

/-- Below `2 ^ 63` a number is the signed word that stands for it. -/
theorem toInt_toInt64_ofNat {n : Nat} (h : n < 2 ^ 63) : (UInt64.ofNat n).toInt64.toInt = n := by
  rw [UInt64.toInt64_ofNat', Int64.toInt_ofNat_of_lt h]

/-- The signed word nearest to `n` from 1 on is never negative. -/
theorem clamp_one_ofNat (n : Int64) {high : Nat} (h1 : 1 ≤ high) (h : high < 2 ^ 63) :
    ∃ c, clamp n 1 (UInt64.ofNat high).toInt64 = .ok c ∧
      c.toUInt64 = .ofNat (clampInt n.toInt 1 high).toNat := by
  have hint := toInt_toInt64_ofNat h
  have hle : (1 : Int64) ≤ (UInt64.ofNat high).toInt64 := by
    rw [Int64.le_iff_toInt_le, hint]
    show (1 : Int) ≤ _
    omega
  obtain ⟨c, hc, hto⟩ := toInt_clamp (n := n) hle
  rw [hint] at hto
  refine ⟨c, hc, ?_⟩
  rw [toUInt64_eq_ofNat, hto]
  · rfl
  · rw [hto]
    unfold clampInt
    show (0 : Int) ≤ max 1 _
    omega

theorem ofNat_le_iff {a b : Nat} (ha : a < 2 ^ 64) (hb : b < 2 ^ 64) :
    UInt64.ofNat a ≤ .ofNat b ↔ a ≤ b := by
  rw [UInt64.le_iff_toNat_le, toNat_ofNat ha, toNat_ofNat hb]

theorem min_ofNat {a b : Nat} (ha : a < 2 ^ 64) (hb : b < 2 ^ 64) :
    min (UInt64.ofNat a) (.ofNat b) = .ofNat (min a b) := by
  show (if UInt64.ofNat a ≤ UInt64.ofNat b then UInt64.ofNat a else UInt64.ofNat b) = _
  by_cases h : a ≤ b
  · rw [if_pos ((ofNat_le_iff ha hb).mpr h), Nat.min_eq_left h]
  · rw [if_neg (mt (ofNat_le_iff ha hb).mp h), Nat.min_eq_right (Nat.le_of_not_le h)]

theorem max_ofNat {a b : Nat} (ha : a < 2 ^ 64) (hb : b < 2 ^ 64) :
    max (UInt64.ofNat a) (.ofNat b) = .ofNat (max a b) := by
  show (if UInt64.ofNat a ≤ UInt64.ofNat b then UInt64.ofNat b else UInt64.ofNat a) = _
  by_cases h : a ≤ b
  · rw [if_pos ((ofNat_le_iff ha hb).mpr h), Nat.max_eq_right h]
  · rw [if_neg (mt (ofNat_le_iff ha hb).mp h), Nat.max_eq_left (Nat.le_of_not_le h)]

theorem subFloored_ofNat {a b : Nat} (ha : a < 2 ^ 64) (hb : b < 2 ^ 64) :
    subFloored (.ofNat a) (.ofNat b) = .ofNat (a - b) := by
  unfold subFloored
  by_cases h : b ≤ a
  · rw [if_pos ((ofNat_le_iff hb ha).mpr h), UInt64.ofNat_sub h]
  · rw [if_neg (mt (ofNat_le_iff hb ha).mp h), Nat.sub_eq_zero_of_le (Nat.le_of_not_le h)]
    rfl

theorem clampUnsigned_ofNat {n low high : Nat} (hn : n < 2 ^ 64) (hhigh : high < 2 ^ 64)
    (h : low ≤ high) :
    clampUnsigned (.ofNat n) (.ofNat low) (.ofNat high) = .ok (.ofNat (max low (min n high))) := by
  have hlow : low < 2 ^ 64 := by omega
  have hlt {a b : Nat} (ha : a < 2 ^ 64) (hb : b < 2 ^ 64) :
      UInt64.ofNat a < .ofNat b ↔ a < b := by
    rw [UInt64.lt_iff_toNat_lt, toNat_ofNat ha, toNat_ofNat hb]
  rw [clampUnsigned, if_pos ((ofNat_le_iff hlow hhigh).mpr h)]
  simp only [hlt hn hlow, hlt hhigh hn]
  by_cases hbelow : n < low
  · rw [if_pos hbelow, Nat.max_eq_left (by omega)]
  · rw [if_neg hbelow]
    by_cases habove : high < n
    · rw [if_pos habove, Nat.min_eq_right (by omega), Nat.max_eq_right h]
    · rw [if_neg habove, Nat.min_eq_left (by omega), Nat.max_eq_right (by omega)]

theorem slice_ofNat {α : Type} {items : List α} {start stop : Nat} (h : start ≤ stop)
    (hs : stop ≤ items.length) (hl : items.length < 2 ^ 64) :
    slice items (.ofNat start) (.ofNat stop) = .ok ((items.take stop).drop start) := by
  have hle : UInt64.ofNat start ≤ .ofNat stop := (ofNat_le_iff (by omega) (by omega)).mpr h
  have hstop : (UInt64.ofNat stop).toNat = stop := toNat_ofNat (by omega)
  rw [slice, if_pos ⟨hle, by rwa [hstop]⟩, hstop, toNat_ofNat (by omega)]

end Word

/-- The number of pages for `length` items, of `size` each. -/
def pageCountWords (length size : UInt64) : Except WordFault UInt64 := do
  let count ← Word.ceilDiv length size
  return max count 1

/-- The items on page `number`. -/
def visibleWords {α : Type} (items : List α) (size number : UInt64) :
    Except WordFault (List α) := do
  let length := UInt64.ofNat items.length
  let before ← Word.sub number 1
  let start ← Word.mul before size
  let stop ← Word.mul number size
  Word.slice items (min start length) (min stop length)

/-- The page of `items` nearest to the requested one. -/
def paginateWords {α : Type} (items : List α) (size : UInt64) (requested : Int64) :
    Except WordFault (Page α) := do
  let total ← pageCountWords (UInt64.ofNat items.length) size
  let nearest ← Word.clamp requested 1 total.toInt64
  let number := nearest.toUInt64
  let visible ← visibleWords items size number
  return { number := number.toNat, total := total.toNat, visible }

end WalletDashboard
