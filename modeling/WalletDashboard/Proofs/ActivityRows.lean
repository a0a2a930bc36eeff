import WalletDashboard.Dashboard.View
import WalletDashboard.Proofs.CoinTexts
import WalletDashboard.Proofs.TimeTexts

/-!
# Rows of the activity feed

The row of a reward is laid out in columns, and a reader takes it apart at the spaces. The columns
of the amount and of the block number are only as wide as they need to be for usual numbers. Two
spaces stand behind the amount, however long it is, but behind a block number there are only the
spaces that fill its column. A number of eight digits leaves none, and runs into the time.

* `Text.parts`: the parts of a text between its runs of spaces.
* `RewardEvent.HasReadableRow`: the parts of the row are the amount, the block number and the time,
  each on its own. This is so exactly if the block number has at most seven digits
  (`hasReadableRow_iff`).
* `RewardEvent.Entangled`: two block numbers run into times that are mere numbers, so that it cannot
  be told where the one ends and the other begins. Only then do different rewards share a row
  (`activityRow_eq_iff`).
-/

namespace WalletDashboard

/-! ### Runs of spaces -/

namespace Text

/-- The parts of a text between its runs of spaces. -/
def parts (cs : List Char) : List (List Char) := (cs.splitOn ' ').filter (· ≠ [])

theorem parts_append_space (a b : List Char) : parts (a ++ ' ' :: b) = parts a ++ parts b := by
  unfold parts List.splitOn
  rw [List.splitOnP_append_cons a b (by rfl), List.filter_append]

@[simp] theorem parts_nil : parts [] = [] := by simp [parts]

@[simp] theorem parts_cons_space (b : List Char) : parts (' ' :: b) = parts b := by
  simpa using parts_append_space [] b

theorem parts_of_notMem {w : List Char} (hne : w ≠ []) (hw : ' ' ∉ w) : parts w = [w] := by
  simp [parts, List.splitOn_eq_singleton hw, hne]

/-- A run of spaces counts as much as one. -/
theorem parts_replicate_append (n : Nat) (b : List Char) :
    parts (List.replicate n ' ' ++ b) = parts b := by
  induction n with
  | zero => simp
  | succ n ih => simp [List.replicate_succ, ih]

theorem parts_append_run {n : Nat} (hn : n ≠ 0) (a b : List Char) :
    parts (a ++ (List.replicate n ' ' ++ b)) = parts a ++ parts b := by
  obtain ⟨k, rfl⟩ := Nat.exists_eq_succ_of_ne_zero hn
  rw [List.replicate_succ, List.cons_append, parts_append_space, parts_replicate_append]

/-- Characters right in front of a text belong to its first part. -/
theorem length_parts_append {w t : List Char} {c : Char} (hw : ' ' ∉ w) (hc : c ≠ ' ')
    (ht : t.head? = some c) : (parts (w ++ t)).length = (parts t).length := by
  obtain ⟨s, rfl⟩ := List.head?_eq_some_iff.mp ht
  -- The first part goes to the next space, if there is one.
  obtain ⟨p, q, hp, hq⟩ : ∃ p q, ' ' ∉ p ∧ (s = p ∨ s = p ++ ' ' :: q) := by
    by_cases hspace : ' ' ∈ s
    · obtain ⟨p, q, rfl, hp⟩ := List.eq_append_cons_of_mem hspace
      exact ⟨p, q, hp, .inr rfl⟩
    · exact ⟨s, [], hspace, .inl rfl⟩
  have hfirst : ∀ v : List Char, ' ' ∉ v → parts (v ++ c :: p) = [v ++ c :: p] := by
    intro v hv
    refine parts_of_notMem (by simp) ?_
    simp [hv, hp, hc.symm]
  rcases hq with rfl | rfl
  · rw [hfirst w hw, ← List.nil_append (c :: s), hfirst [] List.not_mem_nil]
    rfl
  · rw [← List.cons_append, ← List.append_assoc, parts_append_space, parts_append_space,
      hfirst w hw, ← List.nil_append (c :: p), hfirst [] List.not_mem_nil]
    simp

end Text

/-! ### The text of a time behind a number -/

/-- Where digits in front of the text of an instant end, the text begins. -/
theorem Instant.text_unique_behind {i j : Instant} (hi : i.Exists) (hj : j.Exists)
    {a b : List Char} (ha : '+' ∉ a) (hb : '+' ∉ b)
    (hab : a ++ i.text.toList = b ++ j.text.toList) : a = b ∧ i = j := by
  suffices hfront : a = b by
    subst hfront
    have htext : i.text.toList = j.text.toList := List.append_cancel_left hab
    have hi' := writtenAs_digits hi
    rw [htext] at hi'
    exact ⟨rfl, hi'.unique (writtenAs_digits hj)⟩
  have hi' := writtenAs_digits hi
  have hj' := writtenAs_digits hj
  rw [hi'.text, hj'.text, ← List.append_assoc a, ← List.append_assoc b] at hab
  obtain ⟨hfront, -⟩ :=
    List.append_inj' hab (hi'.length_afterYear.trans hj'.length_afterYear.symm)
  have hyear : ∀ {k : Instant} {x : Digits} {cs : List Char}, k.WrittenAs x cs → '+' ∉ x.year :=
    fun hk => hk.year.notMem_of_not_isDigit (by decide)
  have hfour : ∀ k : Instant, ¬9999 < k.date.year → k.digits.year.length = 4 := by
    intro k hk
    simp only [digits]
    exact length_paddedDigits (by decide) (by omega)
  -- A longer year has a sign in front; years of four digits have the same length.
  split_ifs at hfront with hlong hlong' hlong'
  · rw [List.singleton_append, List.singleton_append,
      List.append_cons_inj_of_notMem ha (hyear hi')] at hfront
    exact hfront.1
  · have hplus : '+' ∈ a ++ (['+'] ++ i.digits.year) := by simp
    rw [hfront] at hplus
    simp [hb, hyear hj'] at hplus
  · have hplus : '+' ∈ b ++ (['+'] ++ j.digits.year) := by simp
    rw [← hfront] at hplus
    simp [ha, hyear hi'] at hplus
  · have hlength := (hfour i hlong).trans (hfour j hlong').symm
    simpa using (List.append_inj' hfront (by simpa using hlength)).1

/-- Where digits in front of a time end, the time begins, unless it is shown as a mere number. -/
theorem timeText_unique_behind {t u : UInt64} {a b : List Char}
    (ha : ∀ c ∈ a, c.isDigit = true) (hb : ∀ c ∈ b, c.isDigit = true)
    (hab : a ++ (timeText t).toList = b ++ (timeText u).toList) :
    (a = b ∧ t = u) ∨ (Instant.lastSecond < t.toNat ∧ Instant.lastSecond < u.toNat) := by
  have hmark : ∀ (cs : List Char) (v : UInt64) (n : Nat), (∀ c ∈ cs, c.isDigit = true) →
      v.toNat ≤ Instant.lastSecond → ∀ ds, ds ++ (timeText v).toList ≠ cs ++ (Nat.repr n).toList := by
    intro cs v n hcs hv ds heq
    obtain ⟨hexists, -, -⟩ := Instant.ofSeconds_counts v.toNat
    have hdash : '-' ∈ ds ++ (timeText v).toList := by
      rw [timeText_of_le hv]
      exact List.mem_append_right ds (Instant.writtenAs_digits hexists).mark_mem
    rw [heq] at hdash
    rcases List.mem_append.mp hdash with hdash | hdash
    · exact absurd (hcs '-' hdash) (by decide)
    · exact (isNumeral_repr n).notMem_of_not_isDigit (by decide) hdash
  by_cases ht : t.toNat ≤ Instant.lastSecond <;> by_cases hu : u.toNat ≤ Instant.lastSecond
  · rw [timeText_of_le ht, timeText_of_le hu] at hab
    obtain ⟨hexists, -, hseconds⟩ := Instant.ofSeconds_counts t.toNat
    obtain ⟨hexists', -, hseconds'⟩ := Instant.ofSeconds_counts u.toNat
    have hplus : ∀ cs : List Char, (∀ c ∈ cs, c.isDigit = true) → '+' ∉ cs :=
      fun cs hcs hmem => absurd (hcs '+' hmem) (by decide)
    obtain ⟨hfront, hinstant⟩ :=
      Instant.text_unique_behind hexists hexists' (hplus a ha) (hplus b hb) hab
    refine .inl ⟨hfront, UInt64.toNat_inj.mp ?_⟩
    rw [← hseconds, ← hseconds', hinstant]
  · rw [timeText_of_gt hu] at hab
    exact absurd hab (hmark b t u.toNat hb ht a)
  · rw [timeText_of_gt ht] at hab
    exact absurd hab.symm (hmark a u t.toNat ha hu b)
  · exact .inr ⟨by omega, by omega⟩

theorem timeText_inj {t u : UInt64} (h : timeText t = timeText u) : t = u := by
  have hnone : ∀ c ∈ ([] : List Char), c.isDigit = true := by simp
  rcases timeText_unique_behind hnone hnone (congrArg ([] ++ String.toList ·) h) with h' | ⟨ht, hu⟩
  · exact h'.2
  · rw [timeText_of_gt (by omega), timeText_of_gt (by omega)] at h
    exact UInt64.toNat_inj.mp ((isNumeral_repr t.toNat).value_unique (h ▸ isNumeral_repr u.toNat))

/-- A time does not begin with a space. -/
theorem head?_timeText (t : UInt64) : ∃ c, (timeText t).toList.head? = some c ∧ c ≠ ' ' := by
  have hdigits : ∀ {width n : Nat} {cs : List Char} (rest : List Char), 0 < width →
      IsNumeral width n cs → ∃ c, (cs ++ rest).head? = some c ∧ c ≠ ' ' := by
    intro width n cs rest hwidth hcs
    cases cs with
    | nil => exact absurd hcs.width_le (Nat.not_le_of_gt hwidth)
    | cons c cs =>
      refine ⟨c, rfl, ?_⟩
      rintro rfl
      exact absurd (hcs.digits ' ' List.mem_cons_self) (by decide)
  have ht := shownTime t
  unfold ShownTime at ht
  split at ht
  · obtain ⟨i, x, -, -, -, hx⟩ := ht
    rw [hx.text]
    split
    · exact ⟨'+', rfl, by decide⟩
    · exact hdigits _ (by decide) hx.year
  · rw [ht]
    simpa using hdigits [] (by decide) (isNumeral_repr t.toNat)

/-- The last character of a time is no bracket. -/
theorem getLast?_timeText (t : UInt64) : (timeText t).toList.getLast? ≠ some ')' := by
  have ht := shownTime t
  unfold ShownTime at ht
  split at ht
  · obtain ⟨i, x, -, -, -, hx⟩ := ht
    rw [hx.text, Instant.Digits.afterYear]
    simp [List.getLast?_cons]
  · rw [ht]
    intro hlast
    have hmem := List.mem_of_getLast? hlast
    exact (isNumeral_repr t.toNat).notMem_of_not_isDigit (by decide) hmem

namespace RewardEvent

/-! ### The parts of a row -/

/-- The digits of the block number. -/
def blockDigits (r : RewardEvent) : List Char := (Nat.repr r.blockIndex.toNat).toList

/-- The block number in its column, and the time behind it. -/
def blockAndTime (r : RewardEvent) : List Char :=
  r.blockDigits ++ (List.replicate (8 - r.blockDigits.length) ' ' ++ (timeText r.timestamp).toList)

/-- The mark of a reward that is only implied. -/
def marks (r : RewardEvent) : List (List Char) :=
  if r.isSynthetic then ["(implied)".toList] else []

theorem isDigit_of_mem_blockDigits (r : RewardEvent) :
    ∀ c ∈ r.blockDigits, c.isDigit = true := (isNumeral_repr _).digits

theorem length_blockDigits_lt_iff (r : RewardEvent) :
    r.blockDigits.length < 8 ↔ r.blockIndex.toNat < 10 ^ 7 := by
  rw [blockDigits, Nat.toList_repr, Nat.lt_succ_iff]
  exact Nat.length_toDigits_le_iff (by decide) (by decide)

theorem toList_activityRow (r : RewardEvent) :
    (activityRow r).toList =
      List.replicate (18 - ("+" ++ Amount.coinText r.amount).length) ' ' ++
        ('+' :: (Amount.coinText r.amount).toList ++ "  block #".toList) ++ r.blockAndTime ++
          if r.isSynthetic then "  (implied)".toList else [] := by
  have hmark : (if r.isSynthetic then "  (implied)" else "").toList =
      if r.isSynthetic then "  (implied)".toList else [] := by split <;> rfl
  have hplus : "+".toList = ['+'] := rfl
  simp only [activityRow, Text.alignRight, Text.alignLeft, blockAndTime, blockDigits, hmark, hplus,
    String.toList_append, String.toList_ofList, String.length_toList, List.append_assoc,
    List.cons_append, List.nil_append]

theorem space_notMem_toList (t : DecimalText) : ' ' ∉ t.toList := by
  have hwhole : ' ' ∉ t.whole := t.isNumeral_whole.notMem_of_not_isDigit (by decide)
  have hplaces : ' ' ∉ t.places := fun h => absurd (t.isDigit_places ' ' h) (by decide)
  unfold DecimalText.toList
  split <;> simp [hwhole, hplaces]

/-- Up to the block number, and after the time, the parts of the row stand on their own. -/
theorem parts_activityRow (r : RewardEvent) {t : DecimalText} (ht : Amount.ShownAs r.amount t) :
    Text.parts (activityRow r).toList =
      ['+' :: t.toList, "AGT".toList, "block".toList] ++ Text.parts ('#' :: r.blockAndTime) ++
        r.marks := by
  have hamount : Text.parts ('+' :: t.toList) = ['+' :: t.toList] :=
    Text.parts_of_notMem (by simp) (by simp [space_notMem_toList])
  have hcoin : Text.parts "AGT".toList = ["AGT".toList] := by decide
  have hblock : Text.parts "block".toList = ["block".toList] := by decide
  have hmark : Text.parts "(implied)".toList = ["(implied)".toList] := by decide
  have hrow : ('+' :: (Amount.coinText r.amount).toList ++ "  block #".toList) ++ r.blockAndTime =
      ('+' :: t.toList) ++ ' ' :: ("AGT".toList ++ ' ' :: ' ' :: ("block".toList ++
        ' ' :: '#' :: r.blockAndTime)) := by
    rw [ht.text]
    simp
  have hbody : Text.parts ('+' :: (Amount.coinText r.amount).toList ++ "  block #".toList ++
      r.blockAndTime) =
        ['+' :: t.toList, "AGT".toList, "block".toList] ++ Text.parts ('#' :: r.blockAndTime) := by
    rw [hrow, Text.parts_append_space, hamount, Text.parts_append_space, hcoin,
      Text.parts_cons_space, Text.parts_append_space, hblock]
    rfl
  rw [toList_activityRow, marks, List.append_assoc, List.append_assoc, Text.parts_replicate_append,
    ← List.append_assoc]
  split
  · have hbehind : "  (implied)".toList = ' ' :: ' ' :: "(implied)".toList := rfl
    rw [hbehind, Text.parts_append_space, Text.parts_cons_space, hbody, hmark]
  · rw [List.append_nil, List.append_nil, hbody]

/-- The parts of the row are the amount, the block number and the time, each on its own. -/
def HasReadableRow (r : RewardEvent) : Prop :=
  ∃ t, Amount.ShownAs r.amount t ∧
    Text.parts (activityRow r).toList =
      ['+' :: t.toList, "AGT".toList, "block".toList, '#' :: r.blockDigits] ++
        Text.parts (timeText r.timestamp).toList ++ r.marks

/-- A row can be taken apart exactly if the block number does not fill its column. -/
theorem hasReadableRow_iff (r : RewardEvent) :
    r.HasReadableRow ↔ r.blockIndex.toNat < 10 ^ 7 := by
  have hspace : ' ' ∉ '#' :: r.blockDigits := by
    have hdigits : ' ' ∉ r.blockDigits := (isNumeral_repr _).notMem_of_not_isDigit (by decide)
    simpa using hdigits
  rw [← length_blockDigits_lt_iff]
  constructor
  · rintro ⟨t, ht, hparts⟩
    rw [parts_activityRow r ht] at hparts
    by_contra hfull
    -- The number runs into the time, so there is one part less.
    have hzero : 8 - r.blockDigits.length = 0 := by omega
    obtain ⟨c, hhead, hc⟩ := head?_timeText r.timestamp
    have hlength := congrArg List.length hparts
    have hjoined := Text.length_parts_append hspace hc hhead
    rw [blockAndTime, hzero, List.replicate_zero, List.nil_append, ← List.cons_append] at hlength
    simp only [List.length_append, hjoined, List.length_cons, List.length_nil] at hlength
    omega
  · intro hroom
    obtain ⟨t, ht⟩ := Amount.exists_shownAs r.amount
    refine ⟨t, ht, ?_⟩
    have hgap : 8 - r.blockDigits.length ≠ 0 := by omega
    rw [parts_activityRow r ht, blockAndTime, ← List.cons_append, Text.parts_append_run hgap,
      Text.parts_of_notMem (by simp) hspace]
    simp

/-! ### Rewards with the same row -/

/-- Long block numbers run into times that are shown as mere numbers, and the digits are the same in
all. -/
structure Entangled (r s : RewardEvent) : Prop where
  long : 10 ^ 7 ≤ r.blockIndex.toNat ∧ 10 ^ 7 ≤ s.blockIndex.toNat
  late : Instant.lastSecond < r.timestamp.toNat ∧ Instant.lastSecond < s.timestamp.toNat
  digits_eq : r.blockDigits ++ (Nat.repr r.timestamp.toNat).toList =
    s.blockDigits ++ (Nat.repr s.timestamp.toNat).toList

variable {r s : RewardEvent}

theorem blockIndex_eq_of_blockDigits_eq (h : r.blockDigits = s.blockDigits) :
    r.blockIndex = s.blockIndex := by
  have hs := isNumeral_repr s.blockIndex.toNat
  rw [show (Nat.repr s.blockIndex.toNat).toList = _ from h.symm] at hs
  exact UInt64.toNat_inj.mp ((isNumeral_repr r.blockIndex.toNat).value_unique hs)

/-- With room behind them, the digits of the block number end at a space. -/
theorem takeWhile_blockAndTime (h : r.blockDigits.length < 8) :
    r.blockAndTime.takeWhile Char.isDigit = r.blockDigits := by
  obtain ⟨k, hk⟩ := Nat.exists_eq_succ_of_ne_zero (show 8 - r.blockDigits.length ≠ 0 by omega)
  have hspace : ¬Char.isDigit ' ' = true := by decide
  rw [blockAndTime, hk, List.takeWhile_append_of_pos r.isDigit_of_mem_blockDigits,
    List.replicate_succ, List.cons_append, List.takeWhile_cons_of_neg hspace, List.append_nil]

theorem blockAndTime_of_full (h : ¬r.blockDigits.length < 8) :
    r.blockAndTime = r.blockDigits ++ (timeText r.timestamp).toList := by
  rw [blockAndTime, Nat.sub_eq_zero_of_le (by omega), List.replicate_zero, List.nil_append]

theorem length_le_takeWhile_blockAndTime (r : RewardEvent) :
    r.blockDigits.length ≤ (r.blockAndTime.takeWhile Char.isDigit).length := by
  rw [blockAndTime, List.takeWhile_append_of_pos r.isDigit_of_mem_blockDigits, List.length_append]
  omega

theorem blockAndTime_eq_iff : r.blockAndTime = s.blockAndTime ↔
    (r.blockIndex = s.blockIndex ∧ r.timestamp = s.timestamp) ∨ r.Entangled s := by
  have hroom : ∀ e : RewardEvent, ¬e.blockDigits.length < 8 ↔ 10 ^ 7 ≤ e.blockIndex.toNat := by
    intro e
    rw [length_blockDigits_lt_iff, Nat.not_lt]
  constructor
  · intro h
    have hdigits := congrArg (List.takeWhile Char.isDigit) h
    by_cases hr : r.blockDigits.length < 8 <;> by_cases hs : s.blockDigits.length < 8
    · rw [takeWhile_blockAndTime hr, takeWhile_blockAndTime hs] at hdigits
      rw [blockAndTime, blockAndTime, hdigits] at h
      have htime := List.append_cancel_left (List.append_cancel_left h)
      exact .inl ⟨blockIndex_eq_of_blockDigits_eq hdigits, timeText_inj (String.toList_inj.mp htime)⟩
    · have hle := s.length_le_takeWhile_blockAndTime
      rw [← hdigits, takeWhile_blockAndTime hr] at hle
      omega
    · have hle := r.length_le_takeWhile_blockAndTime
      rw [hdigits, takeWhile_blockAndTime hs] at hle
      omega
    · rw [blockAndTime_of_full hr, blockAndTime_of_full hs] at h
      rcases timeText_unique_behind r.isDigit_of_mem_blockDigits s.isDigit_of_mem_blockDigits h with
        ⟨hindex, htime⟩ | ⟨hlate, hlate'⟩
      · exact .inl ⟨blockIndex_eq_of_blockDigits_eq hindex, htime⟩
      · rw [timeText_of_gt (by omega), timeText_of_gt (by omega)] at h
        exact .inr ⟨⟨(hroom r).mp hr, (hroom s).mp hs⟩, ⟨hlate, hlate'⟩, h⟩
  · rintro (⟨hindex, htime⟩ | ⟨⟨hr, hs⟩, ⟨hlate, hlate'⟩, hdigits⟩)
    · simp only [blockAndTime, blockDigits, hindex, htime]
    · rw [blockAndTime_of_full ((hroom r).mpr hr), blockAndTime_of_full ((hroom s).mpr hs),
        timeText_of_gt (by omega), timeText_of_gt (by omega), hdigits]

theorem source_eq_iff : r.source = s.source ↔ r.isSynthetic = s.isSynthetic := by
  unfold isSynthetic
  cases r.source <;> cases s.source <;> decide

/-- Only the mark of an implied reward ends with a bracket. -/
theorem getLast?_activityRow (r : RewardEvent) :
    (activityRow r).toList.getLast? = some ')' ↔ r.isSynthetic = true := by
  rw [toList_activityRow, List.getLast?_append]
  split
  · next h => simp [h]
  · next h =>
    obtain ⟨c, hhead, -⟩ := head?_timeText r.timestamp
    have hlast := getLast?_timeText r.timestamp
    cases htime : (timeText r.timestamp).toList.getLast? with
    | none =>
      rw [List.getLast?_eq_none_iff.mp htime] at hhead
      cases hhead
    | some d =>
      rw [htime] at hlast
      rw [List.getLast?_append, blockAndTime, List.getLast?_append, List.getLast?_append, htime]
      simpa [h] using hlast

/-- The fields of a reward can be told from its row, but for entangled block numbers and times. -/
theorem activityRow_eq_iff (r s : RewardEvent) :
    activityRow r = activityRow s ↔ r.amount = s.amount ∧ r.source = s.source ∧
      ((r.blockIndex = s.blockIndex ∧ r.timestamp = s.timestamp) ∨ r.Entangled s) := by
  rw [← blockAndTime_eq_iff, source_eq_iff, ← String.toList_inj]
  constructor
  · intro h
    have hsource : r.isSynthetic = s.isSynthetic := by
      rw [Bool.eq_iff_iff, ← getLast?_activityRow, ← getLast?_activityRow, h]
    have hamount : r.amount = s.amount := by
      obtain ⟨t, ht⟩ := Amount.exists_shownAs r.amount
      obtain ⟨u, hu⟩ := Amount.exists_shownAs s.amount
      have hparts := congrArg Text.parts h
      rw [parts_activityRow r ht, parts_activityRow s hu] at hparts
      have htext : t.toList = u.toList := (List.cons.inj (List.cons.inj hparts).1).2
      have hunits : (UInt64.toNat r.amount : ℚ) = UInt64.toNat s.amount := by
        rw [← ht.reads, htext, hu.reads]
      exact UInt64.toNat_inj.mp (by exact_mod_cast hunits)
    rw [toList_activityRow, toList_activityRow, hsource, hamount] at h
    exact ⟨hamount, hsource, List.append_cancel_left (List.append_cancel_right h)⟩
  · rintro ⟨hamount, hsource, hbehind⟩
    rw [toList_activityRow, toList_activityRow, hsource, hamount, hbehind]

end RewardEvent

/-- **The row of a reward can be taken apart exactly if its block number has at most seven digits.**
What two rewards with the same row have in common is the amount and the source, and also the block
number and the time, unless these are entangled. -/
theorem activityRow_legible (r s : RewardEvent) :
    (r.HasReadableRow ↔ r.blockIndex.toNat < 10 ^ 7) ∧
      (activityRow r = activityRow s ↔ r.amount = s.amount ∧ r.source = s.source ∧
        ((r.blockIndex = s.blockIndex ∧ r.timestamp = s.timestamp) ∨ r.Entangled s)) :=
  ⟨r.hasReadableRow_iff, r.activityRow_eq_iff s⟩

/-- The block number runs into the year. Later on, two rewards of different blocks and times have the
same row. -/
theorem activityRow_not_legible :
    let payment (timestamp : UInt64) : Transaction :=
      ⟨"t", systemSender, "A", 4000000000, timestamp, ""⟩
    let r := RewardEvent.recorded (payment 1743897600) 12345678
    let early := RewardEvent.recorded (payment 19000000000000) 12345678
    let late := RewardEvent.recorded (payment 9000000000000) 123456781
    activityRow r = "           +40 AGT  block #123456782025-04-06 00:00:00 UTC" ∧
      ¬r.HasReadableRow ∧
      activityRow early = activityRow late ∧
        early.blockIndex ≠ late.blockIndex ∧ early.timestamp ≠ late.timestamp := by
  intro payment r early late
  refine ⟨by decide, ?_, by decide, by decide, by decide⟩
  rw [RewardEvent.hasReadableRow_iff]
  decide

end WalletDashboard
