import WalletDashboard.Pagination.Words
import WalletDashboard.Proofs.Pages

/-!
# Pages on machine words are pages

A list of fewer than `2 ^ 63` items has so few pages that their number is a signed word too. The end
of a page can lie beyond the end of the list, by almost a whole page, and a page may be as large as
words go; still it is a word: a page after the first is no larger than the list
(`mul_lt_of_le_pageCount_words`). So none of the steps on words stops, and what comes out is the
page of `paginate` (`paginateWords_eq`).
-/

namespace WalletDashboard

variable {α : Type} {size : PageSize}

/-- The end of every page is a word. -/
theorem mul_lt_of_le_pageCount_words {length p : Nat} (hl : length < 2 ^ 63)
    (hs : size.size < 2 ^ 64) (hp : p ≤ pageCount length size) : p * size.size < 2 ^ 64 := by
  rcases Nat.lt_or_ge p 2 with hp1 | hp2
  · have hle : p * size.size ≤ 1 * size.size := Nat.mul_le_mul_right _ (by omega)
    omega
  · have hpos : 0 < length := by
      apply Nat.pos_of_ne_zero
      rintro rfl
      rw [pageCount_zero] at hp
      omega
    obtain ⟨q, rfl⟩ := Nat.exists_eq_add_of_le' hp2
    -- The page begins inside the list and after a whole page, so a page is no larger than the list.
    have hbegin : (q + 1) * size.size < length := mul_lt_of_le_pageCount hpos (by omega) hp
    have hwhole : 1 * size.size ≤ (q + 1) * size.size := Nat.mul_le_mul_right _ (by omega)
    rw [Nat.succ_mul]
    omega

/-- A page that there is begins where the list goes on or ends. -/
theorem sub_one_mul_le {length p : Nat} (h1 : 1 ≤ p) (hp : p ≤ pageCount length size) :
    (p - 1) * size.size ≤ length := by
  rcases Nat.eq_zero_or_pos length with rfl | hl
  · rw [pageCount_zero] at hp
    obtain rfl : p = 1 := by omega
    simp
  · exact Nat.le_of_lt (mul_lt_of_le_pageCount hl h1 hp)

/-- The items from the begin of a page to its end, as far as the list goes. -/
theorem visible_eq_slice {items : List α} {p : Nat} (h1 : 1 ≤ p)
    (hp : p ≤ pageCount items.length size) :
    (paginate items size p).visible =
      (items.take (min (p * size.size) items.length)).drop
        (min ((p - 1) * size.size) items.length) := by
  have hbegin := sub_one_mul_le h1 hp
  obtain ⟨q, rfl⟩ := Nat.exists_eq_add_of_le' h1
  rw [visible_paginate h1 hp, Nat.min_eq_left hbegin, List.take_eq_take_min, List.drop_take,
    List.length_drop, Nat.add_sub_cancel, Nat.succ_mul]
  congr 1
  omega

/-- The number of pages is counted without a fault, and as a signed word it is the same number. -/
theorem pageCountWords_ofNat {length : Nat} (hl : length < 2 ^ 63) (hs : size.size < 2 ^ 64) :
    pageCountWords (.ofNat length) (.ofNat size.size) = .ok (.ofNat (pageCount length size)) := by
  have hle : pageCount length size ≤ max length 1 := pageCount_le length size
  have hceil : (length + size.size - 1) / size.size ≤ pageCount length size :=
    Nat.le_max_left _ _
  rw [pageCountWords, Word.ceilDiv_ofNat (by omega) hs size.pos]
  exact congrArg Except.ok (Word.max_ofNat (by omega) (by decide))

theorem toInt_toInt64_pageCount {length : Nat} (hl : length < 2 ^ 63) :
    (UInt64.ofNat (pageCount length size)).toInt64.toInt = pageCount length size := by
  have hle : pageCount length size ≤ max length 1 := pageCount_le length size
  exact Word.toInt_toInt64_ofNat (by omega)

/-- The requested page is found among those there are without a fault. -/
theorem clamp_pageCount {length : Nat} (hl : length < 2 ^ 63) (size : PageSize)
    (requested : Int64) :
    ∃ c, Word.clamp requested 1 (UInt64.ofNat (pageCount length size)).toInt64 = .ok c ∧
      c.toUInt64 = .ofNat (clampInt requested.toInt 1 (pageCount length size)).toNat := by
  have hle : pageCount length size ≤ max length 1 := pageCount_le length size
  exact Word.clamp_one_ofNat requested (pageCount_pos length size) (by omega)

/-- The items on a page that there is are found without a fault. -/
theorem visibleWords_ofNat {items : List α} {p : Nat} (hl : items.length < 2 ^ 63)
    (hs : size.size < 2 ^ 64) (h1 : 1 ≤ p) (hp : p ≤ pageCount items.length size) :
    visibleWords items (.ofNat size.size) (.ofNat p) = .ok (paginate items size p).visible := by
  have hend : p * size.size < 2 ^ 64 := mul_lt_of_le_pageCount_words hl hs hp
  have hle : (p - 1) * size.size ≤ p * size.size := Nat.mul_le_mul_right _ (Nat.sub_le _ _)
  have hp64 : p < 2 ^ 64 := by
    have := pageCount_le items.length size
    omega
  have hbefore : Word.sub (.ofNat p) 1 = .ok (.ofNat (p - 1)) := Word.sub_ofNat hp64 h1
  have hstart : Word.mul (.ofNat (p - 1)) (.ofNat size.size) =
      .ok (.ofNat ((p - 1) * size.size)) := Word.mul_ofNat (by omega) hs (by omega)
  have hstop : Word.mul (.ofNat p) (.ofNat size.size) = .ok (.ofNat (p * size.size)) :=
    Word.mul_ofNat hp64 hs hend
  have hslice : Word.slice items (.ofNat (min ((p - 1) * size.size) items.length))
      (.ofNat (min (p * size.size) items.length)) = .ok (paginate items size p).visible := by
    rw [visible_eq_slice h1 hp]
    exact Word.slice_ofNat (by omega) (Nat.min_le_right _ _) (by omega)
  simp only [visibleWords, hbefore, hstart, hstop, bind, Except.bind]
  rw [Word.min_ofNat (by omega) (by omega), Word.min_ofNat hend (by omega), hslice]

/-- **On machine words no step of counting out a page stops, and the page is the one that unbounded
numbers give.** The list has fewer than `2 ^ 63` items; the size of a page and the requested page
are any words. -/
theorem paginateWords_eq (items : List α) (hl : items.length < 2 ^ 63) (size : PageSize)
    (hs : size.size < 2 ^ 64) (requested : Int64) :
    let total := pageCount items.length size
    let page := paginate items size requested.toInt
    let start := min ((page.number - 1) * size.size) items.length
    let stop := min (page.number * size.size) items.length
    (pageCountWords (.ofNat items.length) (.ofNat size.size) = .ok (.ofNat total) ∧
        1 ≤ total ∧ total < 2 ^ 63 ∧ (UInt64.ofNat total).toInt64.toInt = total) ∧
      (1 ≤ page.number ∧ page.number ≤ total) ∧
      ((page.number - 1) * size.size < 2 ^ 64 ∧ page.number * size.size < 2 ^ 64) ∧
      (start ≤ stop ∧ stop ≤ items.length ∧ page.visible = (items.take stop).drop start) ∧
      paginateWords items (.ofNat size.size) requested = .ok page := by
  intro total page start stop
  have ht : 1 ≤ total := pageCount_pos _ _
  have htl : total ≤ max items.length 1 := pageCount_le _ _
  have hcount := pageCountWords_ofNat hl hs
  obtain ⟨hp1, hpt⟩ : 1 ≤ page.number ∧ page.number ≤ total := number_paginate_bounds _ _ _
  have hpage : paginate items size page.number = page := paginate_number items size requested.toInt
  have hend : page.number * size.size < 2 ^ 64 := mul_lt_of_le_pageCount_words hl hs hpt
  have hle : (page.number - 1) * size.size ≤ page.number * size.size :=
    Nat.mul_le_mul_right _ (Nat.sub_le _ _)
  have hslice : page.visible = (items.take stop).drop start :=
    (congrArg Page.visible hpage).symm.trans (visible_eq_slice hp1 hpt)
  have hvisible : visibleWords items (.ofNat size.size) (.ofNat page.number) =
      .ok page.visible := by
    rw [visibleWords_ofNat hl hs hp1 hpt, hpage]
  refine ⟨⟨hcount, ht, by omega, toInt_toInt64_pageCount hl⟩, ⟨hp1, hpt⟩, ⟨by omega, hend⟩,
    ⟨by omega, Nat.min_le_right _ _, hslice⟩, ?_⟩
  obtain ⟨nearest, hclamp, hto⟩ := clamp_pageCount hl size requested
  have hnumber : nearest.toUInt64 = .ofNat page.number := hto
  simp only [paginateWords, hcount, hclamp, hnumber, hvisible, bind, Except.bind, pure,
    Except.pure]
  rw [Word.toNat_ofNat (by omega), Word.toNat_ofNat (by omega)]
  rfl

/-- A page as large as words go, and a request for the page with the greatest number. -/
theorem paginateWords_eq_greatest :
    let size : PageSize := ⟨2 ^ 64 - 1, by decide⟩
    ['a', 'b', 'c'].length < 2 ^ 63 ∧ size.size < 2 ^ 64 ∧
      (pageCount 3 size = 1 ∧ (paginate ['a', 'b', 'c'] size Int64.maxValue.toInt).number = 1) ∧
      paginateWords ['a', 'b', 'c'] (.ofNat (2 ^ 64 - 1)) Int64.maxValue =
        .ok (paginate ['a', 'b', 'c'] size Int64.maxValue.toInt) := by
  intro size
  have hl : ['a', 'b', 'c'].length < 2 ^ 63 := by decide
  have hs : size.size < 2 ^ 64 := by decide
  obtain ⟨-, -, -, -, hwords⟩ := paginateWords_eq ['a', 'b', 'c'] hl size hs Int64.maxValue
  exact ⟨hl, hs, ⟨by decide, by decide⟩, hwords⟩

end WalletDashboard
