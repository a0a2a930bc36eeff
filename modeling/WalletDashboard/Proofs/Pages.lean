import WalletDashboard.Pagination.Cursor

/-!
# Pages and the numbers of pages

`pageCount` is the ceiling of a quotient, but at least one. A page number between one and it is the
one that `paginate` gives back; such a page shows nothing only if there is nothing to show, and all
but the last are full.
-/

namespace WalletDashboard

variable {α : Type} {size : PageSize}

@[simp] theorem pageCount_zero (size : PageSize) : pageCount 0 size = 1 := by
  have h : (0 + size.size - 1) / size.size = 0 :=
    Nat.div_eq_of_lt (by have := size.pos; omega)
  rw [pageCount, h]
  rfl

/-- Every page begins inside the list, unless the list is empty. -/
theorem mul_lt_of_le_pageCount {length p : Nat} (hl : 0 < length) (h1 : 1 ≤ p)
    (hp : p ≤ pageCount length size) : (p - 1) * size.size < length := by
  obtain ⟨q, rfl⟩ := Nat.exists_eq_add_of_le' h1
  rcases Nat.eq_zero_or_pos q with rfl | hq
  · simpa using hl
  · have hs := size.pos
    -- Page `q + 1` comes after `q` full pages, and the list does not end with them.
    have hd : q + 1 ≤ (length + size.size - 1) / size.size := by
      unfold pageCount at hp
      omega
    have hm : (q + 1) * size.size ≤ length + size.size - 1 := (Nat.le_div_iff_mul_le hs).mp hd
    rw [Nat.add_mul, Nat.one_mul] at hm
    rw [Nat.add_sub_cancel]
    omega

/-- No more pages than items, unless there are none. -/
theorem pageCount_le (length : Nat) (size : PageSize) : pageCount length size ≤ max length 1 := by
  rcases Nat.eq_zero_or_pos length with rfl | hl
  · simp
  · have hs := size.pos
    have hq : (length + size.size - 1) / size.size ≤ length := by
      apply Nat.div_le_of_le_mul
      obtain ⟨k, rfl⟩ := Nat.exists_eq_add_of_le' hl
      have hk : k ≤ size.size * k := Nat.le_mul_of_pos_left _ hs
      rw [Nat.mul_add, Nat.mul_one]
      omega
    unfold pageCount
    omega

/-- The pages there are have room for all the items. -/
theorem le_pageCount_mul (length : Nat) (size : PageSize) :
    length ≤ pageCount length size * size.size := by
  have hs := size.pos
  have hlt : length + size.size - 1 < ((length + size.size - 1) / size.size + 1) * size.size :=
    Nat.lt_mul_of_div_lt (Nat.lt_succ_self _) hs
  have hle : (length + size.size - 1) / size.size * size.size ≤
      pageCount length size * size.size :=
    Nat.mul_le_mul_right _ (Nat.le_max_left _ _)
  rw [Nat.add_mul, Nat.one_mul] at hlt
  omega

/-- A page that there is is the one that is shown. -/
theorem number_paginate {items : List α} {p : Nat} (h1 : 1 ≤ p)
    (hp : p ≤ pageCount items.length size) : (paginate items size p).number = p := by
  simp only [paginate, clampInt]
  omega

/-- A page that there is shows its piece of the list. -/
theorem visible_paginate {items : List α} {p : Nat} (h1 : 1 ≤ p)
    (hp : p ≤ pageCount items.length size) :
    (paginate items size p).visible = (items.drop ((p - 1) * size.size)).take size.size := by
  have hv : (paginate items size p).visible =
      (items.drop (((paginate items size p).number - 1) * size.size)).take size.size := rfl
  rw [hv, number_paginate h1 hp]

/-- A page that there is shows something, if there is something to show. -/
theorem visible_paginate_eq_nil_iff {items : List α} {p : Nat} (h1 : 1 ≤ p)
    (hp : p ≤ pageCount items.length size) :
    (paginate items size p).visible = [] ↔ items = [] := by
  rw [visible_paginate h1 hp, List.take_eq_nil_iff, List.drop_eq_nil_iff]
  constructor
  · intro h
    have hs := size.pos
    rcases Nat.eq_zero_or_pos items.length with h0 | hl
    · exact List.length_eq_zero_iff.mp h0
    · have := mul_lt_of_le_pageCount hl h1 hp
      omega
  · intro h
    exact .inr (by simp [h])

/-- Every page but the last is full. -/
theorem length_visible_of_lt {items : List α} {p : Nat} (h1 : 1 ≤ p)
    (hp : p < pageCount items.length size) :
    (paginate items size p).visible.length = size.size := by
  have hl : 0 < items.length := by
    apply Nat.pos_of_ne_zero
    intro h0
    rw [h0, pageCount_zero] at hp
    omega
  -- The page after this one begins inside the list.
  have hnext : (p + 1 - 1) * size.size < items.length := mul_lt_of_le_pageCount hl (by omega) hp
  obtain ⟨q, rfl⟩ := Nat.exists_eq_add_of_le' h1
  rw [visible_paginate h1 (Nat.le_of_lt hp), List.length_take, List.length_drop]
  simp only [Nat.add_sub_cancel, Nat.add_mul, Nat.one_mul] at hnext ⊢
  omega

theorem length_visible_le (items : List α) (size : PageSize) (requested : Int) :
    (paginate items size requested).visible.length ≤ size.size :=
  List.length_take_le _ _

/-- What is asked for beyond the pages there are is answered with the nearest page. -/
theorem paginate_clamped (items : List α) (size : PageSize) (requested : Int) :
    paginate items size requested =
      paginate items size (max 1 (min requested (pageCount items.length size))) := by
  have ht := pageCount_pos items.length size
  have hc : clampInt requested 1 (pageCount items.length size) =
      clampInt (max 1 (min requested (pageCount items.length size))) 1
        (pageCount items.length size) := by
    unfold clampInt
    omega
  simp only [paginate, ← hc]

/-- The page that is shown is the nearest one there is. -/
theorem number_paginate_eq (items : List α) (size : PageSize) (requested : Int) :
    ((paginate items size requested).number : Int) =
      max 1 (min requested (pageCount items.length size)) := by
  show ((clampInt requested 1 (pageCount items.length size)).toNat : Int) = _
  unfold clampInt
  omega

theorem number_paginate_bounds (items : List α) (size : PageSize) (requested : Int) :
    1 ≤ (paginate items size requested).number ∧
      (paginate items size requested).number ≤ pageCount items.length size := by
  have ht := pageCount_pos items.length size
  have hn := number_paginate_eq items size requested
  omega

/-- To ask for the page that is shown is to ask for the same page. -/
theorem paginate_number (items : List α) (size : PageSize) (requested : Int) :
    paginate items size (paginate items size requested).number =
      paginate items size requested := by
  rw [number_paginate_eq, ← paginate_clamped]

/-- A jump among fewer pages than `jumpLimit` has an answer. -/
theorem PageCursor.jump?_isSome {total : Nat} (h : total < jumpLimit) (page : Int)
    (c : PageCursor) : (c.jump? page total).isSome := by
  have hm : max total 1 < jumpLimit := by
    unfold jumpLimit at h ⊢
    omega
  simp only [jump?, if_pos hm, Option.isSome_some]

end WalletDashboard
