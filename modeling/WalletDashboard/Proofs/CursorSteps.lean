import WalletDashboard.Pagination.WordCursor
import WalletDashboard.Proofs.WordPages

/-!
# Steps of the cursor on machine words

Every step is told a number of pages of its own, so the numbers may rise and fall between the steps,
and the cursor may stand far beyond the last page when a step begins. As long as all of them are
below `2 ^ 63`, the cursor stays below as well, so that there is room for the step forward, and the
last page is a signed word, so that a jump finds its bounds in order.

* `WordCursor.Takes`: what one step does to the page (`WordCursor.exists_takes`).
* `WordCursor.Follows`: a list of pages that is visited step by step.

`WordCursor.visited_follows` puts them together: no step ever stops, and the pages are the ones that
`PageCursor` visits; and a jump leads to the page that `paginateWords` shows.
-/

namespace WalletDashboard

namespace WordCursor

/-- The number of pages that the step is told is a signed word as well. -/
def Step.IsOrdinary (s : Step) : Prop := ∀ total, s.total? = some total → total.toNat < 2 ^ 63

/-- The same step on unbounded numbers. -/
def Step.unbounded : Step → PageCursor.Step
  | .previous => .previous
  | .next total => .next total.toNat
  | .jump page total => .jump page.toInt total.toNat
  | .clampTo total => .clampTo total.toNat
  | .reset => .reset

/-- The step leads from page `p` to page `q`. -/
structure Takes (p : UInt64) (s : Step) (q : UInt64) : Prop where
  one_le : 1 ≤ q.toNat
  lt : q.toNat < 2 ^ 63
  /-- The page is among those there are, wherever the cursor was before. -/
  le_total : ∀ total, s.total? = some total → q.toNat ≤ max 1 total.toNat
  /-- A step forward goes one page on, and the step back undoes it. -/
  undone : ∀ total, s = .next total → p < q →
    q.toNat = p.toNat + 1 ∧ step ⟨q⟩ .previous = .ok ⟨p⟩
  unbounded : PageCursor.step? ⟨p.toNat⟩ s.unbounded = some ⟨q.toNat⟩

theorem step_previous {n : Nat} (h : n < 2 ^ 64) :
    step ⟨.ofNat n⟩ .previous = .ok ⟨.ofNat (max (n - 1) 1)⟩ := by
  have hsub : Word.subFloored (.ofNat n) 1 = .ofNat (n - 1) := Word.subFloored_ofNat h (by decide)
  have hmax : max (UInt64.ofNat (n - 1)) 1 = .ofNat (max (n - 1) 1) :=
    Word.max_ofNat (by omega) (by decide)
  rw [step, hsub, hmax]

/-- The last page, counted as at least one. -/
theorem max_one_eq_ofNat (total : UInt64) : max total 1 = .ofNat (max total.toNat 1) := by
  have hmax := Word.max_ofNat total.toNat_lt (show 1 < 2 ^ 64 by decide)
  rwa [UInt64.ofNat_toNat] at hmax

section Steps

variable {n : Nat} {total : UInt64}

theorem step_next (h : n + 1 < 2 ^ 64) :
    step ⟨.ofNat n⟩ (.next total) = .ok ⟨.ofNat (min (n + 1) (max total.toNat 1))⟩ := by
  have hadd : Word.add (.ofNat n) 1 = .ok (.ofNat (n + 1)) := Word.add_ofNat h
  have hlt := total.toNat_lt
  simp only [step, hadd, max_one_eq_ofNat, bind, Except.bind, pure, Except.pure]
  rw [Word.min_ofNat h (by omega)]

theorem step_jump (h : total.toNat < 2 ^ 63) (c : WordCursor) (page : Int64) :
    step c (.jump page total) =
      .ok ⟨.ofNat (clampInt page.toInt 1 (max total.toNat 1 : Nat)).toNat⟩ := by
  have hlast : max total.toNat 1 < 2 ^ 63 := by omega
  obtain ⟨nearest, hclamp, hto⟩ := Word.clamp_one_ofNat page (Nat.le_max_right _ _) hlast
  simp only [step, max_one_eq_ofNat, hclamp, hto, bind, Except.bind, pure, Except.pure]

theorem step_clampTo (h : n < 2 ^ 64) :
    step ⟨.ofNat n⟩ (.clampTo total) = .ok ⟨.ofNat (max 1 (min n (max total.toNat 1)))⟩ := by
  have hlt := total.toNat_lt
  have hle : 1 ≤ max total.toNat 1 := Nat.le_max_right _ _
  have hclamp : Word.clampUnsigned (.ofNat n) 1 (.ofNat (max total.toNat 1)) =
      .ok (.ofNat (max 1 (min n (max total.toNat 1)))) :=
    Word.clampUnsigned_ofNat h (by omega) hle
  simp only [step, max_one_eq_ofNat, hclamp, bind, Except.bind, pure, Except.pure]

end Steps

/-- From a page below `2 ^ 63` an ordinary step leads to another one, on words as on unbounded
numbers. -/
theorem exists_step {n : Nat} (h1 : 1 ≤ n) (hn : n < 2 ^ 63) {s : Step} (hs : s.IsOrdinary) :
    ∃ m, PageCursor.step? ⟨n⟩ s.unbounded = some ⟨m⟩ ∧ step ⟨.ofNat n⟩ s = .ok ⟨.ofNat m⟩ ∧
      (1 ≤ m ∧ m < 2 ^ 63) ∧ ∀ total, s.total? = some total → m ≤ max 1 total.toNat := by
  cases s with
  | previous => exact ⟨max (n - 1) 1, rfl, step_previous (by omega), by omega, nofun⟩
  | next total =>
    have htotal : total.toNat < 2 ^ 63 := hs total rfl
    refine ⟨min (n + 1) (max total.toNat 1), rfl, step_next (by omega), by omega, ?_⟩
    rintro _ ⟨⟩
    omega
  | jump page total =>
    have htotal : total.toNat < 2 ^ 63 := hs total rfl
    have hlimit : max total.toNat 1 < PageCursor.jumpLimit := by
      unfold PageCursor.jumpLimit
      omega
    refine ⟨_, if_pos hlimit, step_jump htotal _ page, ?_, ?_⟩ <;> unfold clampInt
    · omega
    · rintro _ ⟨⟩
      omega
  | clampTo total =>
    refine ⟨max 1 (min n (max total.toNat 1)), rfl, step_clampTo (by omega), by omega, ?_⟩
    rintro _ ⟨⟩
    omega
  | reset => exact ⟨1, rfl, rfl, by omega, nofun⟩

/-- An ordinary step never stops, and keeps the cursor below `2 ^ 63`. -/
theorem exists_takes {p : UInt64} (h1 : 1 ≤ p.toNat) (hp : p.toNat < 2 ^ 63) {s : Step}
    (hs : s.IsOrdinary) : ∃ q, step ⟨p⟩ s = .ok ⟨q⟩ ∧ Takes p s q := by
  obtain ⟨m, hunbounded, hstep, ⟨hm1, hm⟩, htotal⟩ := exists_step h1 hp hs
  obtain ⟨q, rfl⟩ : ∃ q : UInt64, q.toNat = m := ⟨.ofNat m, Word.toNat_ofNat (by omega)⟩
  rw [UInt64.ofNat_toNat, UInt64.ofNat_toNat] at hstep
  refine ⟨q, hstep, hm1, hm, htotal, ?_, hunbounded⟩
  rintro total rfl hforward
  -- The step forward was not cut off at the last page.
  have hnext : min (p.toNat + 1) (max total.toNat 1) = q.toNat :=
    congrArg PageCursor.page (Option.some.inj hunbounded)
  rw [UInt64.lt_iff_toNat_lt] at hforward
  have hq : q.toNat = p.toNat + 1 := by omega
  have hback := step_previous q.toNat_lt
  rw [UInt64.ofNat_toNat, hq, Nat.add_sub_cancel, Nat.max_eq_left h1, UInt64.ofNat_toNat] at hback
  exact ⟨hq, hback⟩

/-- The pages are visited one after the other, from page `p` on. -/
inductive Follows : UInt64 → List Step → List UInt64 → Prop
  | nil (p : UInt64) : Follows p [] []
  | cons {p q : UInt64} {s : Step} {steps : List Step} {pages : List UInt64} (h : Takes p s q)
    (hrest : Follows q steps pages) : Follows p (s :: steps) (q :: pages)

theorem exists_follows {p : UInt64} (h1 : 1 ≤ p.toNat) (hp : p.toNat < 2 ^ 63) {steps : List Step}
    (hsteps : ∀ s ∈ steps, s.IsOrdinary) :
    ∃ pages, visited ⟨p⟩ steps = .ok pages ∧ Follows p steps pages := by
  induction steps generalizing p with
  | nil => exact ⟨[], rfl, .nil p⟩
  | cons s steps ih =>
    obtain ⟨hs, hrest⟩ := List.forall_mem_cons.mp hsteps
    obtain ⟨q, hstep, hq⟩ := exists_takes h1 hp hs
    obtain ⟨pages, hvisited, hfollows⟩ := ih hq.one_le hq.lt hrest
    refine ⟨q :: pages, ?_, .cons hq hfollows⟩
    simp only [visited, hstep, hvisited, bind, Except.bind, pure, Except.pure]

/-- These are the pages that are visited on unbounded numbers. -/
theorem Follows.visited_unbounded {p : UInt64} {steps : List Step} {pages : List UInt64}
    (h : Follows p steps pages) :
    PageCursor.visited ⟨p.toNat⟩ (steps.map Step.unbounded) = pages.map (some ·.toNat) := by
  induction h with
  | nil => rfl
  | cons h _ ih => simp only [List.map_cons, PageCursor.visited, h.unbounded, ih]

/-- To jump to a page of a list is to go to the page that is shown. -/
theorem jump_paginateWords {α : Type} (items : List α) (size : PageSize) (requested : Int64)
    (c : WordCursor) (hl : items.length < 2 ^ 63) (hs : size.size < 2 ^ 64) :
    ∃ (total : UInt64) (page : Page α) (c' : WordCursor),
      pageCountWords (.ofNat items.length) (.ofNat size.size) = .ok total ∧
        paginateWords items (.ofNat size.size) requested = .ok page ∧
        c.step (.jump requested total) = .ok c' ∧ c'.page.toNat = page.number := by
  have hcount := pageCountWords_ofNat hl hs
  have hle := pageCount_le items.length size
  have hnat : (UInt64.ofNat (pageCount items.length size)).toNat = pageCount items.length size :=
    Word.toNat_ofNat (by omega)
  let page := paginate items size requested.toInt
  obtain ⟨hp1, hpt⟩ : 1 ≤ page.number ∧ page.number ≤ pageCount items.length size :=
    number_paginate_bounds _ _ _
  obtain ⟨nearest, hclamp, hto⟩ := clamp_pageCount hl size requested
  have hnumber : nearest.toUInt64 = .ofNat page.number := hto
  have hvisible := visibleWords_ofNat hl hs hp1 hpt
  have hpages : max (pageCount items.length size) 1 = pageCount items.length size :=
    Nat.max_eq_left (pageCount_pos _ _)
  have hlt : (UInt64.ofNat (pageCount items.length size)).toNat < 2 ^ 63 := by omega
  have hjump := step_jump hlt c requested
  rw [hnat, hpages] at hjump
  have hpage : (UInt64.ofNat page.number).toNat = page.number := Word.toNat_ofNat (by omega)
  refine ⟨_, page, _, hcount, ?_, hjump, hpage⟩
  simp only [paginateWords, hcount, hclamp, hnumber, hvisible, bind, Except.bind, pure, Except.pure]
  rw [hnat, hpage, paginate_number items size requested.toInt]
  rfl

/-- **On machine words no step of the cursor ever stops.** Every step may be told another number of
pages below `2 ^ 63`. The cursor is on a page below `2 ^ 63` after each, and on one of the pages
that the step was told of, wherever it was before; a step forward goes one page on, and the step
back undoes it; and the pages are those that are visited on unbounded numbers. A jump to any page of
a list leads to the page that is shown. -/
theorem visited_follows (steps : List Step) (hsteps : ∀ s ∈ steps, s.IsOrdinary) :
    (∃ pages, visited {} steps = .ok pages ∧ Follows 1 steps pages ∧
      PageCursor.visited {} (steps.map Step.unbounded) = pages.map (some ·.toNat)) ∧
    ∀ {α : Type} (items : List α) (size : PageSize) (requested : Int64) (c : WordCursor),
      items.length < 2 ^ 63 → size.size < 2 ^ 64 →
        ∃ (total : UInt64) (page : Page α) (c' : WordCursor),
          pageCountWords (.ofNat items.length) (.ofNat size.size) = .ok total ∧
            paginateWords items (.ofNat size.size) requested = .ok page ∧
            c.step (.jump requested total) = .ok c' ∧ c'.page.toNat = page.number := by
  obtain ⟨pages, hvisited, hfollows⟩ := exists_follows (p := 1) (by decide) (by decide) hsteps
  exact ⟨⟨pages, hvisited, hfollows, hfollows.visited_unbounded⟩, jump_paginateWords⟩

/-- The cursor jumps to the greatest page that it can reach and steps beyond it in vain. Then there
are fewer pages than it has passed, and none at all. The list has three items, and the page asked
for is the one with the least number. -/
theorem visited_follows_shrinking :
    let greatest : UInt64 := 9223372036854775807
    let steps : List Step :=
      [.next 3, .previous, .jump Int64.maxValue greatest, .next greatest, .next 7, .next 9,
        .clampTo 2, .jump Int64.minValue 0, .reset]
    (∀ s ∈ steps, s.IsOrdinary) ∧
      visited {} steps = .ok [2, 1, greatest, greatest, 7, 8, 2, 1, 1] ∧
      (∃ pages, visited {} steps = .ok pages ∧ Follows 1 steps pages) ∧
      ∃ (total : UInt64) (page : Page Char) (c' : WordCursor),
        pageCountWords 3 2 = .ok total ∧
          paginateWords ['a', 'b', 'c'] 2 Int64.minValue = .ok page ∧
          step ⟨9⟩ (.jump Int64.minValue total) = .ok c' ∧ c'.page.toNat = page.number := by
  intro greatest steps
  have hordinary : ∀ s ∈ steps, s.IsOrdinary := by
    simp only [steps, List.forall_mem_cons, Step.IsOrdinary, Step.total?]
    refine ⟨?_, ?_, ?_, ?_, ?_, ?_, ?_, ?_, ?_, nofun⟩ <;> rintro _ ⟨⟩ <;> decide
  obtain ⟨⟨pages, hvisited, hfollows, -⟩, hjump⟩ := visited_follows steps hordinary
  have hshrinking : visited {} steps = .ok [2, 1, greatest, greatest, 7, 8, 2, 1, 1] := by
    unfold steps greatest
    rfl
  exact ⟨hordinary, hshrinking, ⟨pages, hvisited, hfollows⟩,
    hjump ['a', 'b', 'c'] ⟨2, by decide⟩ Int64.minValue ⟨9⟩ (by decide) (by decide)⟩

end WordCursor

end WalletDashboard
