import Mathlib.Data.List.Basic
import WalletDashboard.Proofs.Coherence
import WalletDashboard.Proofs.MemoryRuns

/-!
# Reading a list through, page by page

The pages of a list, one after another, are the list: nothing is lost, repeated or moved
(`flatMap_visible_paginate`).

The reader of the feed goes through it by turning to the first page and then to the next one as
often as there are pages after it (`Dashboard.reading`). Every step only moves the cursor
(`Session.goTo`), so `Session.trail_reading` can say where the reader stops, once on every page, and
`Session.reading_through` what is read there.
-/

namespace WalletDashboard

variable {α σ κ : Type}

/-! ### The pages of a list -/

/-- The pieces of one width that follow one another in a list are the front of the list. -/
theorem flatMap_pieces (items : List α) (width count : Nat) :
    ((List.range count).flatMap fun i => (items.drop (i * width)).take width) =
      items.take (count * width) := by
  induction count with
  | zero => simp
  | succ n ih =>
    rw [List.range_succ, List.flatMap_append, ih, List.flatMap_singleton, Nat.succ_mul,
      List.take_add]

/-- The pages of a list, one after another, are the list. -/
theorem flatMap_visible_paginate (items : List α) (size : PageSize) :
    ((List.range' 1 (pageCount items.length size)).flatMap fun p : Nat =>
      (paginate items size p).visible) = items := by
  have hpage : ∀ i ∈ List.range (pageCount items.length size),
      (paginate items size (1 + i : Nat)).visible =
        (items.drop (i * size.size)).take size.size := by
    intro i hi
    rw [List.mem_range] at hi
    rw [visible_paginate (by omega) (by omega), Nat.add_sub_cancel_left]
  rw [List.range'_eq_map_range, List.flatMap_map, List.flatMap_congr hpage, flatMap_pieces,
    List.take_of_length_le (le_pageCount_mul _ _)]

/-! ### Going through the feed -/

/-- To the first page, and from there to the next one until the last. -/
def Dashboard.reading (d : Dashboard) : List (Event κ) :=
  .act (.jumpToPage 1) :: List.replicate (d.totalPages - 1) (.act .nextPage)

namespace Session

variable (svc : WalletService σ) (affect : κ → σ → σ) (s : Session σ)

/-- The session with the reader on page `p`. -/
def goTo (p : Nat) : Session σ := s.onDashboard fun d => { d with cursor := ⟨p⟩ }

/-- The next page, or the last one again. -/
theorem step_nextPage (p : Nat) :
    (s.goTo p).step svc affect (.act .nextPage) =
      (none, s.goTo (min (p + 1) s.dashboard.totalPages)) := by
  have ht : max s.dashboard.totalPages 1 = s.dashboard.totalPages :=
    Nat.max_eq_left (pageCount_pos _ _)
  have hc : (PageCursor.mk p).next s.dashboard.totalPages =
      ⟨min (p + 1) s.dashboard.totalPages⟩ := by
    rw [PageCursor.next, ht]
  show (none, s.onDashboard fun d =>
    { d with cursor := (PageCursor.mk p).next d.totalPages }) = _
  rw [goTo, onDashboard, onDashboard, hc]

/-- The first page can be turned to unless the feed is too long. -/
theorem step_jumpToPage_one (hl : s.dashboard.rewards.length < 2 ^ 63) :
    s.step svc affect (.act (.jumpToPage 1)) = (none, s.goTo 1) := by
  have hc : s.dashboard.totalPages ≤ max s.dashboard.rewards.length 1 := pageCount_le _ _
  have hm : max s.dashboard.totalPages 1 < PageCursor.jumpLimit := by
    unfold PageCursor.jumpLimit
    omega
  have hone : (clampInt 1 1 (max s.dashboard.totalPages 1 : Nat)).toNat = 1 := by
    unfold clampInt
    omega
  show (none, s.onDashboard fun d => d.jumpToPage 1) = _
  rw [goTo, onDashboard, onDashboard, Dashboard.jumpToPage, PageCursor.jump?, if_pos hm, hone,
    Option.getD_some]

/-- From page `p` the reader goes on page by page. -/
theorem trail_replicate_nextPage {p n : Nat} (h : p + n ≤ s.dashboard.totalPages) :
    (s.goTo p).trail svc affect (List.replicate n (.act .nextPage)) =
        (List.range' (p + 1) n).map (fun q => (none, s.goTo q)) ∧
      (s.goTo p).run svc affect (List.replicate n (.act .nextPage)) = s.goTo (p + n) := by
  induction n generalizing p with
  | zero => exact ⟨rfl, rfl⟩
  | succ n ih =>
    have hstep : (s.goTo p).step svc affect (.act .nextPage) = (none, s.goTo (p + 1)) := by
      rw [step_nextPage, Nat.min_eq_left (by omega)]
    obtain ⟨htrail, hrun⟩ := ih (p := p + 1) (by omega)
    constructor
    · rw [List.replicate_succ, trail, hstep, htrail, List.range'_succ, List.map_cons]
    · rw [List.replicate_succ, run_cons, hstep, hrun, Nat.add_right_comm, Nat.add_assoc]

/-- The reader stops once on every page, in order, and ends on the last one. -/
theorem trail_reading (hl : s.dashboard.rewards.length < 2 ^ 63) :
    s.trail svc affect s.dashboard.reading =
        (List.range' 1 s.dashboard.totalPages).map (fun q => (none, s.goTo q)) ∧
      s.run svc affect s.dashboard.reading = s.goTo s.dashboard.totalPages := by
  obtain ⟨n, hn⟩ : ∃ n, s.dashboard.totalPages = n + 1 :=
    Nat.exists_eq_add_of_le' (pageCount_pos _ _)
  have hstep := step_jumpToPage_one svc affect s hl
  obtain ⟨htrail, hrun⟩ := trail_replicate_nextPage svc affect s (p := 1) (n := n) (by omega)
  unfold Dashboard.reading
  rw [hn, Nat.add_sub_cancel]
  constructor
  · rw [trail, hstep, htrail, List.range'_succ, List.map_cons]
  · rw [run_cons, hstep, hrun, Nat.add_comm]

/-- **Page by page a list is read through, and so is the feed on the dashboard.** The first part is
about every list: its pages make it up, all but the last are full, and what is asked for beyond them
is answered with the nearest page. The second is about every session whose feed is not too long: the
reader who begins on the first page and turns to the next one as often as there are pages after it
has read the whole feed, in order, and the next page after that is the last one again. -/
theorem reading_through (items : List α) (size : PageSize)
    (hl : s.dashboard.rewards.length < 2 ^ 63) :
    let total := pageCount items.length size
    let page := fun r : Int => paginate items size r
    let d := s.dashboard
    let stops := s.trail svc affect d.reading
    let last := s.run svc affect d.reading
    (((List.range' 1 total).flatMap fun p : Nat => (page p).visible) = items ∧
        (∀ p : Nat, 1 ≤ p → p < total → (page p).visible.length = size.size) ∧
        ((page total).visible.length ≤ size.size ∧
          ((page total).visible.length = 0 ↔ items = [])) ∧
        ∀ r, page r = page (max 1 (min r total)) ∧ ((page r).number : Int) = max 1 (min r total)) ∧
      (stops.flatMap fun x => x.2.dashboard.activity.visible) = d.rewards ∧
        stops.map (fun x => x.2.dashboard.currentPage) = List.range' 1 d.totalPages ∧
        last.dashboard.currentPage = d.totalPages ∧ (last.perform svc .nextPage).2 = last := by
  intro total page d stops last
  have ht : 1 ≤ total := pageCount_pos _ _
  obtain ⟨hstops, hlast⟩ := trail_reading svc affect s hl
  refine ⟨⟨flatMap_visible_paginate items size, fun p h1 hp => length_visible_of_lt h1 hp,
    ⟨length_visible_le items size _, ?_⟩,
    fun r => ⟨paginate_clamped items size r, number_paginate_eq items size r⟩⟩, ?_, ?_, ?_, ?_⟩
  · rw [List.length_eq_zero_iff]
    exact visible_paginate_eq_nil_iff ht (Nat.le_refl _)
  · show (s.trail svc affect d.reading).flatMap _ = _
    rw [hstops, List.flatMap_map]
    exact flatMap_visible_paginate d.rewards d.pageSize
  · show (s.trail svc affect d.reading).map _ = _
    rw [hstops, List.map_map]
    exact List.map_id _
  · rw [show last = _ from hlast]
    rfl
  · have hnext := congrArg Prod.snd (step_nextPage svc affect s d.totalPages)
    rw [Nat.min_eq_right (Nat.le_succ _)] at hnext
    rw [show last = _ from hlast]
    exact hnext

/-- Three rewards on pages of two, and a list of four items beside them. -/
theorem reading_through_three_rewards :
    let mint : Nat → WalletExport := fun _ => ⟨"A", "aa", "acid"⟩
    let svc := MemoryState.service mint 50
    let mined : Event MemoryState.Change := .outside (.command (.mine "A" [] 7))
    let s := MemoryState.reached mint 50 ⟨2, by decide⟩
      [.act .createWallet, .act .acknowledgeExport, mined, mined, mined, .act .nextPage,
        .act .refresh]
    let stops := s.trail svc (MemoryState.change mint 50) s.dashboard.reading
    let last := s.run svc (MemoryState.change mint 50) s.dashboard.reading
    s.dashboard.rewards.length = 3 ∧ s.dashboard.totalPages = 2 ∧
      s.dashboard.rewards.length < 2 ^ 63 ∧
      ((List.range' 1 2).flatMap fun p : Nat =>
        (paginate ['a', 'b', 'c', 'd'] ⟨2, by decide⟩ p).visible) = ['a', 'b', 'c', 'd'] ∧
      (stops.flatMap fun x => x.2.dashboard.activity.visible) = s.dashboard.rewards ∧
      last.dashboard.currentPage = 2 ∧ (last.perform svc .nextPage).2 = last := by
  intro mint svc mined s stops last
  have hrewards : s.dashboard.rewards.length = 3 := by decide
  have hpages : s.dashboard.totalPages = 2 := by decide
  have hl : s.dashboard.rewards.length < 2 ^ 63 := by
    rw [hrewards]
    decide
  obtain ⟨⟨hitems, -⟩, hread, -, hlast, hnext⟩ :=
    reading_through svc (MemoryState.change mint 50) s ['a', 'b', 'c', 'd'] ⟨2, by decide⟩ hl
  exact ⟨hrewards, hpages, hl, hitems, hread, hlast.trans hpages, hnext⟩

end Session

end WalletDashboard
