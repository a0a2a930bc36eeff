import WalletDashboard.Proofs.Operations
import WalletDashboard.Proofs.Pages

/-!
# The dashboard stays coherent

A dashboard is coherent if its feed is the one that its mode and its blocks call for, the reader is
on a page that there is, and no refresh is going on. Whatever the service answers, an operation may
stop half-way: a failed reload keeps the old blocks under the new mode, and the secrets of a new
wallet are shown over the blocks of the old one. Still every move either works the feed out anew and
pulls the cursor back (`coherent_refeed`) or touches neither the mode nor the blocks, so that no
move breaks coherence (`Move.coherent`).

`coherent_run` says of every run what follows for the feed, the page and the numbers that are shown.
-/

namespace WalletDashboard

namespace Dashboard

/-- The parts of the dashboard fit together. -/
structure Coherent (d : Dashboard) : Prop where
  rewards_eq : d.rewards = rewardFeed d.mode.address? d.blocks
  one_le_page : 1 ≤ d.cursor.page
  page_le : d.cursor.page ≤ d.totalPages
  settled : d.refreshing = false

theorem coherent_start (size : PageSize) : Coherent { pageSize := size } where
  rewards_eq := rfl
  one_le_page := Nat.le_refl _
  page_le := pageCount_pos _ _
  settled := rfl

/-- Working the feed out anew makes a dashboard coherent. -/
theorem coherent_refeed {d : Dashboard} (h : d.refreshing = false) : d.refeed.Coherent where
  rewards_eq := rfl
  one_le_page := PageCursor.one_le_page_clampTo _ _
  page_le := by
    have hle := PageCursor.page_clampTo_le
      (pageCount (rewardFeed d.mode.address? d.blocks).length d.pageSize) d.cursor
    rwa [Nat.max_eq_left (pageCount_pos _ _)] at hle
  settled := h

/-- Moving the cursor to a page that there is keeps a dashboard coherent. -/
theorem Coherent.withCursor {d : Dashboard} (hd : d.Coherent) {c : PageCursor} (h1 : 1 ≤ c.page)
    (hc : c.page ≤ d.totalPages) : Coherent { d with cursor := c } where
  rewards_eq := hd.rewards_eq
  one_le_page := h1
  page_le := hc
  settled := hd.settled

theorem Coherent.nextPage {d : Dashboard} (hd : d.Coherent) : d.nextPage.Coherent := by
  have ht := pageCount_pos d.rewards.length d.pageSize
  have hmax : max d.totalPages 1 = d.totalPages := Nat.max_eq_left ht
  apply hd.withCursor <;> simp only [PageCursor.next, hmax]
  · exact Nat.le_min.mpr ⟨Nat.le_add_left 1 _, ht⟩
  · exact Nat.min_le_right _ _

theorem Coherent.previousPage {d : Dashboard} (hd : d.Coherent) : d.previousPage.Coherent := by
  have h1 := hd.one_le_page
  have hp := hd.page_le
  apply hd.withCursor <;> simp only [PageCursor.previous]
  · exact Nat.le_max_right _ _
  · omega

theorem Coherent.jumpToPage {d : Dashboard} (hd : d.Coherent) (page : Int) :
    (d.jumpToPage page).Coherent := by
  have ht : 1 ≤ d.totalPages := pageCount_pos d.rewards.length d.pageSize
  apply hd.withCursor <;> simp only [PageCursor.jump?, clampInt] <;> split
  · simp only [Option.getD_some]; omega
  · exact hd.one_le_page
  · simp only [Option.getD_some]; omega
  · exact hd.page_le

/-- Without an active wallet a coherent dashboard shows the one page of an empty feed. -/
theorem Coherent.empty_of_wallet?_eq_none {d : Dashboard} (hd : d.Coherent)
    (h : d.mode.wallet? = none) : d.rewards = [] ∧ d.currentPage = 1 ∧ d.totalPages = 1 := by
  have hr : d.rewards = [] := by
    rw [hd.rewards_eq, Mode.address?, h]
    rfl
  have ht : d.totalPages = 1 := by simp [totalPages, hr]
  have h1 := hd.one_le_page
  have hp := hd.page_le
  rw [ht] at hp
  exact ⟨hr, by unfold currentPage; omega, ht⟩

end Dashboard

/-- No move makes a dashboard incoherent. -/
theorem Move.coherent {σ : Type} {svc : WalletService σ} {x y : Dashboard × σ}
    (h : Move svc x y) (hd : x.1.Coherent) : y.1.Coherent := by
  cases h with
  | call | noteHeight | switch => exact ⟨hd.rewards_eq, hd.one_le_page, hd.page_le, hd.settled⟩
  | showWallet | showSecrets | loadBlocks | clearBlocks =>
    exact Dashboard.coherent_refeed hd.settled
  | settle => exact ⟨hd.rewards_eq, hd.one_le_page, hd.page_le, rfl⟩
  | nextPage => exact hd.nextPage
  | previousPage => exact hd.previousPage
  | jumpToPage d m page => exact hd.jumpToPage page

namespace Session

variable {σ κ : Type}

/-- The invariant alone carries the induction; everything that is shown follows from it. -/
theorem coherent_dashboard_run (svc : WalletService σ) (affect : κ → σ → σ) (size : PageSize)
    (service : σ) (events : List (Event κ)) :
    ((start size service).run svc affect events).dashboard.Coherent :=
  run_keeps_core svc affect (P := fun x => x.1.Coherent) (fun _ _ h => h.coherent)
    (fun _ _ _ h => h) (s := start size service) (Dashboard.coherent_start size) events

/-- **The feed, the page and what is shown of them fit together in every run.** The last part says
that the cursor can be sent to any page while the feed has fewer than `2 ^ 63` rewards. -/
theorem coherent_run (svc : WalletService σ) (affect : κ → σ → σ) (size : PageSize) (service : σ)
    (events : List (Event κ)) :
    let d := ((start size service).run svc affect events).dashboard
    d.rewards = rewardFeed d.mode.address? d.blocks ∧
      (1 ≤ d.currentPage ∧ d.currentPage ≤ d.totalPages) ∧
      (d.activity.number = d.currentPage ∧ d.activity.total = d.totalPages) ∧
      (d.activity.visible = [] ↔ d.rewards = []) ∧
      ((d.mode = .noWallet ∨ ∃ e, d.mode = .justCreated e) →
        d.rewards = [] ∧ d.currentPage = 1 ∧ d.totalPages = 1) ∧
      d.refreshing = false ∧
      (d.rewards.length < 2 ^ 63 → ∀ page, (d.cursor.jump? page d.totalPages).isSome) := by
  intro d
  have hd : d.Coherent := coherent_dashboard_run svc affect size service events
  have hpage := hd.page_le
  refine ⟨hd.rewards_eq, ⟨hd.one_le_page, hpage⟩, ⟨number_paginate hd.one_le_page hpage, rfl⟩,
    visible_paginate_eq_nil_iff hd.one_le_page hpage, ?_, hd.settled, ?_⟩
  · rintro (hm | ⟨e, hm⟩) <;> exact hd.empty_of_wallet?_eq_none (by rw [hm]; rfl)
  · intro hl page
    have hc : d.totalPages ≤ max d.rewards.length 1 := pageCount_le _ _
    apply PageCursor.jump?_isSome
    unfold PageCursor.jumpLimit
    omega

end Session

end WalletDashboard
