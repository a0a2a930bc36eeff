import Mathlib.Data.List.DropRight
import WalletDashboard.Proofs.LoadedView

/-!
# The feed as a window on the chain

The service in memory hands out the last blocks of its chain (`List.rtake`), so that a dashboard
over it shows the end of the feed that the whole chain would have. When a block is mined, this
window moves on: the new block comes in, and the oldest one leaves, unless there was still room.

Blocks contribute to a feed one by one (`rewardFeed_append`), so the feed moves along in the same
way. What an old block contributed, be it nothing or much, is cut off in front, and what the new
block contributes is added at the end.

`MemoryState.feed_slides` says so of every load over every state that can be reached.
-/

namespace WalletDashboard

/-! ### The last blocks of a chain -/

section Window

variable {α : Type}

/-- As long as there is room, everything is among the last. -/
theorem rtake_of_length_le {l : List α} {n : Nat} (h : l.length ≤ n) : l.rtake n = l := by
  rw [List.rtake, Nat.sub_eq_zero_of_le h, List.drop_zero]

/-- Without room for all, the last `n + 1` are the last `n` and one before them. -/
theorem rtake_succ_of_lt {l : List α} {n : Nat} (h : n < l.length) :
    l.rtake (n + 1) = l[l.length - (n + 1)] :: l.rtake n := by
  have hnext : l.length - n = l.length - (n + 1) + 1 := by omega
  rw [List.rtake, List.rtake, hnext]
  exact List.drop_eq_getElem_cons (by omega)

theorem getLast?_rtake (l : List α) {n : Nat} (h : 0 < n) : (l.rtake n).getLast? = l.getLast? := by
  rw [List.rtake, List.getLast?_drop]
  split
  · next hle =>
    have hnil : l.length = 0 := by omega
    rw [List.length_eq_zero_iff.mp hnil, List.getLast?_nil]
  · rfl

end Window

/-- The feed of the last blocks is the end of the feed of all blocks. -/
theorem rewardFeed_rdrop_append_rtake (address : Option String) (chain : List Block)
    (window : Nat) :
    rewardFeed address (chain.rdrop window) ++ rewardFeed address (chain.rtake window) =
      rewardFeed address chain := by
  rw [← rewardFeed_append]
  exact congrArg (rewardFeed address) (List.take_append_drop _ _)

theorem rewardFeed_cons (address : Option String) (b : Block) (blocks : List Block) :
    rewardFeed address (b :: blocks) = rewardFeed address [b] ++ rewardFeed address blocks :=
  rewardFeed_append address [b] blocks

namespace MemoryState

variable {mint : Nat → WalletExport} {window : Nat} {m : MemoryState}

/-- The numbers of the last blocks follow one another, up to that of the whole chain. -/
theorem Numbered.map_index_rtake {chain : List Block} (h : Numbered chain) (window : Nat) :
    (chain.rtake window).map (·.index) =
      (List.range' (chain.length - window) (min window chain.length)).map UInt64.ofNat := by
  refine List.ext_getElem (by simp [List.rtake]; omega) fun i hi hi' => ?_
  rw [List.length_map, List.rtake, List.length_drop] at hi
  have hb : chain[chain.length - window + i]? = some chain[chain.length - window + i] :=
    List.getElem?_eq_getElem (by omega)
  simp only [List.rtake, List.getElem_map, List.getElem_drop, List.getElem_range', Nat.one_mul]
  exact h _ _ hb

/-! ### What is loaded -/

section Load

variable {s : Session MemoryState}

/-- A load goes through unless it needs the chain of a service that is offline. -/
theorem load_eq_true_iff_online (mint : Nat → WalletExport) (window : Nat)
    (hknown : s.service.ActiveKnown) :
    (s.load (service mint window)).1 = true ↔
      s.service.active = none ∨ s.service.offline = false := by
  cases ha : s.service.active with
  | none => exact ⟨fun _ => .inl rfl, fun _ => (Session.load_of_offers (offers_of_inactive ha)).1⟩
  | some address =>
    obtain ⟨w, hw⟩ := Option.isSome_iff_exists.mp (hknown address ha)
    rw [(load_of_open mint window (outcome_getWallet_of_active ha hw)).2.2]
    simp

/-- A load that goes through shows the feed of the active wallet in the last blocks. -/
theorem rewards_load_of_eq_true (hknown : s.service.ActiveKnown)
    (h : (s.load (service mint window)).1 = true) :
    (s.load (service mint window)).2.dashboard.rewards =
      rewardFeed s.service.active (s.service.blocks.rtake window) := by
  rcases ha : s.service.active with _ | address
  · rw [(Session.load_of_offers (offers_of_inactive ha)).2, Dashboard.rewards_showing]
    rfl
  · obtain ⟨w, hw⟩ := Option.isSome_iff_exists.mp (hknown address ha)
    have ho : s.service.offline = false := by
      simpa [ha] using (load_eq_true_iff_online mint window hknown).mp h
    rw [(Session.load_of_offers (offers_of_active ha hw ho)).2, Dashboard.rewards_showing]
    rfl

/-- Mining leaves the session of the service open, so the next load shows one more block. -/
theorem load_of_mined (mint : Nat → WalletExport) (window : Nat) {address : String}
    (hknown : s.service.ActiveKnown) (ha : s.service.active = some address)
    (ho : s.service.offline = false) (author : String) (transactions : List Transaction)
    (timestamp : UInt64) :
    let b := s.service.nextBlock author transactions timestamp
    let next :=
      (s.onService (·.mine author transactions timestamp)).load (service mint window)
    next.1 = true ∧
      next.2.dashboard.rewards =
        rewardFeed (some address) ((s.service.blocks ++ [b]).rtake window) := by
  intro b next
  let mined := s.onService (·.mine author transactions timestamp)
  have hknown' : mined.service.ActiveKnown := hknown
  have hgood : next.1 = true := (load_eq_true_iff_online mint window hknown').mpr (.inr ho)
  refine ⟨hgood, ?_⟩
  rw [← ha]
  exact rewards_load_of_eq_true hknown' hgood

end Load

/-! ### One more block -/

/-- As long as there is room, the feed only grows. -/
theorem rewardFeed_rtake_concat_of_lt (address : Option String) {chain : List Block} (b : Block)
    (h : chain.length < window) :
    rewardFeed address ((chain ++ [b]).rtake window) =
      rewardFeed address (chain.rtake window) ++ rewardFeed address [b] := by
  have hlength : (chain ++ [b]).length ≤ window := by
    rw [List.length_append]
    exact h
  rw [rtake_of_length_le hlength, rtake_of_length_le (by omega), rewardFeed_append]

/-- Without room, the oldest block takes with it what it contributed. -/
theorem rewardFeed_rtake_concat_of_le (address : Option String) {chain : List Block} (b : Block)
    (hpos : 0 < window) (h : window ≤ chain.length) :
    ∃ o rest, (chain.rtake window).head? = some o ∧
      rewardFeed address (chain.rtake window) = rewardFeed address [o] ++ rest ∧
      rewardFeed address ((chain ++ [b]).rtake window) = rest ++ rewardFeed address [b] := by
  obtain ⟨n, rfl⟩ : ∃ n, window = n + 1 := ⟨window - 1, by omega⟩
  rw [rtake_succ_of_lt h, List.rtake_concat_succ, rewardFeed_append]
  exact ⟨_, rewardFeed address (chain.rtake n), rfl, rewardFeed_cons .., rfl⟩

/-! ### Every load -/

/-- **The feed slides along the chain.** Whatever happened before, a load goes through unless it
needs the chain of a service that is offline. It then shows the end of the feed that the active
wallet has in the whole chain: the part that belongs to the last `window` blocks, whose numbers
follow one another up to that of the last block. If one more block is mined, the next load goes
through as well. What it adds at the end is the feed of the new block, and what it drops in front is
that of the block that leaves the window, which is none while there is room; a window for no blocks
stays empty. -/
theorem feed_slides (mint : Nat → WalletExport) (window : Nat) (size : PageSize)
    (events : List (Event Change)) {s : Session MemoryState}
    (hs : s.service = (reached mint window size events).service) :
    let svc := service mint window
    let chain := s.service.blocks
    let recent := chain.rtake window
    let feed := (s.load svc).2.dashboard.rewards
    chain = minedBlocks events ∧
    ((s.load svc).1 = true ↔ s.service.active = none ∨ s.service.offline = false) ∧
    ((s.load svc).1 = true →
      feed = rewardFeed s.service.active recent ∧
        rewardFeed s.service.active chain =
          rewardFeed s.service.active (chain.rdrop window) ++ feed) ∧
    recent.map (·.index) =
      (List.range' (chain.length - window) (min window chain.length)).map UInt64.ofNat ∧
    (0 < window → recent.getLast? = chain.getLast?) ∧
    ∀ a, s.service.active = some a → s.service.offline = false →
      ∀ author transactions timestamp,
        let b := s.service.nextBlock author transactions timestamp
        let next := ((s.load svc).2.onService (·.mine author transactions timestamp)).load svc
        let feed' := next.2.dashboard.rewards
        next.1 = true ∧
          (window = 0 → feed = [] ∧ feed' = []) ∧
          (chain.length < window → feed' = feed ++ rewardFeed (some a) [b]) ∧
          (0 < window → window ≤ chain.length →
            ∃ o rest, recent.head? = some o ∧ feed = rewardFeed (some a) [o] ++ rest ∧
              feed' = rest ++ rewardFeed (some a) [b]) := by
  intro svc chain recent feed
  obtain ⟨hchain, hnumbered⟩ : chain = minedBlocks events ∧ Numbered chain := by
    have hreached := blocks_reached mint window size events
    rw [← hs] at hreached
    obtain ⟨hblocks, hnumbered⟩ := hreached
    exact ⟨hblocks, by rwa [← hblocks] at hnumbered⟩
  have hknown : s.service.ActiveKnown := by
    rw [hs]
    exact activeKnown_reached size events
  have hgood := load_eq_true_iff_online mint window hknown
  have hfeed : (s.load svc).1 = true → feed = rewardFeed s.service.active recent :=
    rewards_load_of_eq_true hknown
  refine ⟨hchain, hgood, fun h => ⟨hfeed h, ?_⟩, hnumbered.map_index_rtake window,
    getLast?_rtake chain, ?_⟩
  · rw [hfeed h, rewardFeed_rdrop_append_rtake]
  · intro a ha ho author transactions timestamp b next feed'
    have hold : feed = rewardFeed (some a) recent := by
      rw [hfeed (hgood.mpr (.inr ho)), ha]
    have hsame : (s.load svc).2.service = s.service :=
      Session.service_load_of_onlyReads (onlyReads_service mint window)
    rw [← hsame] at hknown ha ho
    obtain ⟨hgood', hnew⟩ : next.1 = true ∧ feed' = _ :=
      load_of_mined mint window hknown ha ho author transactions timestamp
    rw [hsame] at hnew
    refine ⟨hgood', ?_, fun hroom => ?_, fun hpos hfull => ?_⟩
    · rintro rfl
      rw [hold, hnew, show recent = [] from List.rtake_zero _, List.rtake_zero, rewardFeed_nil]
      exact ⟨rfl, rfl⟩
    · rw [hold, hnew]
      exact rewardFeed_rtake_concat_of_lt _ b hroom
    · rw [hold, hnew]
      exact rewardFeed_rtake_concat_of_le _ b hpos hfull

/-- The window holds two blocks, and `A` is shown. The oldest block, which paid `A` twice, leaves it
when a block is mined that pays nothing. -/
theorem feed_slides_past_payments :
    let mint (_ : Nat) : WalletExport := default
    let t : Transaction := ⟨"t", "SYSTEM", "A", 7, 60, ""⟩
    let events : List (Event Change) :=
      [.outside (.command (.addWallet ⟨"A", "aa", "acid"⟩)), .act (.importWallet "aa"),
        .outside (.command (.mine "B" [t, t] 60)), .outside (.command (.mine "A" [] 61))]
    let s := reached mint 2 ⟨6, by decide⟩ events
    let svc := service mint 2
    let next := ((s.load svc).2.onService (·.mine "B" [] 62)).load svc
    let feed := (s.load svc).2.dashboard.rewards
    (s.load svc).1 = true ∧ s.service.active = some "A" ∧ s.service.offline = false ∧
      (0 < 2 ∧ 2 ≤ s.service.blocks.length) ∧
      feed = rewardFeed (some "A") (s.service.blocks.rtake 2) ∧ feed.length = 3 ∧ next.1 = true ∧
      (∃ o rest, (s.service.blocks.rtake 2).head? = some o ∧
        feed = rewardFeed (some "A") [o] ++ rest ∧
        next.2.dashboard.rewards =
          rest ++ rewardFeed (some "A") [s.service.nextBlock "B" [] 62]) ∧
      next.2.dashboard.rewards.length = 1 := by
  intro mint t events s svc next feed
  have ha : s.service.active = some "A" := by decide +kernel
  have ho : s.service.offline = false := by decide +kernel
  have hfull : 0 < 2 ∧ 2 ≤ s.service.blocks.length := by decide +kernel
  have hthree : feed.length = 3 := by decide +kernel
  have hone : next.2.dashboard.rewards.length = 1 := by decide +kernel
  have hs : s.service = (reached mint 2 ⟨6, by decide⟩ events).service := rfl
  -- From here on the session stands for itself, so that it is not worked out again.
  clear_value s
  obtain ⟨-, hgood, hfeed, -, -, hnext⟩ := feed_slides mint 2 ⟨6, by decide⟩ events hs
  have hload : (s.load svc).1 = true := hgood.mpr (.inr ho)
  obtain ⟨hgood', -, -, hslide⟩ := hnext "A" ha ho "B" [] 62
  have hrewards := (hfeed hload).1
  rw [ha] at hrewards
  exact ⟨hload, ha, ho, hfull, hrewards, hthree, hgood', hslide hfull.1 hfull.2, hone⟩

end MemoryState

end WalletDashboard
