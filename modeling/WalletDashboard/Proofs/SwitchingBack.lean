import WalletDashboard.Proofs.LoadedView
import WalletDashboard.Proofs.PageTurning

/-!
# Switching away from a wallet and back

To confirm a switch is to end the session of the service and to load what is left, which is nothing.
All that the dashboard worked out is gone then, but the service has lost nothing but its session. So
the key of the wallet brings everything back, only that the feed is read from its first page again.

* `Dashboard.showing_away_and_back`: what a dashboard shows again is all that it was, up to the
  page.
* `MemoryState.confirmSwitch_of_request` and `MemoryState.importWallet_of_selects` are the two
  halves of the way, and `MemoryState.switch_and_back` puts them together.
-/

namespace WalletDashboard

namespace Dashboard

variable (d : Dashboard) (wallet : Option Wallet) (blocks : List Block)

/-- Of what was shown before, only the page can make a difference. -/
theorem showing_eq :
    d.showing wallet blocks =
      { d with
        mode := Mode.ofWallet? wallet
        blocks
        rewards := rewardFeed (wallet.map (·.address)) blocks
        cursor := (d.showing wallet blocks).cursor } := by
  cases wallet <;> rfl

/-- Another address is shown from its first page. -/
theorem currentPage_showing_of_ne (h : wallet.map (·.address) ≠ d.mode.address?) :
    (d.showing wallet blocks).currentPage = 1 := by
  have hmode : (Mode.ofWallet? wallet).address? ≠ d.mode.address? := by
    cases wallet <;> exact h
  have hturn : (d.turnTo (Mode.ofWallet? wallet)).currentPage = 1 :=
    (Turns.turnTo d _).address_or_first.resolve_left hmode
  exact PageCursor.page_clampTo_of_eq_one hturn _

/-- What was shown comes back from nothing, on its first page. -/
theorem showing_away_and_back (w : Wallet) (switch : SwitchConfirm) :
    (({ d.showing (some w) blocks with switch }.showing none []).showing (some w) blocks) =
      { d.showing (some w) blocks with cursor := ⟨1⟩, switch } := by
  let away := { d.showing (some w) blocks with switch }.showing none []
  have hpage : (away.showing (some w) blocks).cursor = ⟨1⟩ :=
    congrArg PageCursor.mk (currentPage_showing_of_ne away (some w) blocks nofun)
  show away.showing (some w) blocks = _
  rw [showing_eq away, hpage]
  rfl

end Dashboard

namespace MemoryState

variable {m : MemoryState} {s : Session MemoryState} {key address : String} {w : StoredWallet}

/-! ### What the service answers -/

/-- The wallet that the service answers with is the active one. -/
theorem active_of_getWallet {shown : Wallet} (h : (getWallet m).outcome = .ok (some shown)) :
    m.active = some shown.address ∧
      ∃ w, m.stored? shown.address = some w ∧ w.balance = shown.balance := by
  simp only [getWallet, Reply.answer, Except.ok.injEq, Option.bind_eq_some_iff,
    Option.map_eq_some_iff] at h
  obtain ⟨address, hactive, w, hw, rfl⟩ := h
  exact ⟨hactive, w, hw, rfl⟩

theorem logout_of_allowed (h : m.failLogout = false) :
    (logout m).outcome = .ok () ∧ (logout m).state = { m with active := none } := by
  simp only [logout, h, Bool.false_eq_true, if_false, and_self]

/-- A key that belongs to one wallet alone selects it. -/
theorem selected?_of_matches_iff (hw : m.stored? address = some w)
    (h : ∀ a v, (a, v) ∈ m.wallets → (v.matches (phraseOf key) = true ↔ a = address)) :
    m.selected? (Text.trim key) = some address := by
  let kept : WalletExport := ⟨address, w.privateKey, w.mnemonic⟩
  have hmatch : w.matches (phraseOf key) = true := (h address w (mem_of_stored? hw)).mpr rfl
  have hselected : m.selected? key = some kept.address :=
    selected?_of_stores ⟨w.balance, hw⟩ (fun _ => hmatch) fun a v hv => (h a v hv).mp
  rwa [selected?_eq_find?, phraseOf_trim, ← selected?_eq_find?]

/-! ### Away and back -/

section Ways

variable (mint : Nat → WalletExport) (window : Nat)

/-- A load that goes through and shows a wallet shows the active one, over the recent blocks. -/
theorem showing_of_load {shown : Wallet} (hload : (s.load (service mint window)).1 = true)
    (hmode : (s.load (service mint window)).2.dashboard.mode = .active shown) :
    s.service.offline = false ∧ (getWallet s.service).outcome = .ok (some shown) ∧
      (s.load (service mint window)).2.dashboard =
        s.dashboard.showing (some shown)
          (s.service.blocks.drop (s.service.blocks.length - window)) := by
  obtain ⟨wallet, blocks, hoffers⟩ := Session.load_eq_true_iff.mp hload
  have hview := (Session.load_of_offers hoffers).2
  rw [hview, Dashboard.mode_showing] at hmode
  cases wallet with
  | none => cases hmode
  | some w =>
    obtain rfl : w = shown := Mode.active.inj hmode
    obtain ⟨hget, hrecent⟩ := hoffers
    have ho : s.service.offline = false := ((load_of_open mint window hget).2.2).mp hload
    have hblocks : blocks = s.service.blocks.drop (s.service.blocks.length - window) :=
      Except.ok.inj (hrecent.symm.trans (outcome_recentBlocks_of_online ho))
    exact ⟨ho, hget, by rw [hview, hblocks]⟩

/-- A switch that is requested and confirmed leads to nothing, and the service loses its session
only. -/
theorem confirmSwitch_of_request (h : s.service.failLogout = false) :
    let r := s.requestSwitch.confirmSwitch (service mint window)
    r.dashboard = { s.dashboard with switch := .closed }.showing none [] ∧
      r.service = { s.service with active := none } := by
  intro r
  obtain ⟨hok, hstate⟩ := logout_of_allowed h
  let closed := s.requestSwitch.onDashboard ({ · with switch := .closed })
  let left := (closed.ask (service mint window).logout).2.write
    [⟨.info, "[Dashboard] Logged out, ready for another wallet"⟩]
  have hleft : left.service = { s.service with active := none } := hstate
  have hr : r = (left.load (service mint window)).2 := Session.confirmSwitch_of_ok rfl hok
  have hoffers : (service mint window).Offers left.service none [] :=
    offers_of_inactive (by rw [hleft])
  rw [hr]
  refine ⟨(Session.load_of_offers hoffers).2, ?_⟩
  rw [Session.service_load_of_onlyReads (onlyReads_service mint window), hleft]

/-- An import leads to the wallet that is selected, if the service is online. -/
theorem importWallet_of_selects (hkey : Text.trim key ≠ "")
    (hselected : s.service.selected? (Text.trim key) = some address)
    (hw : s.service.stored? address = some w) (ho : s.service.offline = false) :
    ∃ t, s.importWallet (service mint window) key = (true, t) ∧
      t.dashboard =
        s.dashboard.showing (some ⟨address, w.balance⟩)
          (s.service.blocks.drop (s.service.blocks.length - window)) ∧
      t.service = { s.service with active := some address } := by
  obtain ⟨opened, hr, hopened, hdashboard⟩ := importWallet_eq_load mint window hkey hselected
  have hoffers : (service mint window).Offers opened.service (some ⟨address, w.balance⟩)
      (s.service.blocks.drop (s.service.blocks.length - window)) := by
    rw [hopened]
    exact offers_of_active (m := { s.service with active := some address }) rfl hw ho
  obtain ⟨hgood, hview⟩ := Session.load_of_offers hoffers
  refine ⟨(opened.load (service mint window)).2, ?_, ?_, ?_⟩
  · rw [hr, ← hgood]
  · rw [hview, hdashboard]
  · rw [Session.service_load_of_onlyReads (onlyReads_service mint window), hopened]

end Ways

/-- **To switch away from a wallet and import it again changes nothing but the page.** After a load
that shows the wallet, a switch that is requested and confirmed leads to the empty view and ends the
session of the service, unless the logout is made to fail. A key that belongs to the wallet and to
no other then brings back what was shown, the balance, the feed and the block height included, on
the first page and with nothing left to confirm. Of the service nothing but the session is ever
touched, and in the end it is open again. -/
theorem switch_and_back (mint : Nat → WalletExport) (window : Nat) {start : Session MemoryState}
    (hload : (start.load (service mint window)).1 = true) {shown : Wallet}
    (hmode : (start.load (service mint window)).2.dashboard.mode = .active shown)
    (hlogout : start.service.failLogout = false) {key : String} (hkey : Text.trim key ≠ "")
    (hmatch : ∀ a v, (a, v) ∈ start.service.wallets →
      (v.matches (phraseOf key) = true ↔ a = shown.address)) :
    let svc := service mint window
    let s := (start.load svc).2
    let asked := s.requestSwitch
    let away := asked.confirmSwitch svc
    let back := away.importWallet svc key
    asked.service = s.service ∧
    (away.dashboard.mode = .noWallet ∧ away.dashboard.rewards = [] ∧
      away.dashboard.currentPage = 1 ∧ away.dashboard.totalPages = 1 ∧
      away.service = { s.service with active := none }) ∧
    (back.1 = true ∧ back.2.dashboard = { s.dashboard with cursor := ⟨1⟩, switch := .closed } ∧
      back.2.service = s.service) := by
  intro svc s asked away back
  obtain ⟨ho, hget, hs⟩ : _ ∧ _ ∧ s.dashboard = _ := showing_of_load mint window hload hmode
  obtain ⟨hactive, w, hw, hbalance⟩ := active_of_getWallet hget
  have hservice : s.service = start.service :=
    Session.service_load_of_onlyReads (onlyReads_service mint window)
  obtain ⟨hawayView, hawayService⟩ : away.dashboard = _ ∧ away.service = _ :=
    confirmSwitch_of_request mint window (by rwa [hservice])
  have hawayStart : away.service = { start.service with active := none } := by
    rw [hawayService, hservice]
  have hselected : away.service.selected? (Text.trim key) = some shown.address := by
    rw [hawayStart]
    exact selected?_of_matches_iff hw hmatch
  have hstored : away.service.stored? shown.address = some w := by
    rw [hawayStart]
    exact hw
  obtain ⟨t, ht, hview, hopened⟩ :=
    importWallet_of_selects mint window hkey hselected hstored (by rw [hawayStart]; exact ho)
  have hwallet : (⟨shown.address, w.balance⟩ : Wallet) = shown := by rw [hbalance]
  rw [show back = (true, t) from ht]
  refine ⟨rfl, ⟨?_, ?_, ?_, ?_, hawayService⟩, rfl, ?_, ?_⟩
  · rw [hawayView]
    rfl
  · rw [hawayView]
    rfl
  · rw [hawayView, hs]
    exact Dashboard.currentPage_showing_of_ne _ _ _ nofun
  · rw [hawayView]
    exact pageCount_zero _
  · rw [hview, hwallet, hawayView, hs, hawayStart]
    exact Dashboard.showing_away_and_back _ _ _ _
  · rw [hopened, hawayStart, hservice, ← hactive]

/-- The wallet was on its second page, and is brought back by its phrase. Another wallet is
registered beside it. -/
theorem switch_and_back_second_page :
    let svc := service (fun _ => default) 50
    let events : List (Event Change) :=
      [.outside (.command (.addWallet ⟨"A", "aa", "acid able"⟩)),
        .outside (.command (.addWallet ⟨"B", "bb", "baby"⟩)),
        .outside (.command (.mine "A" [] 60)), .outside (.command (.mine "A" [] 61)),
        .act (.importWallet "aa"), .act .refresh, .act .nextPage]
    let start := reached (fun _ => default) 50 ⟨1, by decide⟩ events
    let s := (start.load svc).2
    let away := s.requestSwitch.confirmSwitch svc
    let back := away.importWallet svc " Acid  ABLE"
    (start.load svc).1 = true ∧ s.dashboard.mode = .active ⟨"A", 500004000000000⟩ ∧
      s.dashboard.currentPage = 2 ∧ s.dashboard.rewards.length = 2 ∧
      s.dashboard.blockHeight = some 1 ∧ away.dashboard.mode = .noWallet ∧
      away.service.active = none ∧ back.1 = true ∧
      back.2.dashboard = { s.dashboard with cursor := ⟨1⟩, switch := .closed } ∧
      back.2.service = s.service := by
  intro svc events start s away back
  have hload : (start.load svc).1 = true := by decide +kernel
  have hmode : s.dashboard.mode = .active ⟨"A", 500004000000000⟩ := by decide +kernel
  have hlogout : start.service.failLogout = false := by decide +kernel
  have hkey : Text.trim " Acid  ABLE" ≠ "" := by decide +kernel
  have hmatch : ∀ a v, (a, v) ∈ start.service.wallets →
      (v.matches (phraseOf " Acid  ABLE") = true ↔ a = "A") := by
    have hall : ∀ entry ∈ start.service.wallets,
        (entry.2.matches (phraseOf " Acid  ABLE") = true ↔ entry.1 = "A") := by decide +kernel
    exact fun a v hv => hall (a, v) hv
  have hpage : s.dashboard.currentPage = 2 := by decide +kernel
  have hfeed : s.dashboard.rewards.length = 2 := by decide +kernel
  have hheight : s.dashboard.blockHeight = some 1 := by decide +kernel
  -- From here on the session stands for itself, so that it is not worked out again.
  clear_value start
  obtain ⟨-, ⟨haway, -, -, -, hsession⟩, hgood, hview, hservice⟩ :=
    switch_and_back (fun _ => default) 50 hload hmode hlogout hkey hmatch
  exact ⟨hload, hmode, hpage, hfeed, hheight, haway, congrArg active hsession, hgood, hview,
    hservice⟩

end MemoryState

end WalletDashboard
