import WalletDashboard.Proofs.Bookkeeping
import WalletDashboard.Proofs.Secrecy
import WalletDashboard.Proofs.Spelling

/-!
# New wallets can be imported again

What is stored of a new wallet is never lost: other wallets are registered beside it, and its
balance may change, but its secrets stay as they were handed out (`stores_run`), unless its address
is registered anew from outside. So its key or phrase, in whatever way it is written, opens its
session again (`importWallet_of_selected`), unless it belongs to another wallet as well. The
dashboard then shows the wallet, also if its blocks cannot be loaded (`dashboard_importWallet`).
-/

namespace WalletDashboard

namespace MemoryState

variable {mint : Nat → WalletExport} {window : Nat} {m : MemoryState} {e : WalletExport}

/-! ### What is stored of a wallet -/

/-- The wallet is registered with its secrets as they were handed out. -/
def Stores (e : WalletExport) (m : MemoryState) : Prop :=
  ∃ balance, m.stored? e.address = some ⟨e.privateKey, e.mnemonic, balance⟩

/-- A wallet that is registered under another address changes nothing. -/
theorem Stores.register {address : String} {stored : StoredWallet} (h : m.Stores e)
    (hne : e.address ≠ address) :
    Stores e { m with wallets := MemoryState.register address stored m.wallets } := by
  obtain ⟨balance, hb⟩ := h
  refine ⟨balance, ?_⟩
  show (MemoryState.register address stored m.wallets).lookup e.address = _
  rw [lookup_register, if_neg hne]
  exact hb

/-- No call touches the secrets of a registered wallet. -/
theorem Effect.stores {m' : MemoryState} (he : Effect mint m m') (h : m.Stores e) :
    m'.Stores e := by
  cases he with
  | nothing | drawn | opened | measured | closed => exact h
  | created hfree =>
    -- The address of the wallet is taken, so the new one has another.
    have hne : e.address ≠ (mint m.draws).address := by
      obtain ⟨balance, hb⟩ := h
      intro heq
      rw [← heq, hb] at hfree
      cases hfree
    exact h.register hne
  | balanced address w ha hw =>
    by_cases heq : e.address = address
    · obtain ⟨balance, hb⟩ := h
      rw [heq, hw] at hb
      cases hb
      refine ⟨balanceOf address m.blocks, ?_⟩
      show (MemoryState.register address _ m.wallets).lookup e.address = _
      rw [lookup_register, if_pos heq]
    · exact h.register heq

/-- A change from elsewhere touches the secrets only if it registers the address anew. -/
theorem Stores.change (h : m.Stores e) {k : Change}
    (hk : ∀ e', k = .command (.addWallet e') → e'.address ≠ e.address) :
    (MemoryState.change mint window k m).Stores e := by
  cases k with
  | call c => exact (effect_call c m).stores h
  | command c =>
    cases c with
    | addWallet e' => exact h.register (hk e' rfl).symm
    | mine | setOffline | failWalletRefresh | failBlockHeight | failLogout => exact h

/-- What is stored of a wallet is not lost in the course of a run. -/
theorem stores_run (mint : Nat → WalletExport) (window : Nat) {s : Session MemoryState}
    (hs : s.service.Stores e) {events : List (Event Change)}
    (hevents : ∀ e', .outside (.command (.addWallet e')) ∈ events → e'.address ≠ e.address) :
    (s.run (service mint window) (change mint window) events).service.Stores e := by
  induction events generalizing s with
  | nil => exact hs
  | cons event events ih =>
    refine ih ?_ fun e' he' => hevents e' (List.mem_cons_of_mem event he')
    cases event with
    | act a =>
      exact (Session.perform_moves (service mint window) s a).keeps (P := fun x => x.2.Stores e)
        (fun _ _ h => h.keeps_service fun c m => (effect_call c m).stores) hs
    | outside k =>
      refine hs.change fun e' hk => hevents e' ?_
      rw [hk]
      exact List.mem_cons_self
    | readerLeaves => exact hs

/-- The events in which the service makes a wallet. -/
inductive IsCreation : Event Change → Prop
  | act : IsCreation (.act .createWallet)
  | call : IsCreation (.outside (.call .createWallet))

/-- A wallet that is made is the one that was drawn, and it is registered with its secrets. -/
theorem created_of_ok (h : (createWallet mint m).outcome = .ok e) :
    e = mint m.draws ∧ (createWallet mint m).state.Stores e := by
  by_cases htaken : (m.stored? (mint m.draws).address).isSome = true
  · rw [createWallet_of_taken mint _ htaken] at h
    cases h
  · rw [createWallet_of_free mint _ htaken] at h ⊢
    cases h
    refine ⟨rfl, 0, ?_⟩
    show (MemoryState.register _ _ m.wallets).lookup (mint m.draws).address = _
    rw [lookup_register, if_pos rfl]

theorem stores_of_created (window : Nat) {s : Session MemoryState} {event : Event Change}
    (hevent : IsCreation event) (h : (createWallet mint s.service).outcome = .ok e) :
    (s.step (service mint window) (change mint window) event).2.service.Stores e := by
  have hstate : (createWallet mint s.service).state.Stores e := (created_of_ok h).2
  cases hevent with
  | act =>
    have hsvc : ((service mint window).createWallet s.service).outcome = .ok e := h
    show (s.createWallet (service mint window)).service.Stores e
    rw [Session.createWallet_of_ok hsvc, Session.service_turnTo, Session.service_notify]
    exact hstate
  | call => exact hstate

/-! ### Importing it -/

theorem selected?_eq_find? (key : String) (m : MemoryState) :
    m.selected? key =
      (m.wallets.find? fun entry => entry.2.matches (phraseOf key)).map Prod.fst := rfl

/-- A key or phrase that belongs to a stored wallet and to no other selects it. -/
theorem selected?_of_stores {key : String} (h : m.Stores e)
    (hmatch : ∀ balance,
      (⟨e.privateKey, e.mnemonic, balance⟩ : StoredWallet).matches (phraseOf key) = true)
    (hother : ∀ a w, (a, w) ∈ m.wallets → w.matches (phraseOf key) = true → a = e.address) :
    m.selected? key = some e.address := by
  obtain ⟨balance, hb⟩ := h
  rw [selected?_eq_find?]
  cases hfind : m.wallets.find? fun entry => entry.2.matches (phraseOf key) with
  | none =>
    have hnone := List.find?_eq_none.mp hfind _ (mem_of_stored? hb)
    exact absurd (hmatch balance) hnone
  | some entry =>
    obtain ⟨a, w⟩ := entry
    have hmem : (a, w) ∈ m.wallets := List.mem_of_find?_eq_some hfind
    have hw := List.find?_some hfind
    rw [hother a w hmem hw]
    rfl

theorem importWallet_of_selected {key address : String} (h : m.selected? key = some address) :
    (importWallet key m).outcome = .ok () ∧
      (importWallet key m).state = { m with active := some address } := by
  rw [importWallet_eq_openSession, h]
  exact ⟨rfl, rfl⟩

theorem outcome_getWallet_of_active {address : String} {w : StoredWallet}
    (ha : m.active = some address) (hw : m.stored? address = some w) :
    (getWallet m).outcome = .ok (some ⟨address, w.balance⟩) := by
  show Except.ok (m.active.bind _) = _
  rw [ha, Option.bind_some, hw]
  rfl

theorem outcome_getWallet_of_inactive (ha : m.active = none) :
    (getWallet m).outcome = .ok none := by
  show Except.ok (m.active.bind _) = _
  rw [ha]
  rfl

/-- Once its session is open, the service answers with the wallet. -/
theorem getWallet_of_stores (h : m.Stores e) :
    ∃ balance, (getWallet { m with active := some e.address }).outcome =
      .ok (some ⟨e.address, balance⟩) := by
  obtain ⟨balance, hb⟩ := h
  exact ⟨balance, outcome_getWallet_of_active (m := { m with active := some e.address }) rfl hb⟩

theorem state_recentBlocks (window : Nat) (m : MemoryState) :
    (recentBlocks window m).state = m := by
  unfold recentBlocks
  split <;> rfl

/-- A load over an open session shows its wallet, and goes through exactly if the service is
online. -/
theorem load_of_open (mint : Nat → WalletExport) (window : Nat) {s : Session MemoryState}
    {w : Wallet}
    (hw : (getWallet s.service).outcome = .ok (some w)) :
    (s.load (service mint window)).2.service = s.service ∧
      (s.load (service mint window)).2.dashboard.mode = .active w ∧
        ((s.load (service mint window)).1 = true ↔ s.service.offline = false) := by
  have hget : ((service mint window).getWallet s.service).outcome = .ok (some w) := hw
  let s₁ := (s.ask (service mint window).getWallet).2.turnTo (.active w)
  have hs₁ : s₁.service = s.service := Session.service_turnTo _ _
  have haddress : s₁.dashboard.mode.address? = some w.address := by
    rw [Session.dashboard_turnTo]
    rfl
  have hservice : (s₁.ask (service mint window).recentBlocks).2.service = s.service :=
    (state_recentBlocks window s₁.service).trans hs₁
  cases ho : s.service.offline with
  | false =>
    have hb : ((service mint window).recentBlocks s₁.service).outcome =
        .ok (s.service.blocks.drop (s.service.blocks.length - window)) := by
      rw [hs₁]
      exact outcome_recentBlocks_of_online ho
    have hload := Session.load_of_ok
      ((Session.tryLoad_of_ok hget).trans (Session.reloadBlocks_of_ok haddress hb))
    refine ⟨?_, Session.mode_load_of_ok hget, ?_⟩
    · rw [hload]
      exact hservice
    · rw [hload]
      exact ⟨fun _ => rfl, fun _ => rfl⟩
  | true =>
    have hb : ((service mint window).recentBlocks s₁.service).outcome =
        .error offlineFailure := by
      rw [hs₁]
      show (recentBlocks window s.service).outcome = _
      rw [recentBlocks, if_pos ho]
      rfl
    have hload := Session.load_of_error
      ((Session.tryLoad_of_ok hget).trans (Session.reloadBlocks_of_error haddress hb))
    refine ⟨?_, Session.mode_load_of_ok hget, ?_⟩
    · rw [hload, Session.service_notifyFailure]
      exact hservice
    · rw [hload]
      exact ⟨(fun h => by cases h), (fun h => by cases h)⟩

/-- An import of the dashboard opens the session of the wallet that is selected, and then loads. -/
theorem importWallet_eq_load (mint : Nat → WalletExport) (window : Nat)
    {s : Session MemoryState} {key address : String} (hkey : Text.trim key ≠ "")
    (hselected : s.service.selected? (Text.trim key) = some address) :
    ∃ opened : Session MemoryState,
      s.importWallet (service mint window) key = opened.load (service mint window) ∧
        opened.service = { s.service with active := some address } ∧
          opened.dashboard = s.dashboard := by
  obtain ⟨hok, hstate⟩ := importWallet_of_selected hselected
  exact ⟨_, Session.importWallet_of_ok hkey hok, (Session.service_notify _ _).trans hstate,
    Session.dashboard_notify _ _⟩

/-- So it leads to that wallet. -/
theorem dashboard_importWallet (mint : Nat → WalletExport) (window : Nat)
    {s : Session MemoryState} {key address : String} {w : Wallet}
    (hkey : Text.trim key ≠ "") (hselected : s.service.selected? (Text.trim key) = some address)
    (hw : (getWallet { s.service with active := some address }).outcome = .ok (some w)) :
    let r := s.importWallet (service mint window) key
    r.2.service = { s.service with active := some address } ∧ r.2.dashboard.mode = .active w ∧
      (r.1 = true ↔ s.service.offline = false) := by
  intro r
  obtain ⟨opened, hload, hopened, -⟩ := importWallet_eq_load mint window hkey hselected
  have hr : r = opened.load (service mint window) := hload
  rw [← hopened] at hw
  have hshown := load_of_open mint window hw
  rwa [← hr, hopened] at hshown

/-- **A wallet that was made can be imported again** from its key or phrase, in whatever way it is
written, as long as its address is not registered anew from outside and no other wallet has the same
key or phrase. Whatever happened since, the service then answers with the wallet, and so it does
after an import of the dashboard, which shows it. That counts as successful if the blocks can be
loaded as well, so exactly if the service is online. -/
theorem importWallet_created (hmint : ∀ n, (mint n).IsDrawn) (size : PageSize)
    {before later : List (Event Change)} {creation : Event Change} (hcreation : IsCreation creation)
    (hcreated : (createWallet mint (reached mint window size before).service).outcome = .ok e)
    (hlater : ∀ e', .outside (.command (.addWallet e')) ∈ later → e'.address ≠ e.address)
    {text : String} (htext : e.Spelling text)
    (hother : ∀ a w,
      (a, w) ∈ (reached mint window size (before ++ creation :: later)).service.wallets →
        w.matches (phraseOf text) = true → a = e.address) :
    let s := reached mint window size (before ++ creation :: later)
    let m := (importWallet text s.service).state
    let r := s.importWallet (service mint window) text
    (importWallet text s.service).outcome = .ok () ∧
      ∃ balance, (getWallet m).outcome = .ok (some ⟨e.address, balance⟩) ∧
        r.2.service = m ∧ r.2.dashboard.mode = .active ⟨e.address, balance⟩ ∧
          (r.1 = true ↔ s.service.offline = false) := by
  intro s m r
  have hdrawn : e.IsDrawn := by
    rw [(created_of_ok hcreated).1]
    exact hmint _
  have hstores : s.service.Stores e := by
    have hrun := stores_run mint window (stores_of_created window hcreation hcreated) hlater
    have hs : s = _ := Session.run_append (service mint window) (change mint window) _ before
      (creation :: later)
    rw [hs]
    exact hrun
  have hmatch : ∀ balance,
      (⟨e.privateKey, e.mnemonic, balance⟩ : StoredWallet).matches (phraseOf text) = true :=
    fun _ => htext.matches hdrawn rfl rfl
  have hselected := selected?_of_stores hstores hmatch hother
  have htrimmed : s.service.selected? (Text.trim text) = some e.address := by
    rwa [selected?_eq_find?, phraseOf_trim, ← selected?_eq_find?]
  obtain ⟨hok, hm⟩ := importWallet_of_selected hselected
  obtain ⟨balance, hw⟩ := getWallet_of_stores hstores
  obtain ⟨hservice, hmode, hsuccess⟩ :=
    dashboard_importWallet mint window (htext.trim_ne hdrawn) htrimmed hw
  refine ⟨hok, balance, ?_, hservice.trans hm.symm, hmode, hsuccess⟩
  rw [show m = _ from hm]
  exact hw

/-- A wallet was made, its secrets were put away and a block was mined. Then another wallet took its
place, and the service went offline. The key is typed in capitals, with marks in front. -/
theorem importWallet_created_offline :
    let mint (n : Nat) : WalletExport :=
      .ofDraws (List.replicate 32 (UInt8.ofNat (0xA0 + n))) (List.replicate 20 (UInt8.ofNat n))
        (List.range phraseLength)
    let later : List (Event Change) :=
      [.act .acknowledgeExport, .outside (.command (.mine (mint 0).address [] 7)), .act .refresh,
        .outside (.call .logout), .act .createWallet, .outside (.command (.setOffline true))]
    let text := String.ofList
      ("\t0x0X".toList ++ (mint 0).privateKey.toList.map Char.toUpper ++ " \n".toList)
    let s := reached mint 50 ⟨6, by decide⟩ (.act .createWallet :: later)
    let m := (importWallet text s.service).state
    let r := s.importWallet (service mint 50) text
    s.service.active = some (mint 1).address ∧ (mint 0).Spelling text ∧
      (importWallet text s.service).outcome = .ok () ∧
        ∃ balance, (getWallet m).outcome = .ok (some ⟨(mint 0).address, balance⟩) ∧
          r.2.service = m ∧ r.2.dashboard.mode = .active ⟨(mint 0).address, balance⟩ ∧
            (r.1 = true ↔ s.service.offline = false) := by
  intro mint later text s m r
  have hmint : ∀ n, (mint n).IsDrawn := fun n => ⟨_, _, _, by simp, by simp, by simp, rfl⟩
  have hlater : ∀ e', .outside (.command (.addWallet e')) ∈ later →
      e'.address ≠ (mint 0).address := by
    intro e' he'
    simp [later] at he'
  have htext : (mint 0).Spelling text := by
    let marks : List (List Char) := [['0', 'x'], ['0', 'X']]
    let digits := (mint 0).privateKey.toList.map Char.toUpper
    have hmarks : ∀ mark ∈ marks, mark = ['0', 'x'] ∨ mark = ['0', 'X'] := by decide
    have hdigits : List.Forall₂ Text.SameLetter digits (mint 0).privateKey.toList := by
      rw [List.forall₂_map_left_iff, List.forall₂_same]
      exact fun c hc => Text.sameLetter_toUpper ((hmint 0).isPlainWord_privateKey.2 c hc)
    have hspaced : Text.Spaced [marks.flatten ++ digits]
        (['\t'] ++ (marks.flatten ++ digits) ++ [' ', '\n']) := by
      have hend : ∀ c, [' ', '\n'].head? = some c → Text.isBlank c = true := by
        intro c hc
        cases hc
        rfl
      exact .word ['\t'] _ [] [' ', '\n'] (by decide) hend (.gap [' ', '\n'] (by decide))
    refine .key marks digits text hmarks hdigits ?_
    rw [String.toList_ofList]
    exact hspaced
  have hactive : s.service.active = some (mint 1).address := by decide +kernel
  have hother : ∀ a w, (a, w) ∈ s.service.wallets → w.matches (phraseOf text) = true →
      a = (mint 0).address := by
    have hall : ∀ x ∈ s.service.wallets, x.2.matches (phraseOf text) = true →
        x.1 = (mint 0).address := by decide +kernel
    exact fun a w hw => hall (a, w) hw
  have hcreated : (createWallet mint (reached mint 50 ⟨6, by decide⟩ []).service).outcome =
      .ok (mint 0) := rfl
  exact ⟨hactive, htext,
    importWallet_created hmint ⟨6, by decide⟩ .act hcreated hlater htext hother⟩

end MemoryState

end WalletDashboard
