import WalletDashboard.Json
import WalletDashboard.Proofs.Operations
import WalletDashboard.Service.Memory

/-!
# Sessions over the service in memory

`MemoryState.reached` is the session that begins with a new service in memory, after a list of
events. From elsewhere the service may be changed in every way there is (`MemoryState.Change`).

* `activeKnown_reached`: the active wallet is always a registered one.
* `blocks_reached`: the chain of the service is what was mined in the course of the events
  (`minedBlocks`), in order and numbered from 0 on.
-/

namespace WalletDashboard

namespace MemoryState

/-- A change to the service from elsewhere: from outside, or by a call that is not the
dashboard's. -/
inductive Change
  | command (c : Command)
  | call (c : ServiceCall)
  deriving DecidableEq, Repr

/-- The state after a change from elsewhere. -/
def change (mint : Nat → WalletExport) (window : Nat) : Change → MemoryState → MemoryState
  | .command c, m => m.apply c
  | .call c, m => ((service mint window).call c m).state

/-- The session after the given events, with a service that was new when it began. -/
def reached (mint : Nat → WalletExport) (window : Nat) (size : PageSize)
    (events : List (Event Change)) : Session MemoryState :=
  (Session.start size {}).run (service mint window) (change mint window) events

/-- The block that an event adds to a chain of `n` blocks, if it adds one. -/
def minedBy (n : Nat) : Event Change → List Block
  | .outside (.command (.mine author transactions timestamp)) =>
    [⟨UInt64.ofNat n, timestamp, author, transactions⟩]
  | _ => []

/-- The blocks that events add to a chain of `n` blocks. -/
def minedFrom (n : Nat) : List (Event Change) → List Block
  | [] => []
  | e :: events => minedBy n e ++ minedFrom (n + (minedBy n e).length) events

/-- All the blocks that are mined in the course of events. -/
def minedBlocks (events : List (Event Change)) : List Block := minedFrom 0 events

/-! ### Registered wallets -/

/-- Registering a wallet changes what is found under its address, and nothing else. -/
theorem lookup_register (address a : String) (stored : StoredWallet)
    (wallets : List (String × StoredWallet)) :
    (register address stored wallets).lookup a =
      if a = address then some stored else wallets.lookup a := by
  induction wallets with
  | nil => rw [register, Json.lookup_cons_eq_ite]
  | cons entry rest ih =>
    obtain ⟨b, w⟩ := entry
    unfold register
    by_cases hb : b = address
    · subst hb
      by_cases ha : a = b <;> simp [Json.lookup_cons_eq_ite, ha]
    · rw [if_neg hb, Json.lookup_cons_eq_ite, Json.lookup_cons_eq_ite, ih]
      by_cases ha : a = b
      · have hne : ¬a = address := fun h => hb (ha.symm.trans h)
        rw [if_pos ha, if_neg hne, if_pos ha]
      · rw [if_neg ha, if_neg ha]

theorem isSome_lookup_register {address a : String} (stored : StoredWallet)
    {wallets : List (String × StoredWallet)} (h : (wallets.lookup a).isSome) :
    ((register address stored wallets).lookup a).isSome := by
  rw [lookup_register]
  split
  · rfl
  · exact h

/-! ### What a call does to the state -/

/-- What a call of the service may leave behind. -/
inductive Effect (mint : Nat → WalletExport) (m : MemoryState) : MemoryState → Prop
  | nothing : Effect mint m m
  /-- Secrets were drawn for an address that is taken. -/
  | drawn : Effect mint m { m with draws := m.draws + 1 }
  | created (hfree : m.stored? (mint m.draws).address = none) :
    Effect mint m
      { m with
        draws := m.draws + 1
        wallets := register (mint m.draws).address
          ⟨(mint m.draws).privateKey, (mint m.draws).mnemonic, 0⟩ m.wallets
        active := some (mint m.draws).address }
  | opened (address : String) (w : StoredWallet) (hw : (address, w) ∈ m.wallets) :
    Effect mint m { m with active := some address }
  | balanced (address : String) (w : StoredWallet) (ha : m.active = some address)
      (hw : m.stored? address = some w) :
    Effect mint m
      { m with
        wallets := register address { w with balance := balanceOf address m.blocks } m.wallets }
  | measured : Effect mint m { m with blockHeight := m.lastIndex }
  | closed : Effect mint m { m with active := none }

variable {mint : Nat → WalletExport} {window : Nat} {m : MemoryState}

theorem effect_createWallet : Effect mint m (createWallet mint m).state := by
  unfold createWallet
  simp only
  split
  · exact .drawn
  · next h => exact .created (Option.not_isSome_iff_eq_none.mp h)

theorem effect_importWallet (key : String) : Effect mint m (importWallet key m).state := by
  unfold importWallet
  split
  · exact .nothing
  · next address w hfind => exact .opened address w (List.mem_of_find?_eq_some hfind)

theorem effect_refreshWallet : Effect mint m (refreshWallet m).state := by
  unfold refreshWallet
  split
  · exact .nothing
  · split
    · exact .nothing
    · split
      · exact .nothing
      · next address ha =>
        split
        · exact .nothing
        · next w hw => exact .balanced address w ha hw

theorem effect_refreshBlockHeight : Effect mint m (refreshBlockHeight m).state := by
  unfold refreshBlockHeight
  split
  · exact .nothing
  · split
    · exact .nothing
    · exact .measured

theorem effect_logout : Effect mint m (logout m).state := by
  unfold logout
  split
  · exact .nothing
  · exact .closed

theorem effect_recentBlocks : Effect mint m (recentBlocks window m).state := by
  unfold recentBlocks
  split <;> exact .nothing

/-- No call does anything else. -/
theorem effect_call (c : ServiceCall) (m : MemoryState) :
    Effect mint m ((service mint window).call c m).state := by
  cases c with
  | getWallet => exact .nothing
  | createWallet => exact effect_createWallet
  | importWallet key => exact effect_importWallet key
  | refreshWallet => exact effect_refreshWallet
  | refreshBlockHeight => exact effect_refreshBlockHeight
  | logout => exact effect_logout
  | recentBlocks => exact effect_recentBlocks

/-! ### The active wallet -/

/-- The wallet whose session is open is registered. -/
def ActiveKnown (m : MemoryState) : Prop := ∀ a, m.active = some a → (m.stored? a).isSome

theorem Effect.activeKnown {m' : MemoryState} (he : Effect mint m m') (h : m.ActiveKnown) :
    m'.ActiveKnown := by
  cases he with
  | nothing | drawn | measured => exact h
  | created =>
    rintro a ⟨⟩
    show ((register _ _ m.wallets).lookup _).isSome
    rw [lookup_register, if_pos rfl]
    rfl
  | opened address w hw =>
    rintro a ⟨⟩
    exact List.lookup_isSome_iff.mpr ⟨_, hw, BEq.rfl⟩
  | balanced => exact fun a ha => isSome_lookup_register _ (h a ha)
  | closed => rintro a ⟨⟩

theorem activeKnown_change (k : Change) (h : m.ActiveKnown) :
    (change mint window k m).ActiveKnown := by
  cases k with
  | call c => exact (effect_call c m).activeKnown h
  | command c =>
    cases c with
    | addWallet e => exact fun a ha => isSome_lookup_register _ (h a ha)
    | mine | setOffline | failWalletRefresh | failBlockHeight | failLogout => exact h

/-- The active wallet is always a registered one. -/
theorem activeKnown_reached (size : PageSize) (events : List (Event Change)) :
    (reached mint window size events).service.ActiveKnown :=
  Session.run_keeps_core (service mint window) (change mint window)
    (P := fun x => x.2.ActiveKnown)
    (fun _ _ h => h.keeps_service (Q := ActiveKnown) fun c m => (effect_call c m).activeKnown)
    (fun k _ _ => activeKnown_change k) (s := Session.start size {}) (by rintro a ⟨⟩) events

/-! ### The chain -/

theorem Effect.blocks_eq {m' : MemoryState} (he : Effect mint m m') : m'.blocks = m.blocks := by
  cases he <;> rfl

/-- The blocks of a chain are numbered from 0 on. -/
def Numbered (blocks : List Block) : Prop :=
  ∀ i b, blocks[i]? = some b → b.index = UInt64.ofNat i

theorem Numbered.append_one {blocks : List Block} (h : Numbered blocks) {b : Block}
    (hb : b.index = UInt64.ofNat blocks.length) : Numbered (blocks ++ [b]) := by
  intro i c hc
  rcases Nat.lt_trichotomy i blocks.length with hi | rfl | hi
  · rw [List.getElem?_append_left hi] at hc
    exact h i c hc
  · rw [List.getElem?_concat_length, Option.some.injEq] at hc
    rw [← hc, hb]
  · rw [List.getElem?_eq_none (by simp; omega)] at hc
    cases hc

/-- The next block gets the next number. -/
theorem nextIndex_of_numbered (h : Numbered m.blocks) :
    m.nextIndex = UInt64.ofNat m.blocks.length := by
  unfold nextIndex
  rw [List.getLast?_eq_getElem?]
  cases hl : m.blocks.length with
  | zero =>
    rw [List.getElem?_eq_none (by omega)]
    rfl
  | succ n =>
    rw [Nat.add_sub_cancel]
    cases hb : m.blocks[n]? with
    | none =>
      rw [List.getElem?_eq_none_iff] at hb
      omega
    | some b =>
      show b.index + 1 = UInt64.ofNat (n + 1)
      rw [h n b hb, UInt64.ofNat_add]
      rfl

theorem Numbered.minedBy {blocks : List Block} (h : Numbered blocks) (e : Event Change) :
    Numbered (blocks ++ minedBy blocks.length e) := by
  unfold MemoryState.minedBy
  split
  · exact h.append_one rfl
  · rwa [List.append_nil]

section Chain

variable (mint window)

/-- An event adds to the chain what it mines. -/
theorem blocks_step {s : Session MemoryState} (h : Numbered s.service.blocks)
    (e : Event Change) :
    (s.step (service mint window) (change mint window) e).2.service.blocks =
      s.service.blocks ++ minedBy s.service.blocks.length e := by
  cases e with
  | act a =>
    rw [minedBy, List.append_nil]
    · have hm := Session.perform_moves (service mint window) s a
      exact hm.keeps (P := fun x => x.2.blocks = s.service.blocks)
        (fun _ _ h => h.keeps_service fun c m hb => (effect_call c m).blocks_eq.trans hb) rfl
    · rintro _ _ _ ⟨⟩
  | readerLeaves =>
    rw [minedBy, List.append_nil]
    · rfl
    · rintro _ _ _ ⟨⟩
  | outside k =>
    cases k with
    | call c =>
      rw [minedBy, List.append_nil]
      · exact (effect_call c s.service).blocks_eq
      · rintro _ _ _ ⟨⟩
    | command c =>
      cases c with
      | mine author transactions timestamp =>
        show s.service.blocks ++ [s.service.nextBlock author transactions timestamp] = _
        rw [nextBlock, nextIndex_of_numbered h]
        rfl
      | addWallet | setOffline | failWalletRefresh | failBlockHeight | failLogout =>
        exact (List.append_nil _).symm

theorem blocks_run {s : Session MemoryState} (h : Numbered s.service.blocks)
    (events : List (Event Change)) :
    let s' := s.run (service mint window) (change mint window) events
    s'.service.blocks = s.service.blocks ++ minedFrom s.service.blocks.length events ∧
      Numbered s'.service.blocks := by
  -- The numbering carries the induction: it says which number the next block gets.
  induction events generalizing s with
  | nil => exact ⟨(List.append_nil _).symm, h⟩
  | cons e events ih =>
    have hs := blocks_step mint window h e
    have hn := h.minedBy e
    rw [← hs] at hn
    obtain ⟨hb, hn'⟩ := ih hn
    refine ⟨?_, hn'⟩
    rw [Session.run_cons, hb, hs, minedFrom, List.length_append, List.append_assoc]

/-- The chain is what was mined, in order and numbered from 0 on. -/
theorem blocks_reached (size : PageSize) (events : List (Event Change)) :
    (reached mint window size events).service.blocks = minedBlocks events ∧
      Numbered (minedBlocks events) := by
  have hnew : Numbered (Session.start size ({} : MemoryState)).service.blocks := by
    rintro i b ⟨⟩
  obtain ⟨hb, hn⟩ := blocks_run mint window hnew events
  rw [hb] at hn
  exact ⟨hb, hn⟩

end Chain

end MemoryState

end WalletDashboard
