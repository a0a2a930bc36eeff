import Mathlib.Data.List.Nodup
import WalletDashboard.Proofs.ComparedForm
import WalletDashboard.Proofs.Importing

/-!
# Wallets registered from outside

A wallet can be registered with secrets that were not drawn by the service (`addWallet`). Its phrase
is kept in the form in which phrases are compared, so whatever way it is typed in, it opens the
session. Its key is only put into lower case. What is typed in for a key loses its surplus white
space and any `0x` in front before it is compared, so a key that was registered with either is never
found.

* `lower_eq_keyOf_iff`: the key is kept as it is compared exactly if it is tidy and unmarked.
* `WalletExport.SpellsKey`, `WalletExport.SpellsPhrase`: the ways to write the secrets.
* `MemoryState.HasDistinctAddresses`: no address is registered twice, as is the case at any time
  (`MemoryState.hasDistinctAddresses_reached`).
* `MemoryState.opens_addWallet`: which ways to write its secrets open the session of a wallet that
  was registered.
-/

namespace WalletDashboard

/-! ### The key as it is kept -/

/-- What is left of a key is unmarked, and only marks are missing. -/
theorem exists_marks (cs : List Char) :
    ∃ n, cs = (List.replicate n ['0', 'x']).flatten ++ dropHexMarks cs ∧
      ¬['0', 'x'] <+: dropHexMarks cs := by
  fun_induction dropHexMarks cs with
  | case1 rest ih =>
    obtain ⟨n, hn, hunmarked⟩ := ih
    refine ⟨n + 1, ?_, hunmarked⟩
    rw [List.replicate_succ, List.flatten_cons, List.append_assoc, ← hn]
    rfl
  | case2 cs h =>
    refine ⟨0, rfl, ?_⟩
    rintro ⟨rest, rfl⟩
    exact h rest rfl

/-- The compared form is the lower case of the text with its white space tidied up. -/
theorem toList_phraseOf (text : String) :
    (phraseOf text).toList = List.intercalate [' '] (Text.words (Text.lowerList text.toList)) := by
  rw [phraseOf, String.toList_ofList, Text.words_lowerList]

/-- A key in lower case is what is compared exactly if it was tidy and had no mark. -/
theorem lower_eq_keyOf_iff (key : String) :
    Text.lower key = keyOf (phraseOf key) ↔
      Text.IsTidy key.toList ∧ ¬['0', 'x'] <+: Text.lowerList key.toList := by
  rw [← Text.isTidy_lowerList_iff, Text.lower, keyOf, String.ofList_inj, toList_phraseOf]
  generalize Text.lowerList key.toList = kept
  constructor
  · intro h
    obtain ⟨n, hphrase, hunmarked⟩ := exists_marks (List.intercalate [' '] (Text.words kept))
    rw [← h] at hphrase hunmarked
    -- Tidying up makes nothing longer, so no mark was dropped.
    have hn : n = 0 := by
      obtain ⟨hspaced, hwords⟩ := Text.spaced_words kept
      have hshort := hspaced.length_intercalate_le hwords
      cases n with
      | zero => rfl
      | succ n =>
        rw [hphrase, List.replicate_succ, List.flatten_cons, List.append_assoc,
          List.length_append, List.length_append, List.length_cons] at hshort
        omega
    rw [hn] at hphrase
    exact ⟨hphrase.symm, hunmarked⟩
  · rintro ⟨htidy, hunmarked⟩
    rw [← htidy, dropHexMarks_of_unmarked hunmarked]

namespace WalletExport

/-- The text is the phrase, but for the case of its letters and its white space. -/
def SpellsPhrase (e : WalletExport) (text : String) : Prop :=
  (Text.words text.toList).map Text.lowerList = (Text.words e.mnemonic.toList).map Text.lowerList

/-- The text is the private key, but for the case of its letters, its white space, and the number of
marks in front; the key itself is such a text, with `m = n = 0`. -/
def SpellsKey (e : WalletExport) (text : String) : Prop :=
  ∃ m n, (List.replicate m ['0', 'x']).flatten ++ (phraseOf text).toList =
    (List.replicate n ['0', 'x']).flatten ++ (phraseOf e.privateKey).toList

/-- The private key is given without any white space that has to be left out, and without a mark. -/
structure HasPlainKey (e : WalletExport) : Prop where
  tidy : Text.IsTidy e.privateKey.toList
  unmarked : ¬['0', 'x'] <+: Text.lowerList e.privateKey.toList

variable {e : WalletExport} {text : String}

theorem spellsPhrase_iff : e.SpellsPhrase text ↔ phraseOf text = phraseOf e.mnemonic := by
  constructor
  · intro h
    rw [phraseOf, h, phraseOf]
  · intro h
    rw [SpellsPhrase, ← words_phraseOf, ← words_phraseOf, h]

theorem SpellsKey.keyOf_eq (h : e.SpellsKey text) :
    keyOf (phraseOf text) = keyOf (phraseOf e.privateKey) := by
  obtain ⟨m, n, heq⟩ := h
  have hdrop := congrArg dropHexMarks heq
  rw [dropHexMarks_marks, dropHexMarks_marks] at hdrop
  rw [keyOf, keyOf, hdrop]

end WalletExport

namespace MemoryState

variable {mint : Nat → WalletExport} {window : Nat} {m : MemoryState} {e : WalletExport}

/-! ### Addresses -/

/-- No address is registered twice. -/
def HasDistinctAddresses (m : MemoryState) : Prop := (m.wallets.map Prod.fst).Nodup

theorem mem_addresses_register {address a : String} {stored : StoredWallet}
    {wallets : List (String × StoredWallet)}
    (h : a ∈ (register address stored wallets).map Prod.fst) :
    a = address ∨ a ∈ wallets.map Prod.fst := by
  obtain ⟨entry, hentry, rfl⟩ := List.mem_map.mp h
  rcases mem_register hentry with rfl | hentry
  · exact .inl rfl
  · exact .inr (List.mem_map_of_mem hentry)

theorem nodup_register (address : String) (stored : StoredWallet)
    {wallets : List (String × StoredWallet)} (h : (wallets.map Prod.fst).Nodup) :
    ((register address stored wallets).map Prod.fst).Nodup := by
  induction wallets with
  | nil => exact List.nodup_singleton address
  | cons entry rest ih =>
    obtain ⟨b, w⟩ := entry
    rw [List.map_cons, List.nodup_cons] at h
    unfold register
    split_ifs with hb
    · subst hb
      exact List.nodup_cons.mpr h
    · rw [List.map_cons, List.nodup_cons]
      refine ⟨fun hmem => ?_, ih h.2⟩
      rcases mem_addresses_register hmem with heq | hmem
      · exact hb heq
      · exact h.1 hmem

theorem Effect.hasDistinctAddresses {m' : MemoryState} (he : Effect mint m m')
    (h : m.HasDistinctAddresses) : m'.HasDistinctAddresses := by
  cases he with
  | nothing | drawn | opened | measured | closed => exact h
  | created | balanced => exact nodup_register _ _ h

theorem HasDistinctAddresses.change (h : m.HasDistinctAddresses) (k : Change) :
    (MemoryState.change mint window k m).HasDistinctAddresses := by
  cases k with
  | call c => exact (effect_call c m).hasDistinctAddresses h
  | command c =>
    cases c with
    | addWallet e => exact nodup_register _ _ h
    | mine | setOffline | failWalletRefresh | failBlockHeight | failLogout => exact h

/-- No address is ever registered twice. -/
theorem hasDistinctAddresses_reached (mint : Nat → WalletExport) (window : Nat) (size : PageSize)
    (events : List (Event Change)) :
    (reached mint window size events).service.HasDistinctAddresses :=
  Session.run_keeps_core (service mint window) (change mint window)
    (P := fun x => x.2.HasDistinctAddresses)
    (fun _ _ hm => hm.keeps_service fun c m => (effect_call c m).hasDistinctAddresses)
    (fun k _ _ h => h.change k) (s := Session.start size {}) List.nodup_nil events

/-- If no address is registered twice, the new entry is the only one of its address. -/
theorem eq_of_mem_register {address : String} {stored w : StoredWallet}
    {wallets : List (String × StoredWallet)} (hdistinct : (wallets.map Prod.fst).Nodup)
    (h : (address, w) ∈ register address stored wallets) : w = stored := by
  induction wallets with
  | nil =>
    cases List.mem_singleton.mp h
    rfl
  | cons entry rest ih =>
    obtain ⟨b, v⟩ := entry
    rw [List.map_cons, List.nodup_cons] at hdistinct
    unfold register at h
    split_ifs at h with hb
    · subst hb
      rcases List.mem_cons.mp h with heq | h
      · cases heq
        rfl
      · exact absurd (List.mem_map_of_mem h) hdistinct.1
    · rcases List.mem_cons.mp h with heq | h
      · cases heq
        exact absurd rfl hb
      · exact ih hdistinct.2 h

/-! ### Importing a registered wallet -/

/-- The key or phrase opens the session of the wallet. -/
def Opens (m : MemoryState) (text : String) (w : Wallet) : Prop :=
  (importWallet text m).outcome = .ok () ∧
    (getWallet (importWallet text m).state).outcome = .ok (some w)

/-- What is kept of a wallet that is registered. -/
def registered (e : WalletExport) : StoredWallet :=
  ⟨Text.lower e.privateKey, phraseOf e.mnemonic, 0⟩

theorem stored?_addWallet (e : WalletExport) (m : MemoryState) :
    (m.addWallet e).stored? e.address = some (registered e) := by
  show (register e.address (registered e) m.wallets).lookup e.address = _
  rw [lookup_register, if_pos rfl]

/-- A session is opened exactly if the wallet is the one that is selected. -/
theorem opens_iff_selected {address : String} {stored : StoredWallet}
    (hstored : m.stored? address = some stored) (text : String) :
    m.Opens text ⟨address, stored.balance⟩ ↔ m.selected? text = some address := by
  constructor
  · rintro ⟨hok, hget⟩
    cases hselected : m.selected? text with
    | none =>
      rw [importWallet_eq_openSession, hselected] at hok
      cases hok
    | some a =>
      rw [(importWallet_of_selected hselected).2] at hget
      have hwallet : (m.stored? a).map (fun w => (⟨a, w.balance⟩ : Wallet)) =
          some ⟨address, stored.balance⟩ := Except.ok.inj hget
      obtain ⟨w, -, hw⟩ := Option.map_eq_some_iff.mp hwallet
      exact congrArg some (congrArg Wallet.address hw)
  · intro hselected
    obtain ⟨hok, hstate⟩ := importWallet_of_selected hselected
    refine ⟨hok, ?_⟩
    rw [hstate]
    show Except.ok ((m.stored? address).map fun w => (⟨address, w.balance⟩ : Wallet)) = _
    rw [hstored]
    rfl

/-- The wallet that was registered is selected exactly if what is kept of it matches. -/
theorem selected?_addWallet_iff (hm : m.HasDistinctAddresses) {text : String}
    (hother : ∀ a w, (a, w) ∈ m.wallets → w.matches (phraseOf text) = true → a = e.address) :
    (m.addWallet e).selected? text = some e.address ↔
      (registered e).matches (phraseOf text) = true := by
  constructor
  · intro h
    rw [selected?_eq_find?] at h
    obtain ⟨⟨a, w⟩, hfind, heq⟩ := Option.map_eq_some_iff.mp h
    have hmem : (a, w) ∈ register e.address (registered e) m.wallets :=
      List.mem_of_find?_eq_some hfind
    have hw := List.find?_some hfind
    cases heq
    rwa [eq_of_mem_register hm hmem] at hw
  · intro hmatch
    let kept : WalletExport := ⟨e.address, (registered e).privateKey, (registered e).mnemonic⟩
    have hstores : (m.addWallet e).Stores kept := ⟨0, stored?_addWallet e m⟩
    refine selected?_of_stores (e := kept) hstores (fun _ => hmatch) fun a w hmem hw => ?_
    rcases mem_register hmem with heq | hmem
    · cases heq
      rfl
    · exact hother a w hmem hw

theorem opens_addWallet_iff (hm : m.HasDistinctAddresses) {text : String}
    (hother : ∀ a w, (a, w) ∈ m.wallets → w.matches (phraseOf text) = true → a = e.address) :
    (m.addWallet e).Opens text ⟨e.address, 0⟩ ↔
      Text.lower e.privateKey = keyOf (phraseOf text) ∨ e.SpellsPhrase text := by
  refine (opens_iff_selected (stored?_addWallet e m) text).trans ?_
  rw [selected?_addWallet_iff hm hother, StoredWallet.matches, Bool.or_eq_true, beq_iff_eq,
    beq_iff_eq, WalletExport.spellsPhrase_iff]
  exact or_congr_right eq_comm

/-- **A wallet that is registered can be imported again** by its phrase, in whatever way that is
written, as long as no other wallet belongs to what is typed in. By its key, in whatever way that is
written, it can be imported exactly if the key was registered tidy and without a mark, or if what is
typed in is the phrase as well. -/
theorem opens_addWallet (hm : m.HasDistinctAddresses) {text : String}
    (hother : ∀ a w, (a, w) ∈ m.wallets → w.matches (phraseOf text) = true → a = e.address) :
    (e.SpellsPhrase text → (m.addWallet e).Opens text ⟨e.address, 0⟩) ∧
      (e.SpellsKey text →
        ((m.addWallet e).Opens text ⟨e.address, 0⟩ ↔ e.HasPlainKey ∨ e.SpellsPhrase text)) := by
  rw [opens_addWallet_iff hm hother]
  refine ⟨.inr, fun hkey => ?_⟩
  rw [hkey.keyOf_eq, lower_eq_keyOf_iff]
  exact or_congr_left ⟨fun h => ⟨h.1, h.2⟩, fun h => ⟨h.tidy, h.unmarked⟩⟩

/-- The key is typed in with small letters, with marks in front and white space around. The service
is offline, and another wallet is open. -/
theorem opens_addWallet_small_letters :
    let e : WalletExport := ⟨"A", "ÄÖ B1", " Acid\tABLE"⟩
    let m : MemoryState :=
      { wallets := [("B", ⟨"b1", "baby", 7⟩)], active := some "B", offline := true }
    let text := "\t0X0xäö  b1\n"
    e.SpellsKey text ∧ e.HasPlainKey ∧ (m.addWallet e).Opens text ⟨e.address, 0⟩ ∧
      (m.addWallet e).Opens e.mnemonic ⟨e.address, 0⟩ := by
  intro e m text
  have hkey : e.SpellsKey text := ⟨0, 2, by decide +kernel⟩
  have hplain : e.HasPlainKey := ⟨by decide +kernel, by decide +kernel⟩
  have hm : m.HasDistinctAddresses := List.nodup_singleton "B"
  have hother : ∀ t ∈ [text, e.mnemonic], ∀ a w, (a, w) ∈ m.wallets →
      w.matches (phraseOf t) = true → a = e.address := by
    have hall : ∀ t ∈ [text, e.mnemonic], ∀ x ∈ m.wallets,
        x.2.matches (phraseOf t) = true → x.1 = e.address := by decide +kernel
    exact fun t ht a w hw => hall t ht (a, w) hw
  obtain ⟨-, hopens⟩ := opens_addWallet hm (hother text (by simp))
  obtain ⟨hphrase, -⟩ := opens_addWallet hm (hother e.mnemonic (by simp))
  exact ⟨hkey, hplain, (hopens hkey).mpr (.inl hplain), hphrase rfl⟩

/-- A wallet is registered with a mark in front of its key, and with no other wallet there. The
service does not know its key. -/
theorem not_opens_addWallet_marked :
    let e : WalletExport := ⟨"A", "0xAA", "acid"⟩
    let m : MemoryState := {}
    Text.trim e.privateKey ≠ "" ∧ Text.trim e.mnemonic ≠ "" ∧ m.wallets = [] ∧
      (importWallet e.privateKey (m.addWallet e)).outcome = .error .invalidKey ∧
        ¬(m.addWallet e).Opens e.privateKey ⟨e.address, 0⟩ := by
  intro e m
  have hrefused : (importWallet e.privateKey (m.addWallet e)).outcome = .error .invalidKey := by
    rw [importWallet_eq_openSession]
    decide +kernel
  refine ⟨by decide, by decide, rfl, hrefused, fun ⟨hok, _⟩ => ?_⟩
  rw [hrefused] at hok
  cases hok

end MemoryState

end WalletDashboard
