import WalletDashboard.Proofs.LoadedView
import WalletDashboard.Proofs.Requests

/-!
# Importing on startup

The import on startup is for a service that has no session yet. What it goes by is what the
dashboard shows, but only after a load that went through. So it does not matter what was on the
screen before: the dashboard then shows a wallet exactly if the service has answered with one.

* `importedKeys` are the keys that the service is asked to import in the course of exchanges. In a
  load there are none, and in an import there is the one that was given, unless it is blank.
* `MemoryState.importOnStartup_spares_session`: a service is asked to import a key only if it has
  answered that it has no wallet, so over the service in memory no open session is replaced.
-/

namespace WalletDashboard

/-- The key that a call passes on to be imported. -/
def ServiceCall.importedKey? : ServiceCall → Option String
  | .importWallet key => some key
  | _ => none

/-- The keys that the service is asked to import. -/
def importedKeys (xs : List Exchange) : List String := xs.filterMap fun x => x.call.importedKey?

theorem importedKeys_append (xs ys : List Exchange) :
    importedKeys (xs ++ ys) = importedKeys xs ++ importedKeys ys :=
  List.filterMap_append

namespace WalletService

variable {σ : Type} (svc : WalletService σ)

/-- To load is to import nothing. -/
theorem importedKeys_loadExchanges (m : σ) : importedKeys (svc.loadExchanges m) = [] := by
  unfold loadExchanges
  split <;> rfl

/-- An import passes on its key without the white space around it, if there is anything left. -/
theorem importedKeys_importExchanges (key : String) (m : σ) :
    importedKeys (svc.importExchanges key m) =
      if Text.trim key = "" then [] else [Text.trim key] := by
  unfold importExchanges
  split
  · rfl
  · cases (svc.importWallet (Text.trim key) m).outcome with
    | error e => rfl
    | ok _ => exact congrArg (Text.trim key :: ·) (svc.importedKeys_loadExchanges _)

end WalletService

namespace Session

variable {σ : Type}

/-- An import on startup asks for its key to be imported exactly if the load before it went through
and found no wallet, and if there is anything left of the key. -/
theorem importedKeys_importOnStartup (svc : WalletService σ) (s : Session σ) (key : String) :
    importedKeys (s.exchanges svc (.importOnStartup key)) =
      if ((s.load svc).1 = true ∧ (s.load svc).2.dashboard.mode.wallet? = none) ∧
          Text.trim key ≠ "" then [Text.trim key]
      else [] := by
  have hload := load_without_wallet_iff svc s
  rw [exchanges_eq]
  simp only [WalletService.exchangesOf, WalletService.startupExchanges]
  rw [importedKeys_append, svc.importedKeys_loadExchanges, List.nil_append]
  by_cases hnone : (svc.getWallet s.service).outcome = .ok none
  · simp only [hnone, hload.mpr hnone, and_self, true_and]
    rw [svc.importedKeys_importExchanges, ite_not]
  · rw [if_neg fun h => hnone (hload.mp h.1)]
    split
    · next h => exact absurd h hnone
    · rfl

end Session

namespace MemoryState

variable {mint : Nat → WalletExport} {window : Nat} {m : MemoryState} {s : Session MemoryState}
  {key : String}

/-! ### Over the service in memory -/

/-- There is nothing left of the key, or it belongs to no wallet. -/
def Refuses (m : MemoryState) (key : String) : Prop :=
  Text.trim key = "" ∨ ∀ a w, (a, w) ∈ m.wallets → w.matches (phraseOf key) = false

theorem importWallet_of_unmatched
    (h : ∀ a w, (a, w) ∈ m.wallets → w.matches (phraseOf key) = false) :
    importWallet key m = .refuse .invalidKey m := by
  have hnone : m.wallets.find? (fun entry => entry.2.matches (phraseOf key)) = none := by
    refine List.find?_eq_none.mpr fun entry hentry => ?_
    rw [h entry.1 entry.2 hentry]
    exact Bool.false_ne_true
  unfold importWallet
  split
  · rfl
  · next hfind => exact absurd (hfind.symm.trans hnone) nofun

/-- An import of the dashboard that is refused does nothing but tell the user. -/
theorem importWallet_of_refuses (mint : Nat → WalletExport) (window : Nat)
    (h : s.service.Refuses key) :
    s.importWallet (service mint window) key = (false, s.notifyFailure .invalidKey) := by
  by_cases hkey : Text.trim key = ""
  · exact Session.importWallet_of_blank hkey
  · have hreply : (service mint window).importWallet (Text.trim key) s.service =
        .refuse .invalidKey s.service := by
      refine importWallet_of_unmatched ?_
      rw [phraseOf_trim]
      exact h.resolve_left hkey
    have hask : (s.ask ((service mint window).importWallet (Text.trim key))).2 = s := by
      rw [Session.ask_of_reads (by rw [hreply]; rfl) (by rw [hreply]; rfl)]
    rw [Session.importWallet_of_error hkey (congrArg Reply.outcome hreply), hask]

/-- Over an open session nothing is imported, whatever the key. -/
theorem importOnStartup_of_open (mint : Nat → WalletExport) (window : Nat) (key : String)
    {w : Wallet} (hw : (getWallet s.service).outcome = .ok (some w)) :
    let r := s.importOnStartup (service mint window) key
    r.2.service = s.service ∧ r.1 = (s.load (service mint window)).1 := by
  have hget : ((service mint window).getWallet s.service).outcome = .ok (some w) := hw
  rw [Session.importOnStartup_of_wallet hget]
  refine ⟨?_, rfl⟩
  split <;> exact (load_of_open mint window hw).1

theorem importOnStartup_of_refuses (hactive : s.service.active = none)
    (h : s.service.Refuses key) :
    let r := s.importOnStartup (service mint window) key
    r.1 = false ∧ r.2.service = s.service ∧ r.2.dashboard.mode = .noWallet ∧
      r.2.outbox = s.outbox.post [.error Failure.invalidKey.message] := by
  intro r
  have hnone : ((service mint window).getWallet s.service).outcome = .ok none :=
    outcome_getWallet_of_inactive hactive
  have hservice := Session.service_load_of_onlyReads (s := s) (onlyReads_service mint window)
  have hload : r = (false, (s.load (service mint window)).2.notifyFailure .invalidKey) := by
    rw [← hservice] at h
    exact (Session.importOnStartup_of_none hnone).trans (importWallet_of_refuses mint window h)
  have hquiet : (s.load (service mint window)).2.outbox = s.outbox :=
    Session.outbox_load_of_eq_true (by rw [Session.load_of_none hnone])
  rw [hload]
  refine ⟨rfl, ?_, ?_, ?_⟩
  · rw [Session.service_notifyFailure, hservice]
  · rw [Session.dashboard_notifyFailure]
    exact Session.mode_load_of_ok hnone
  · rw [← hquiet]
    exact Session.outbox_notify _ _

/-- **An import on startup replaces no session.** Whatever the dashboard shows and whatever the
service does, the key is passed on to it exactly if the load before went through and found no
wallet, and if there is anything left of the key. So over the service in memory, as long as a wallet
is active, everything stays as it is, and what counts is the load; and if none is active, a key that
is refused leaves everything as it is, and is the one thing that the user is told. -/
theorem importOnStartup_spares_session (key : String) :
    (∀ {σ : Type} (svc : WalletService σ) (s : Session σ),
      importedKeys (s.exchanges svc (.importOnStartup key)) =
          (if ((s.load svc).1 = true ∧ (s.load svc).2.dashboard.mode.wallet? = none) ∧
              Text.trim key ≠ "" then [Text.trim key]
            else []) ∧
        ((s.load svc).1 = true ∧ (s.load svc).2.dashboard.mode.wallet? = none ↔
          (svc.getWallet s.service).outcome = .ok none)) ∧
    ∀ (mint : Nat → WalletExport) (window : Nat) (size : PageSize) (events : List (Event Change))
      (s : Session MemoryState), s.service = (reached mint window size events).service →
      let svc := service mint window
      let r := s.importOnStartup svc key
      (s.service.active.isSome →
        r.2.service = s.service ∧ r.1 = (s.load svc).1 ∧
          (r.1 = true ↔ s.service.offline = false)) ∧
      (s.service.active = none → s.service.Refuses key →
        r.1 = false ∧ r.2.service = s.service ∧ r.2.dashboard.mode = .noWallet ∧
          r.2.outbox = s.outbox.post [.error Failure.invalidKey.message]) := by
  constructor
  · intro σ svc s
    exact ⟨s.importedKeys_importOnStartup svc key, Session.load_without_wallet_iff svc s⟩
  · intro mint window size events s hs svc r
    refine ⟨fun hactive => ?_, importOnStartup_of_refuses⟩
    obtain ⟨address, ha⟩ := Option.isSome_iff_exists.mp hactive
    have hknown : s.service.ActiveKnown := by
      rw [hs]
      exact activeKnown_reached size events
    obtain ⟨w, hw⟩ := Option.isSome_iff_exists.mp (hknown address ha)
    have hget := outcome_getWallet_of_active ha hw
    obtain ⟨hservice, hgood⟩ := importOnStartup_of_open mint window key hget
    refine ⟨hservice, hgood, ?_⟩
    rw [hgood]
    exact (load_of_open mint window hget).2.2

/-- The dashboard still shows the secrets of a wallet that is gone. Of two services the first is
offline with `B` active, and is given the key of `A`. The second has no session, and is given a key
that belongs to neither. -/
theorem importOnStartup_spares_session_stale_screen :
    let svc := service (fun _ => default) 50
    let registered : List (Event Change) :=
      [.outside (.command (.addWallet ⟨"A", "aa", "acid"⟩)),
        .outside (.command (.addWallet ⟨"B", "bb", "baby"⟩))]
    let opened : List (Event Change) :=
      registered ++
        [.outside (.call (.importWallet "bb")), .outside (.command (.setOffline true))]
    let screen : Dashboard :=
      { pageSize := ⟨6, by decide⟩, mode := .justCreated ⟨"C", "cc", "cab"⟩ }
    let s : Session MemoryState :=
      { dashboard := screen
        service := (reached (fun _ => default) 50 ⟨6, by decide⟩ opened).service }
    let t : Session MemoryState :=
      { dashboard := screen
        service := (reached (fun _ => default) 50 ⟨6, by decide⟩ registered).service }
    (s.service.active = some "B" ∧ s.service.offline = true) ∧
      importedKeys (s.exchanges svc (.importOnStartup "aa")) = [] ∧
      (s.importOnStartup svc "aa").1 = false ∧
      (s.importOnStartup svc "aa").2.service = s.service ∧
      (t.service.active = none ∧ t.service.Refuses " CC ") ∧
      importedKeys (t.exchanges svc (.importOnStartup " CC ")) = ["CC"] ∧
      (t.importOnStartup svc " CC ").2.service = t.service ∧
      (t.importOnStartup svc " CC ").2.dashboard.mode = .noWallet ∧
      (t.importOnStartup svc " CC ").2.outbox.unread = [.error Failure.invalidKey.message] := by
  intro svc registered opened screen s t
  have hs : s.service.active = some "B" ∧ s.service.offline = true := by decide +kernel
  have ht : t.service.active = none := by decide +kernel
  have hrefuses : t.service.Refuses " CC " := by
    have hall : ∀ entry ∈ t.service.wallets,
        entry.2.matches (phraseOf " CC ") = false := by decide +kernel
    exact .inr fun a w hw => hall (a, w) hw
  obtain ⟨hkeys, hmemory⟩ := importOnStartup_spares_session "aa"
  obtain ⟨hopen, -⟩ := hmemory (fun _ => default) 50 ⟨6, by decide⟩ opened s rfl
  obtain ⟨hservice, -, hgood⟩ := hopen (by rw [hs.1]; rfl)
  obtain ⟨hkeys', hmemory'⟩ := importOnStartup_spares_session " CC "
  obtain ⟨-, hrefused⟩ := hmemory' (fun _ => default) 50 ⟨6, by decide⟩ registered t rfl
  obtain ⟨-, hservice', hmode, houtbox⟩ := hrefused ht hrefuses
  refine ⟨hs, ?_, ?_, hservice, ⟨ht, hrefuses⟩, ?_, hservice', hmode, ?_⟩
  · rw [(hkeys svc s).1, if_neg]
    decide +kernel
  · rw [Bool.eq_false_iff]
    intro h
    exact absurd ((hgood.mp h).symm.trans hs.2) nofun
  · rw [(hkeys' svc t).1, if_pos (by decide +kernel)]
    decide
  · rw [houtbox]
    rfl

end MemoryState

end WalletDashboard
