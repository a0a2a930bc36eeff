import WalletDashboard.Proofs.Refreshing
import WalletDashboard.Service.Memory
import WalletDashboard.Service.Remote

/-!
# How long the secrets of a new wallet stay on the screen

The secrets of a new wallet are shown once, until the user has taken them down. A refresher passes
over a session that shows them: its alarms change nothing, and every view that it writes to the log
has the secrets in it (`run_of_justCreated`). But it begins with a load, which shows the wallet of
the service instead. So the secrets stay exactly if that load does not get as far as the wallet
(`keepsSecrets_takeOver_iff`).
-/

namespace WalletDashboard

/-- The lines that show the secrets of a new wallet. -/
def WalletExport.secretLines (e : WalletExport) : String :=
  "Wallet created: " ++ e.address ++ "\n" ++ "Private key:     " ++ e.privateKey ++ "\n" ++
    "Recovery phrase: " ++ e.mnemonic ++ "\n"

/-- The secrets of `e` are to be read in the line. -/
def LogLine.Shows (l : LogLine) (e : WalletExport) : Prop :=
  ∃ before after, l.text = before ++ e.secretLines ++ after

namespace Dashboard

theorem modeLines_of_justCreated {d : Dashboard} {e : WalletExport}
    (h : d.mode = .justCreated e) :
    d.modeLines =
      ["Wallet created: " ++ e.address, "Private key:     " ++ e.privateKey,
        "Recovery phrase: " ++ e.mnemonic,
        "Store these somewhere safe. They will not be shown again."] := by
  unfold modeLines
  rw [h]

/-- The screen of a new wallet begins with its secrets. -/
theorem view_of_justCreated {d : Dashboard} {e : WalletExport} (h : d.mode = .justCreated e) :
    ∃ after, d.view = e.secretLines ++ after := by
  refine ⟨"Store these somewhere safe. They will not be shown again." ++ "\n" ++
    String.join (d.switchLines.map (· ++ "\n")), ?_⟩
  rw [view, modeLines_of_justCreated h]
  simp only [List.cons_append, List.nil_append, List.map_cons, String.join_cons]
  unfold WalletExport.secretLines
  simp only [String.append_assoc]

end Dashboard

namespace Refresher

variable {σ κ : Type} {e : WalletExport}

theorem shows_initialLine {d : Dashboard} (h : d.mode = .justCreated e) :
    (initialLine d).Shows e := by
  obtain ⟨after, hv⟩ := d.view_of_justCreated h
  refine ⟨"[Refresher] Initial view:\n", after, ?_⟩
  rw [initialLine, hv, String.append_assoc]

theorem shows_refreshedLine {d : Dashboard} (h : d.mode = .justCreated e) :
    (refreshedLine d).Shows e := by
  obtain ⟨after, hv⟩ := d.view_of_justCreated h
  refine ⟨"[Refresher] Refreshed (" ++ Nat.repr d.rewards.length ++ " rewards, page " ++
    Nat.repr d.currentPage ++ "/" ++ Nat.repr d.totalPages ++ ")\n", after, ?_⟩
  simp only [refreshedLine, hv, String.append_assoc]

/-- The secrets of `e` are on the screen, and `s` has only written views with them since `s₀`. -/
def StillShows (e : WalletExport) (s₀ s : Session σ) : Prop :=
  s.dashboard.mode = .justCreated e ∧
    ∃ views, s.log = s₀.log ++ views ∧ ∀ l ∈ views, l.Shows e

variable (svc : WalletService σ) (affect : κ → σ → σ)

/-- A refresher that has come as far as the secrets of `e`: its last line shows them, and they are
still shown whatever happens from here on. -/
def KeepsSecrets (e : WalletExport) (rs : Refresher × Session σ) : Prop :=
  (∃ l ∈ rs.2.log.getLast?, l.Shows e) ∧
    ∀ events, StillShows e rs.2 (run svc affect rs events).2

theorem StillShows.refl {s : Session σ} (h : s.dashboard.mode = .justCreated e) :
    StillShows e s s :=
  ⟨h, [], (List.append_nil _).symm, by simp⟩

theorem StillShows.trans {s₀ s₁ s₂ : Session σ} (h₁ : StillShows e s₀ s₁)
    (h₂ : StillShows e s₁ s₂) : StillShows e s₀ s₂ := by
  obtain ⟨-, views₁, hl₁, hv₁⟩ := h₁
  obtain ⟨hm, views₂, hl₂, hv₂⟩ := h₂
  refine ⟨hm, views₁ ++ views₂, by rw [hl₂, hl₁, List.append_assoc], fun l hl => ?_⟩
  rcases List.mem_append.mp hl with hl | hl
  · exact hv₁ l hl
  · exact hv₂ l hl

/-- An alarm leaves the secrets on the screen. -/
theorem wake_of_justCreated (r : Refresher) {s : Session σ}
    (h : s.dashboard.mode = .justCreated e) : StillShows e s (r.wake svc s).2 := by
  cases hp : r.phase with
  | waiting now =>
    rw [wake_of_waiting svc hp, Session.refresh_of_justCreated h]
    refine ⟨h, [refreshedLine s.dashboard], rfl, fun l hl => ?_⟩
    rw [List.mem_singleton.mp hl]
    exact shows_refreshedLine h
  | pausing now =>
    rw [wake_of_pausing svc hp]
    exact .refl h
  | ended =>
    rw [wake_of_ended svc hp]
    exact .refl h

theorem run_of_justCreated {rs : Refresher × Session σ}
    (h : rs.2.dashboard.mode = .justCreated e) (events : List (Event κ)) :
    StillShows e rs.2 (run svc affect rs events).2 := by
  induction events generalizing rs with
  | nil => exact .refl h
  | cons event events ih =>
    have hstep : StillShows e rs.2 (step svc affect rs event).2 := by
      cases event with
      | alarm => exact wake_of_justCreated svc rs.1 h
      | outside k => exact StillShows.refl (s := rs.2) h
    exact hstep.trans (ih hstep.1)

theorem mode_takeOver_of_ok (timer : Timer) (period now : Nat) {s : Session σ}
    {wallet : Option Wallet} (h : (svc.getWallet s.service).outcome = .ok wallet) :
    (takeOver svc timer period now s).2.dashboard.mode = Mode.ofWallet? wallet :=
  Session.mode_load_of_ok (s := s.write _) h

theorem mode_takeOver_of_error (timer : Timer) (period now : Nat) {s : Session σ}
    {failure : Failure} (h : (svc.getWallet s.service).outcome = .error failure) :
    (takeOver svc timer period now s).2.dashboard.mode = s.dashboard.mode :=
  congrArg Dashboard.mode (Session.dashboard_load_of_error (s := s.write _) h)

/-- **A refresher keeps the secrets of a new wallet on the screen exactly if the load that it begins
with does not get as far as the wallet of the service.** -/
theorem keepsSecrets_takeOver_iff (timer : Timer) (period now : Nat) {s : Session σ}
    (hm : s.dashboard.mode = .justCreated e) :
    KeepsSecrets svc affect e (takeOver svc timer period now s) ↔
      ∃ failure, (svc.getWallet s.service).outcome = .error failure := by
  constructor
  · rintro ⟨-, hkeep⟩
    -- Even if nothing happens after it, the load must not have turned to a wallet.
    have hmode : (takeOver svc timer period now s).2.dashboard.mode = .justCreated e :=
      (hkeep []).1
    cases hw : (svc.getWallet s.service).outcome with
    | error failure => exact ⟨failure, rfl⟩
    | ok wallet =>
      rw [mode_takeOver_of_ok svc timer period now hw] at hmode
      cases wallet <;> cases hmode
  · rintro ⟨failure, hf⟩
    have hmode : (takeOver svc timer period now s).2.dashboard.mode = .justCreated e := by
      rw [mode_takeOver_of_error svc timer period now hf, hm]
    have hlast : (takeOver svc timer period now s).2.log.getLast? =
        some (initialLine (takeOver svc timer period now s).2.dashboard) := List.getLast?_concat ..
    exact ⟨⟨_, hlast, shows_initialLine hmode⟩, run_of_justCreated svc affect hmode⟩

/-- A node that can be reached no more once the wallet was made. -/
theorem keepsSecrets_takeOver_unreachable :
    let svc := remoteService (fun _ n => (.broken "http://node/", n)) 50
    let s : Session Unit := (Session.start ⟨2, by decide⟩ ()).turnTo (.justCreated ⟨"A", "aa", "acid"⟩)
    s.dashboard.mode = .justCreated ⟨"A", "aa", "acid"⟩ ∧
      KeepsSecrets svc (fun (_ : Unit) n => n) ⟨"A", "aa", "acid"⟩
        (takeOver svc (.ofClock clockEnd) 2000 0 s) := by
  intro svc s
  have hm : s.dashboard.mode = .justCreated ⟨"A", "aa", "acid"⟩ := rfl
  exact ⟨hm, (keepsSecrets_takeOver_iff svc _ (.ofClock clockEnd) 2000 0 hm).mpr ⟨_, rfl⟩⟩

/-- The service in memory always knows its wallet: a refresher that takes over the secrets of the
wallet that was just made shows the wallet instead. -/
theorem not_keepsSecrets_takeOver_memory :
    let svc := MemoryState.service (fun _ => ⟨"A", "aa", "acid"⟩) 50
    let s := (Session.start ⟨2, by decide⟩ {}).createWallet svc
    s.dashboard.mode = .justCreated ⟨"A", "aa", "acid"⟩ ∧
      ¬KeepsSecrets svc (fun (_ : Unit) m => m) ⟨"A", "aa", "acid"⟩
        (takeOver svc (.ofClock clockEnd) 2000 0 s) := by
  intro svc s
  refine ⟨by decide, fun h => ?_⟩
  have hmode : (takeOver svc (.ofClock clockEnd) 2000 0 s).2.dashboard.mode = .active ⟨"A", 0⟩ := by
    decide
  have hkept := (h.2 []).1
  rw [run_nil, hmode] at hkept
  cases hkept

end Refresher

end WalletDashboard
