import WalletDashboard.Proofs.Operations
import WalletDashboard.Service.Memory

/-!
# Who writes the lines of the log

A line of the log begins with the name of the part that wrote it, in brackets (`LogLine.HeadedBy`).
Two names of which neither begins with the other never head the same line, so that the lines of one
part can be told from those of another.

* `Session.Writes P s s'`: on the way from `s` to `s'` only lines with the property `P` are written.
* `WalletService.OwnLine`: a line of the dashboard or of the service. Whatever is loaded or
  refreshed, no other lines are written (`Session.load_writes`, `Session.refresh_writes`).
* `MemoryState.signed_call`: the service in memory writes lines under its own name only.
-/

namespace WalletDashboard

namespace LogLine

/-- The line begins with `heading`. -/
def HeadedBy (heading : String) (l : LogLine) : Prop := heading.toList <+: l.text.toList

instance (heading : String) (l : LogLine) : Decidable (l.HeadedBy heading) :=
  inferInstanceAs (Decidable (heading.toList <+: l.text.toList))

theorem headedBy_append (level : LogLevel) {heading start : String}
    (h : heading.toList <+: start.toList) (rest : String) :
    HeadedBy heading ⟨level, start ++ rest⟩ := by
  rw [HeadedBy, String.toList_append]
  exact h.trans (List.prefix_append _ _)

/-- Of two headings of one line one begins with the other. -/
theorem HeadedBy.not {heading other : String} {l : LogLine} (h : l.HeadedBy heading)
    (hapart : ¬heading.toList <+: other.toList ∧ ¬other.toList <+: heading.toList) :
    ¬l.HeadedBy other := by
  intro h'
  rcases List.prefix_or_prefix_of_prefix h h' with hp | hp
  · exact hapart.1 hp
  · exact hapart.2 hp

end LogLine

/-- The line is one of the dashboard, or one that the service can write. -/
def WalletService.OwnLine {σ : Type} (svc : WalletService σ) (l : LogLine) : Prop :=
  l.HeadedBy "[Dashboard]" ∨ ∃ c m, l ∈ (svc.call c m).log

namespace Session

variable {σ : Type}

/-- On the way from `s` to `s'` only lines with the property `P` are written. -/
def Writes (P : LogLine → Prop) (s s' : Session σ) : Prop :=
  ∃ lines, s'.log = s.log ++ lines ∧ ∀ l ∈ lines, P l

section Writes

variable {P : LogLine → Prop} {s s₁ s₂ : Session σ}

theorem Writes.of_log_eq (h : s₁.log = s.log) : Writes P s s₁ :=
  ⟨[], by rw [h, List.append_nil], by simp⟩

theorem Writes.after (h' : Writes P s₁ s₂) (h : Writes P s s₁) : Writes P s s₂ := by
  obtain ⟨lines, hl, hP⟩ := h
  obtain ⟨lines', hl', hP'⟩ := h'
  refine ⟨lines ++ lines', by rw [hl', hl, List.append_assoc], fun l hmem => ?_⟩
  rcases List.mem_append.mp hmem with hmem | hmem
  · exact hP l hmem
  · exact hP' l hmem

theorem Writes.write (h : Writes P s s₁) {lines : List LogLine} (hlines : ∀ l ∈ lines, P l) :
    Writes P s (s₁.write lines) :=
  Writes.after ⟨lines, rfl, hlines⟩ h

end Writes

section Own

variable {svc : WalletService σ} {s s₁ : Session σ}

/-- The dashboard writes a line. -/
theorem Writes.write_dashboard (h : Writes svc.OwnLine s s₁) (level : LogLevel) {start : String}
    (hstart : "[Dashboard]".toList <+: start.toList) (rest : String) :
    Writes svc.OwnLine s (s₁.write [⟨level, start ++ rest⟩]) := by
  refine h.write fun l hl => ?_
  rw [List.mem_singleton.mp hl]
  exact .inl (LogLine.headedBy_append level hstart rest)

theorem Writes.notify (h : Writes svc.OwnLine s s₁) (notice : Notice) :
    Writes svc.OwnLine s (s₁.notify notice) := by
  unfold Session.notify
  split
  · exact h
  · refine h.write fun l hl => ?_
    rw [List.mem_singleton.mp hl]
    exact .inl (by decide)

theorem Writes.notifyFailure (h : Writes svc.OwnLine s s₁) (e : Failure) :
    Writes svc.OwnLine s (s₁.notifyFailure e) :=
  (h.write_dashboard .error (by decide) _).notify _

theorem Writes.turnTo (h : Writes svc.OwnLine s s₁) (mode : Mode) :
    Writes svc.OwnLine s (s₁.turnTo mode) := by
  simp only [Session.turnTo]
  split
  · exact h
  · simp only [String.append_assoc]
    exact h.write_dashboard .info (by decide) _

/-- A call has the service write its lines. -/
theorem ask_writes (svc : WalletService σ) (s : Session σ) (c : ServiceCall) :
    Writes svc.OwnLine s (s.ask (svc.call c)).2 :=
  ⟨(svc.call c s.service).log, rfl, fun _ hl => .inr ⟨c, s.service, hl⟩⟩

theorem reloadBlocks_writes (svc : WalletService σ) (s : Session σ) :
    Writes svc.OwnLine s (s.reloadBlocks svc).2 := by
  have hask : Writes svc.OwnLine s (s.ask svc.recentBlocks).2 := ask_writes svc s .recentBlocks
  cases ha : s.dashboard.mode.address? with
  | none =>
    rw [reloadBlocks_of_none ha]
    exact .of_log_eq rfl
  | some address =>
    cases hb : (svc.recentBlocks s.service).outcome with
    | ok blocks =>
      rw [reloadBlocks_of_ok ha hb]
      exact hask
    | error e =>
      rw [reloadBlocks_of_error ha hb]
      exact hask

theorem tryLoad_writes (svc : WalletService σ) (s : Session σ) :
    Writes svc.OwnLine s (s.tryLoad svc).2 := by
  have hask : Writes svc.OwnLine s (s.ask svc.getWallet).2 := ask_writes svc s .getWallet
  cases hw : (svc.getWallet s.service).outcome with
  | ok wallet =>
    rw [tryLoad_of_ok hw]
    exact (reloadBlocks_writes svc _).after (hask.turnTo _)
  | error e =>
    rw [tryLoad_of_error hw]
    exact hask

/-- **A load writes lines of the dashboard and of the service, and no others.** -/
theorem load_writes (svc : WalletService σ) (s : Session σ) :
    Writes svc.OwnLine s (s.load svc).2 := by
  have htry := tryLoad_writes svc s
  rcases hl : s.tryLoad svc with ⟨e | _, s'⟩
  · rw [hl] at htry
    rw [load_of_error hl]
    exact htry.notifyFailure e
  · rw [hl] at htry
    rw [load_of_ok hl]
    exact htry

theorem refreshBoth_writes (svc : WalletService σ) (s : Session σ) :
    Writes svc.OwnLine s (s.refreshBoth svc).2 := by
  rw [snd_refreshBoth]
  have hwallet := ask_writes svc (s.onDashboard ({ · with refreshing := true })) .refreshWallet
  exact (ask_writes svc _ .refreshBlockHeight).after hwallet

/-- **So does a refresh.** -/
theorem refresh_writes (svc : WalletService σ) (s : Session σ) :
    Writes svc.OwnLine s (s.refresh svc).2 := by
  have hboth := refreshBoth_writes svc s
  cases hm : s.dashboard.mode with
  | justCreated e =>
    rw [refresh_of_justCreated hm]
    exact .of_log_eq rfl
  | noWallet =>
    rw [refresh_of_noWallet hm]
    exact load_writes svc s
  | active w =>
    cases hb : (s.refreshBoth svc).1 with
    | ok height =>
      rw [refresh_of_ok hm hb]
      exact (load_writes svc _).after hboth
    | error e =>
      rw [refresh_of_error hm hb]
      exact hboth.notifyFailure e

end Own

end Session

namespace MemoryState

/-- The lines are all written under the name of the service in memory. -/
def Signed (log : List LogLine) : Prop := ∀ l ∈ log, l.HeadedBy "[MemoryService]"

instance (log : List LogLine) : Decidable (Signed log) :=
  inferInstanceAs (Decidable (∀ l ∈ log, l.HeadedBy "[MemoryService]"))

theorem signed_nil : Signed [] := by rintro l ⟨⟩

theorem signed_singleton (level : LogLevel) {start : String}
    (hstart : "[MemoryService]".toList <+: start.toList) (rest : String) :
    Signed [⟨level, start ++ rest⟩] := by
  intro l hl
  rw [List.mem_singleton.mp hl]
  exact LogLine.headedBy_append level hstart rest

/-- The service in memory writes under its own name only. -/
theorem signed_call (mint : Nat → WalletExport) (window : Nat) (c : ServiceCall)
    (m : MemoryState) : Signed ((service mint window).call c m).log := by
  cases c with
  | getWallet => exact signed_nil
  | createWallet =>
    show Signed (createWallet mint m).log
    simp only [createWallet]
    split
    · exact signed_nil
    · exact signed_singleton .info (by decide) _
  | importWallet key =>
    show Signed (importWallet key m).log
    unfold importWallet
    split
    · exact signed_nil
    · exact signed_singleton .info (by decide) _
  | refreshWallet =>
    show Signed (refreshWallet m).log
    unfold refreshWallet
    repeat' split
    all_goals exact signed_nil
  | refreshBlockHeight =>
    show Signed (refreshBlockHeight m).log
    unfold refreshBlockHeight
    repeat' split
    all_goals exact signed_nil
  | logout =>
    show Signed (logout m).log
    unfold logout
    split
    · exact signed_nil
    · cases m.active with
      | none =>
        show Signed [_]
        decide
      | some address => exact signed_singleton .info (by decide) address
  | recentBlocks =>
    show Signed (recentBlocks window m).log
    unfold recentBlocks
    split <;> exact signed_nil

end MemoryState

end WalletDashboard
