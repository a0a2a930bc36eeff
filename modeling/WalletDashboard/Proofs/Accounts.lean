import WalletDashboard.Proofs.LogLines
import WalletDashboard.Proofs.Reporting
import WalletDashboard.Proofs.Watching

/-!
# Errors told and retries announced

When a refresh fails the user is told about the failure once, and the refresher announces once in
the log that it will try again. So the error notices and the announcements of a refresher can be
counted against each other.

* `Session.Announces s n s'`: on the way from `s` to `s'` the log announces `n` retries. No
  operation announces any (`load_announces`, `refresh_announces`).
* `Session.Accounts s extra s'`: the user is told about as many failures as retries are announced,
  and about `extra` more. At an alarm there is none more (`Refresher.wake_accounts`); when a
  refresher takes a session over there is one if the load fails (`Refresher.start_accounts`).
-/

namespace WalletDashboard

/-- The line announces that a refresh that failed will be tried again. -/
def LogLine.isRetry (l : LogLine) : Bool :=
  l.level == .warn && "[Refresher] Refresh failed".toList.isPrefixOf l.text.toList

/-- Only a warning announces a retry. -/
theorem LogLine.isRetry_of_level {level : LogLevel} (h : level ≠ .warn) (text : String) :
    (⟨level, text⟩ : LogLine).isRetry = false := by
  rw [isRetry, Bool.and_eq_false_iff]
  exact .inl (beq_eq_false_iff_ne.mpr h)

theorem Refresher.isRetry_retryLine (r : Refresher) : r.retryLine.isRetry = true := by
  have hstart : "[Refresher] Refresh failed".toList <+:
      ("[Refresher] Refresh failed | retrying in " ++ durationText r.pause).toList := by
    rw [String.toList_append]
    exact .trans (by decide) (List.prefix_append _ _)
  rw [LogLine.isRetry, Bool.and_eq_true, List.isPrefixOf_iff_prefix]
  exact ⟨rfl, hstart⟩

/-- No line announces a retry. -/
def IsQuietLog (log : List LogLine) : Prop := ∀ l ∈ log, l.isRetry = false

instance (log : List LogLine) : Decidable (IsQuietLog log) :=
  inferInstanceAs (Decidable (∀ l ∈ log, l.isRetry = false))

theorem isQuietLog_singleton {level : LogLevel} (h : level ≠ .warn) (text : String) :
    IsQuietLog [⟨level, text⟩] := by
  intro l hl
  rw [List.mem_singleton.mp hl]
  exact LogLine.isRetry_of_level h text

/-- The service does not write lines that announce retries. -/
def WalletService.IsQuiet {σ : Type} (svc : WalletService σ) : Prop :=
  ∀ c m, IsQuietLog (svc.call c m).log

/-- A line under another heading announces no retry. -/
theorem LogLine.HeadedBy.isRetry_eq {heading : String} {l : LogLine} (h : l.HeadedBy heading)
    (hapart : ¬heading.toList <+: "[Refresher] Refresh failed".toList ∧
      ¬"[Refresher] Refresh failed".toList <+: heading.toList) : l.isRetry = false := by
  rw [isRetry, Bool.and_eq_false_iff, ← Bool.not_eq_true, ← Bool.not_eq_true,
    List.isPrefixOf_iff_prefix]
  exact .inr (h.not hapart)

theorem WalletService.OwnLine.isRetry_eq {σ : Type} {svc : WalletService σ} (hsvc : svc.IsQuiet)
    {l : LogLine} (h : svc.OwnLine l) : l.isRetry = false := by
  rcases h with hdashboard | ⟨c, m, hl⟩
  · exact hdashboard.isRetry_eq (by decide)
  · exact hsvc c m l hl

namespace Session

variable {σ : Type}

/-- On the way from `s` to `s'` the log announces `n` retries. -/
def Announces (s : Session σ) (n : Nat) (s' : Session σ) : Prop :=
  ∃ lines, s'.log = s.log ++ lines ∧ lines.countP LogLine.isRetry = n

section Announces

variable {s s₁ s₂ : Session σ} {m n : Nat}

theorem Announces.of_log_eq (h : s₁.log = s.log) : Announces s 0 s₁ :=
  ⟨[], by rw [h, List.append_nil], rfl⟩

theorem Announces.after (h' : Announces s₁ n s₂) (h : Announces s m s₁) :
    Announces s (m + n) s₂ := by
  obtain ⟨lines, hl, hm⟩ := h
  obtain ⟨lines', hl', hn⟩ := h'
  exact ⟨lines ++ lines', by rw [hl', hl, List.append_assoc], by rw [List.countP_append, hm, hn]⟩

theorem Announces.write_quiet (h : Announces s n s₁) {lines : List LogLine}
    (hlines : IsQuietLog lines) : Announces s n (s₁.write lines) := by
  have hnone : lines.countP LogLine.isRetry = 0 := by
    rw [List.countP_eq_zero]
    exact fun l hl => Bool.eq_false_iff.mp (hlines l hl)
  exact Announces.after ⟨lines, rfl, hnone⟩ h

theorem Announces.write_one (h : Announces s n s₁) {level : LogLevel} (hlevel : level ≠ .warn)
    (text : String) : Announces s n (s₁.write [⟨level, text⟩]) :=
  h.write_quiet (isQuietLog_singleton hlevel text)

theorem Announces.of_writes {P : LogLine → Prop} (h : Writes P s s₁)
    (hP : ∀ l, P l → l.isRetry = false) : Announces s 0 s₁ := by
  obtain ⟨lines, hl, hlines⟩ := h
  refine ⟨lines, hl, List.countP_eq_zero.mpr fun l hmem => ?_⟩
  rw [hP l (hlines l hmem)]
  exact Bool.false_ne_true

end Announces

section Operations

variable {svc : WalletService σ} (hsvc : svc.IsQuiet) (s : Session σ)

include hsvc

theorem load_announces : Announces s 0 (s.load svc).2 :=
  .of_writes (load_writes svc s) fun _ h => h.isRetry_eq hsvc

theorem refresh_announces : Announces s 0 (s.refresh svc).2 :=
  .of_writes (refresh_writes svc s) fun _ h => h.isRetry_eq hsvc

end Operations

/-- On the way from `s` to `s'` the user is told about as many failures as retries are announced in
the log, and about `extra` more. -/
def Accounts (s : Session σ) (extra : Nat) (s' : Session σ) : Prop :=
  ∃ n es, Announces s n s' ∧ Tells s es s' ∧ es.length = n + extra

section Accounts

variable {s s₁ s₂ : Session σ} {extra extra' : Nat}

theorem Accounts.of_eq (hlog : s₁.log = s.log) (houtbox : s₁.outbox = s.outbox) :
    Accounts s 0 s₁ :=
  ⟨0, [], .of_log_eq hlog, .of_outbox_eq houtbox, rfl⟩

theorem Accounts.after (h' : Accounts s₁ extra' s₂) (h : Accounts s extra s₁) :
    Accounts s (extra + extra') s₂ := by
  obtain ⟨n, es, ha, ht, hl⟩ := h
  obtain ⟨n', es', ha', ht', hl'⟩ := h'
  refine ⟨n + n', es ++ es', ha'.after ha, ht'.after ht, ?_⟩
  rw [List.length_append, hl, hl']
  omega

theorem Accounts.write_one (h : Accounts s extra s₁) {level : LogLevel} (hlevel : level ≠ .warn)
    (text : String) : Accounts s extra (s₁.write [⟨level, text⟩]) := by
  obtain ⟨n, es, ha, ht, hl⟩ := h
  exact ⟨n, es, ha.write_one hlevel text, ht, hl⟩

/-- To announce a retry settles one failure. -/
theorem Accounts.write_retry (h : Accounts s (extra + 1) s₁) {line : LogLine}
    (hline : line.isRetry = true) : Accounts s extra (s₁.write [line]) := by
  obtain ⟨n, es, ha, ht, hl⟩ := h
  have hone : Announces s₁ 1 (s₁.write [line]) :=
    ⟨[line], rfl, by rw [List.countP_singleton, if_pos hline]⟩
  exact ⟨n + 1, es, hone.after ha, ht, by omega⟩

/-- Whatever reports a failure and announces no retry is one failure ahead, unless it succeeds. -/
theorem Accounts.of_reports {stop : Option Failure} {r : Bool × Session σ} (h : Reports s stop r)
    (ha : Announces s 0 r.2) : Accounts s (if r.1 = true then 0 else 1) r.2 := by
  refine ⟨0, stop.toList, ha, h.tells, ?_⟩
  rw [h.fst_eq]
  cases stop <;> rfl

end Accounts

end Session

namespace Refresher

variable {σ : Type} {svc : WalletService σ} (hsvc : svc.IsQuiet)

include hsvc

/-- At every alarm a failure is told exactly if a retry is announced. -/
theorem wake_accounts (r : Refresher) (s : Session σ) : s.Accounts 0 (r.wake svc s).2 := by
  cases hp : r.phase with
  | waiting now =>
    have hrefresh := Session.Accounts.of_reports (Session.refresh_reports svc s)
      (Session.refresh_announces hsvc s)
    rw [wake_of_waiting svc hp]
    rcases hr : s.refresh svc with ⟨_ | _, s'⟩
    · rw [hr] at hrefresh
      exact Session.Accounts.write_retry hrefresh r.isRetry_retryLine
    · rw [hr] at hrefresh
      exact Session.Accounts.write_one hrefresh (by decide) _
  | pausing now =>
    rw [wake_of_pausing svc hp]
    exact .of_eq rfl rfl
  | ended =>
    rw [wake_of_ended svc hp]
    exact .of_eq rfl rfl

theorem runUntil_accounts (time : Nat) (r : Refresher) (s : Session σ) :
    s.Accounts 0 (r.runUntil svc time s).2 :=
  runUntil_keeps svc (P := fun x => s.Accounts 0 x.2)
    (fun r' s' h => (wake_accounts hsvc r' s').after h) time (.of_eq rfl rfl)

/-- When a refresher takes over, one failure more is told if the session cannot be loaded. -/
theorem start_accounts (timer : Timer) (period now : Nat) (s : Session σ) :
    s.Accounts (if (s.load svc).1 = true then 0 else 1) (start svc timer period now s).2 := by
  let s₁ := s.write [⟨.info, "[Refresher] Starting with interval " ++ durationText period⟩]
  have hfst : (s₁.load svc).1 = (s.load svc).1 := by
    rw [(Session.load_reports svc s₁).fst_eq, (Session.load_reports svc s).fst_eq]
    rfl
  have hload := Session.Accounts.of_reports (Session.load_reports svc s₁)
    (Session.load_announces hsvc s₁)
  rw [hfst] at hload
  have hstart : s.Accounts 0 s₁ :=
    (Session.Accounts.of_eq (s := s) rfl rfl).write_one (by decide) _
  have htake : s.Accounts (if (s.load svc).1 = true then 0 else 1)
      (takeOver svc timer period now s).2 := by
    have hboth := hload.after hstart
    rw [Nat.zero_add] at hboth
    exact hboth.write_one (by decide) _
  exact (runUntil_accounts hsvc now _ _).after htake

end Refresher

end WalletDashboard
