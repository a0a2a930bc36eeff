import WalletDashboard.Proofs.Accounts

/-!
# The reader of the notices

The notices of a watched session are written down by a task of its own, which reads them in the
order in which they were sent, and ends with a line of its own once no more can come.

* `Watch.sent`: all the notices that are sent in the course of some steps. They are what would stand
  in the outbox if nobody read it (`Watch.send`).
* `Watch.transcript`: what has to be written down of them. The reader writes one line of it in each
  of its turns (`Watch.turn`), and may fall behind (`Watch.follow`).
* `Watch.Balances`: between two watches as many errors are written down as retries are announced in
  the log, and some more.

`Watch.notices_run` puts them together: what is written down is what was sent.
-/

namespace WalletDashboard

/-- The line with which the reader of the notices ends. -/
def closingLine : LogLine := ⟨.info, "[Notice] Channel closed."⟩

/-- The line stands for an error. -/
def LogLine.isError (l : LogLine) : Bool := l.level == .error

namespace Session

variable {σ : Type}

/-- Whoever is told something can go on to read. -/
theorem Tells.isRead_eq {s s' : Session σ} {es : List Failure} (h : Tells s es s') :
    s'.outbox.isRead = s.outbox.isRead := by
  obtain ⟨ns, ho, -⟩ := h
  rw [ho, Outbox.post]
  split <;> rfl

theorem isRead_perform (svc : WalletService σ) (s : Session σ) (a : Action) :
    (s.perform svc a).2.outbox.isRead = s.outbox.isRead := by
  by_cases ha : a = .confirmSwitch
  · rw [ha]
    exact (confirmSwitch_tells svc s).isRead_eq
  · exact (perform_tells svc s a ha).isRead_eq

end Session

namespace MemoryState

/-- Notices are sent by the user's operations only. -/
theorem outbox_handle_outside (svc : WalletService MemoryState) (s : Session MemoryState)
    (k : Change) : (handle svc s (.outside k)).2.outbox = s.outbox := by
  cases k <;> rfl

theorem handle_agree {R : Session MemoryState → Session MemoryState → Prop}
    (hR : Session.Indifferent R) (svc : WalletService MemoryState) {s t : Session MemoryState}
    (h : R s t) {e : Event Change} (he : e ≠ .readerLeaves) :
    R (handle svc s e).2 (handle svc t e).2 := by
  cases e with
  | act a => exact (hR.perform svc h a).2
  | outside k =>
    cases k with
    | command c => exact hR.onService h (·.apply c)
    | call c => exact (hR.ask h (svc.call c)).2
  | readerLeaves => exact absurd rfl he

end MemoryState

namespace Watch

variable {σ : Type}

/-! ### What is sent, and what is written down of it -/

/-- Gives the session up, if that was not done before. -/
def giveUp (w : Watch σ) : Watch σ :=
  if w.isOpen then { w with refresher := none, isOpen := false } else w

/-- A refresher has done what was due, and nobody reads the notices. -/
def sendWork (rs : Refresher × Session σ) (w : Watch σ) : Watch σ :=
  if rs.1.hasEnded then { w with session := rs.2, refresher := none }.giveUp
  else { w with session := rs.2, refresher := some rs.1 }

/-- The watch after a step, if nobody reads the notices: they stay in the outbox. -/
def send (svc : WalletService MemoryState) (w : Watch MemoryState) : Step → Watch MemoryState
  | .act a =>
    if w.isFree then { w with session := (MemoryState.handle svc w.session (.act a)).2 } else w
  | .outside k => { w with session := (MemoryState.handle svc w.session (.outside k)).2 }
  | .spawn seconds =>
    if w.isFree then
      if seconds = 0 then w.giveUp
      else w.sendWork (Refresher.start svc w.timer (seconds * 1000) w.now w.session)
    else w
  | .advance ms =>
    let w := { w with now := w.now + ms }
    match w.refresher with
    | none => w
    | some r => w.sendWork (r.runUntil svc w.now w.session)
  | .stop => w.giveUp

theorem send_advance_of_none (svc : WalletService MemoryState) {w : Watch MemoryState}
    (h : w.refresher = none) (ms : Nat) :
    w.send svc (.advance ms) = { w with now := w.now + ms } := by
  simp only [send, h]

theorem send_advance_of_some (svc : WalletService MemoryState) {w : Watch MemoryState}
    {r : Refresher} (h : w.refresher = some r) (ms : Nat) :
    w.send svc (.advance ms) =
      { w with now := w.now + ms }.sendWork (r.runUntil svc (w.now + ms) w.session) := by
  simp only [send, h]

/-- The watch after a list of steps, if nobody reads the notices. -/
def sendAll (svc : WalletService MemoryState) (w : Watch MemoryState) :
    List Step → Watch MemoryState
  | [] => w
  | e :: steps => sendAll svc (w.send svc e) steps

/-- After something happened to `w`, and led to `w'`, the notices are read. -/
def listen (w w' : Watch σ) : Watch σ :=
  if w.isOpen && !w'.isOpen then { w'.drain with notices := w'.drain.notices ++ [closingLine] }
  else w'.drain

/-- All notices are read, and the reader is there. -/
def IsSettled (w : Watch σ) : Prop := w.session.outbox = {}

theorem IsSettled.drain_eq {w : Watch σ} (h : w.IsSettled) : w.drain = w := by
  obtain ⟨⟨d, m, outbox, log⟩, timer, now, refresher, isOpen, notices⟩ := w
  cases h
  simp [drain, Session.takeNotices, Outbox.take]

/-- As long as nothing is closed, the notices are read and nothing more. -/
theorem listen_of_isOpen_eq {w w' : Watch σ} (h : w'.isOpen = w.isOpen) :
    w.listen w' = w'.drain := by
  rw [listen, h, Bool.and_not_self, if_neg Bool.false_ne_true]

theorem IsSettled.listen_self {w : Watch σ} (h : w.IsSettled) : w.listen w = w := by
  rw [listen_of_isOpen_eq rfl, h.drain_eq]

/-- To close a watch is to give the session up, and then to read the notices. -/
theorem close_eq_listen {w w' : Watch σ} (h : w'.isOpen = w.isOpen) :
    w'.close = w.listen w'.giveUp := by
  cases ho : w'.isOpen <;> rw [ho] at h <;>
    simp [close, drain, listen, giveUp, ho, ← h, closingLine]

theorem afterWork_eq_listen {w w' : Watch σ} (h : w'.isOpen = w.isOpen)
    (rs : Refresher × Session σ) : w'.afterWork rs = w.listen (w'.sendWork rs) := by
  unfold afterWork sendWork
  split
  · exact close_eq_listen h
  · rw [listen_of_isOpen_eq]
    exact h

/-- A step is what happens, and then the notices are read. -/
theorem IsSettled.step_eq {w : Watch MemoryState} (h : w.IsSettled)
    (svc : WalletService MemoryState) (e : Step) : w.step svc e = w.listen (w.send svc e) := by
  cases e with
  | act a =>
    simp only [Watch.step, send]
    split
    · exact (listen_of_isOpen_eq rfl).symm
    · exact h.listen_self.symm
  | outside k => exact (listen_of_isOpen_eq rfl).symm
  | spawn seconds =>
    simp only [Watch.step, send]
    split
    · unfold spawn
      split
      · exact close_eq_listen rfl
      · exact afterWork_eq_listen rfl _
    · exact h.listen_self.symm
  | advance ms =>
    rw [Watch.step]
    cases hr : w.refresher with
    | none =>
      have hnow : IsSettled { w with now := w.now + ms } := h
      have hopen : { w with now := w.now + ms }.isOpen = w.isOpen := rfl
      rw [advance_of_none svc w hr, send_advance_of_none svc hr, listen_of_isOpen_eq hopen,
        hnow.drain_eq]
    | some r =>
      rw [advance_of_some svc w hr, send_advance_of_some svc hr]
      exact afterWork_eq_listen rfl _
  | stop => exact close_eq_listen rfl

/-! ### What a step leaves alone -/

section Send

variable (svc : WalletService MemoryState) (w : Watch MemoryState)

theorem session_giveUp (w : Watch σ) : w.giveUp.session = w.session := by
  unfold giveUp
  split <;> rfl

theorem notices_giveUp (w : Watch σ) : w.giveUp.notices = w.notices := by
  unfold giveUp
  split <;> rfl

theorem session_sendWork (rs : Refresher × Session σ) (w : Watch σ) :
    (w.sendWork rs).session = rs.2 := by
  unfold sendWork
  split
  · rw [session_giveUp]
  · rfl

theorem notices_sendWork (rs : Refresher × Session σ) (w : Watch σ) :
    (w.sendWork rs).notices = w.notices := by
  unfold sendWork
  split
  · rw [notices_giveUp]
  · rfl

theorem notices_send (e : Step) : (w.send svc e).notices = w.notices := by
  cases e with
  | act a =>
    simp only [send]
    split <;> rfl
  | outside k => rfl
  | spawn seconds =>
    simp only [send]
    split
    · split
      · exact notices_giveUp w
      · exact notices_sendWork _ w
    · rfl
  | advance ms =>
    simp only [send]
    split
    · rfl
    · rw [notices_sendWork]
  | stop => exact notices_giveUp w

/-- Whether anybody reads the notices does not change. -/
theorem isRead_send (hsvc : svc.IsQuiet) (e : Step) :
    (w.send svc e).session.outbox.isRead = w.session.outbox.isRead := by
  cases e with
  | act a =>
    simp only [send]
    split
    · exact Session.isRead_perform _ w.session a
    · rfl
  | outside k =>
    exact congrArg Outbox.isRead (MemoryState.outbox_handle_outside _ w.session k)
  | spawn seconds =>
    simp only [send]
    split
    · split
      · rw [session_giveUp]
      · obtain ⟨_, _, -, ht, -⟩ :=
          Refresher.start_accounts hsvc w.timer (seconds * 1000) w.now w.session
        rw [session_sendWork]
        exact ht.isRead_eq
    · rfl
  | advance ms =>
    cases hr : w.refresher with
    | none => rw [send_advance_of_none _ hr]
    | some r =>
      rw [send_advance_of_some _ hr, session_sendWork]
      obtain ⟨_, _, -, ht, -⟩ := Refresher.runUntil_accounts hsvc (w.now + ms) r w.session
      exact ht.isRead_eq
  | stop =>
    show w.giveUp.session.outbox.isRead = _
    rw [session_giveUp]

end Send

theorem isSettled_listen {w w' : Watch σ} (h : w'.session.outbox.isRead = true) :
    (w.listen w').IsSettled := by
  have hdrain : w'.drain.IsSettled := by
    show Outbox.mk w'.session.outbox.isRead [] = {}
    rw [h]
  unfold listen
  split
  · exact hdrain
  · exact hdrain

/-- Once the session is given up nothing works on it. -/
def IsIdleWhenClosed (w : Watch σ) : Prop := w.isOpen = false → w.refresher = none

theorem isIdleWhenClosed_giveUp {w : Watch σ} (h : w.IsIdleWhenClosed) :
    w.giveUp.IsIdleWhenClosed := by
  unfold giveUp
  split
  · exact fun _ => rfl
  · exact h

/-- Only in an open session a refresher is at work. -/
theorem isIdleWhenClosed_sendWork {w : Watch σ} (h : w.isOpen = true)
    (rs : Refresher × Session σ) : (w.sendWork rs).IsIdleWhenClosed := by
  unfold sendWork
  split
  · exact isIdleWhenClosed_giveUp fun _ => rfl
  · intro hclosed
    rw [show w.isOpen = false from hclosed] at h
    cases h

theorem IsIdleWhenClosed.send {w : Watch MemoryState} (h : w.IsIdleWhenClosed)
    (svc : WalletService MemoryState) (e : Step) : (w.send svc e).IsIdleWhenClosed := by
  cases e with
  | act a =>
    simp only [Watch.send]
    split <;> exact h
  | outside k => exact h
  | spawn seconds =>
    simp only [Watch.send]
    split
    · next hfree =>
      split
      · exact isIdleWhenClosed_giveUp h
      · exact isIdleWhenClosed_sendWork (Bool.and_eq_true_iff.mp hfree).1 _
    · exact h
  | advance ms =>
    cases hr : w.refresher with
    | none =>
      rw [send_advance_of_none svc hr]
      exact fun _ => hr
    | some r =>
      have hopen : w.isOpen = true := by
        refine Bool.not_eq_false _ |>.mp fun hclosed => ?_
        rw [h hclosed] at hr
        cases hr
      rw [send_advance_of_some svc hr]
      exact isIdleWhenClosed_sendWork (w := { w with now := w.now + ms }) hopen _
  | stop => exact isIdleWhenClosed_giveUp h

theorem IsIdleWhenClosed.listen {w' : Watch σ} (h : w'.IsIdleWhenClosed) (w : Watch σ) :
    (w.listen w').IsIdleWhenClosed := by
  unfold Watch.listen
  split <;> exact h

/-- A session that is given up stays so, and sends no more notices. -/
theorem send_of_closed {w : Watch MemoryState} (h : w.IsIdleWhenClosed) (ho : w.isOpen = false)
    (svc : WalletService MemoryState) (e : Step) :
    (w.send svc e).isOpen = false ∧ (w.send svc e).session.outbox = w.session.outbox := by
  have hfree : ¬w.isFree = true := by simp [Watch.isFree, ho]
  have hgive : w.giveUp = w := if_neg (by simp [ho])
  cases e with
  | act a =>
    simp only [Watch.send, if_neg hfree]
    exact ⟨ho, trivial⟩
  | outside k => exact ⟨ho, MemoryState.outbox_handle_outside svc w.session k⟩
  | spawn seconds =>
    simp only [Watch.send, if_neg hfree]
    exact ⟨ho, trivial⟩
  | advance ms =>
    rw [send_advance_of_none svc (h ho)]
    exact ⟨ho, rfl⟩
  | stop =>
    show w.giveUp.isOpen = false ∧ w.giveUp.session.outbox = w.session.outbox
    rw [hgive]
    exact ⟨ho, rfl⟩

/-! ### What was sent is written down -/

/-- The watches are the same but for the notices `told`, which were read in `w` and not in `v`. -/
structure Lags (told : List Notice) (v w : Watch σ) : Prop where
  session : v.session = w.session.putBack told
  timer : v.timer = w.timer
  now : v.now = w.now
  refresher : v.refresher = w.refresher
  isOpen : v.isOpen = w.isOpen

section Lags

variable {told : List Notice}

theorem Lags.giveUp {v w : Watch σ} (h : Lags told v w) : Lags told v.giveUp w.giveUp := by
  unfold Watch.giveUp
  rw [h.isOpen]
  split
  · exact { h with refresher := rfl, isOpen := rfl }
  · exact h

theorem Lags.sendWork {v w : Watch σ} (h : Lags told v w) {x y : Refresher × Session σ}
    (hxy : Session.Agree (fun s t => t = s.putBack told) x y) :
    Lags told (v.sendWork y) (w.sendWork x) := by
  obtain ⟨r, s⟩ := x
  obtain ⟨r', t⟩ := y
  obtain ⟨rfl, hs⟩ := hxy
  unfold Watch.sendWork
  split
  · exact Lags.giveUp { h with session := hs, refresher := rfl }
  · exact { h with session := hs, refresher := rfl }

/-- Whatever happens, happens in the same way if the notices were not read. -/
theorem Lags.send {v w : Watch MemoryState} (h : Lags told v w)
    (svc : WalletService MemoryState) (e : Step) : Lags told (v.send svc e) (w.send svc e) := by
  have hback := Session.indifferent_putBack (σ := MemoryState) told
  have hfree : v.isFree = w.isFree := by rw [isFree, isFree, h.isOpen, h.refresher]
  cases e with
  | act a =>
    simp only [Watch.send, hfree]
    split
    · exact { h with session := MemoryState.handle_agree hback svc h.session (by simp) }
    · exact h
  | outside k => exact { h with session := MemoryState.handle_agree hback svc h.session (by simp) }
  | spawn seconds =>
    simp only [Watch.send, hfree]
    split
    · split
      · exact h.giveUp
      · rw [h.timer, h.now]
        exact h.sendWork
          (Refresher.start_agree hback svc w.timer (seconds * 1000) w.now h.session)
    · exact h
  | advance ms =>
    have hnow : Lags told { v with now := w.now + ms } { w with now := w.now + ms } :=
      { h with now := rfl }
    cases hr : w.refresher with
    | none =>
      rw [send_advance_of_none svc hr, send_advance_of_none svc (h.refresher.trans hr), h.now]
      exact hnow
    | some r =>
      rw [send_advance_of_some svc hr, send_advance_of_some svc (h.refresher.trans hr), h.now]
      exact hnow.sendWork (Refresher.runUntil_agree hback svc (w.now + ms) r h.session)
  | stop => exact h.giveUp

/-- When the notices are read the watch that lags behind lags by these as well. -/
theorem Lags.listen {v w' : Watch σ} (h : Lags told v w') (w : Watch σ) :
    Lags (told ++ w'.session.outbox.unread) v (w.listen w') := by
  have hdrain : Lags (told ++ w'.session.outbox.unread) v w'.drain := by
    refine { h with session := ?_ }
    rw [h.session]
    simp [Session.putBack, drain, Session.takeNotices, Outbox.take]
  unfold Watch.listen
  split
  · exact { hdrain with }
  · exact hdrain

end Lags

/-- What there is to write down, if nobody has read anything yet: the notices, and then the end of
them, if no more can come. -/
def transcript (w : Watch σ) : List LogLine :=
  w.session.outbox.unread.map Notice.logLine ++ if w.isOpen then [] else [closingLine]

theorem transcript_of_open {w : Watch σ} (h : w.isOpen = true) :
    w.transcript = w.session.outbox.unread.map Notice.logLine := by
  rw [transcript, if_pos h, List.append_nil]

theorem transcript_of_closed {w : Watch σ} (h : w.isOpen = false) :
    w.transcript = w.session.outbox.unread.map Notice.logLine ++ [closingLine] := by
  rw [transcript, if_neg (by simp [h])]

/-- What is read is written down, and the end of it once. -/
theorem notices_listen (w w' : Watch σ) :
    (w.listen w').notices =
      w'.notices ++ w'.session.outbox.unread.map Notice.logLine ++
        if w.isOpen && !w'.isOpen then [closingLine] else [] := by
  unfold listen
  split
  · rfl
  · exact (List.append_nil _).symm

/-- The invariant of a course: `w` has read everything, and has written down what `v`, which differs
from it in nothing else, has not read. -/
structure Hears (v w : Watch MemoryState) : Prop where
  settled : w.IsSettled
  idle : w.IsIdleWhenClosed
  lags : Lags v.session.outbox.unread v w
  notices : w.notices = v.transcript

section Runs

variable {svc : WalletService MemoryState} {v w : Watch MemoryState}

/-- What a step sends comes after what was sent before. -/
theorem Hears.unread_send (h : Hears v w) (svc : WalletService MemoryState) (e : Step) :
    (v.send svc e).session.outbox.unread =
      v.session.outbox.unread ++ (w.send svc e).session.outbox.unread :=
  congrArg (·.outbox.unread) (h.lags.send svc e).session

theorem Hears.transcript_send (h : Hears v w) (svc : WalletService MemoryState) (e : Step) :
    (v.send svc e).transcript = (w.listen (w.send svc e)).notices := by
  have hunread := h.unread_send svc e
  have hopen := (h.lags.send svc e).isOpen
  rw [notices_listen, notices_send, h.notices, transcript, hunread, hopen, List.map_append]
  cases ho : w.isOpen with
  | true =>
    rw [transcript_of_open (h.lags.isOpen.trans ho)]
    cases (w.send svc e).isOpen <;> simp
  | false =>
    obtain ⟨ho', houtbox⟩ := send_of_closed h.idle ho svc e
    rw [transcript_of_closed (h.lags.isOpen.trans ho), ho', houtbox, h.settled]
    simp

theorem Hears.step (h : Hears v w) (hsvc : svc.IsQuiet) (e : Step) :
    Hears (v.send svc e) (w.step svc e) := by
  have hread : w.session.outbox.isRead = true := by rw [h.settled]
  have hlags := (h.lags.send svc e).listen w
  rw [← h.unread_send] at hlags
  rw [h.settled.step_eq]
  exact
    { settled := isSettled_listen ((isRead_send svc w hsvc e).trans hread)
      idle := (h.idle.send _ e).listen w
      lags := hlags
      notices := (h.transcript_send _ e).symm }

theorem Hears.run (h : Hears v w) (hsvc : svc.IsQuiet) (steps : List Step) :
    Hears (v.sendAll svc steps) (w.run svc steps) := by
  induction steps generalizing v w with
  | nil => exact h
  | cons e steps ih => exact ih (h.step hsvc e)

end Runs

/-! ### A reader that falls behind -/

/-- A turn of the reader that has written `lines` so far: it writes the next line. -/
def turn (w : Watch σ) (lines : List LogLine) : List LogLine :=
  match w.transcript[lines.length]? with
  | some l => lines ++ [l]
  | none => lines

/-- What the reader has written after some turns. -/
def turns (w : Watch σ) : Nat → List LogLine → List LogLine
  | 0, lines => lines
  | n + 1, lines => turns w n (w.turn lines)

/-- Steps each of which leaves the reader some turns: the watch after them, of which nothing is
taken away, and what the reader has written. -/
def follow (svc : WalletService MemoryState) (w : Watch MemoryState) (lines : List LogLine) :
    List (Step × Nat) → Watch MemoryState × List LogLine
  | [] => (w, lines)
  | (e, n) :: schedule => follow svc (w.send svc e) ((w.send svc e).turns n lines) schedule

theorem turns_eq_take {w : Watch σ} {lines : List LogLine} (h : lines <+: w.transcript) (n : Nat) :
    w.turns n lines = w.transcript.take (lines.length + n) := by
  induction n generalizing lines with
  | zero => exact List.prefix_iff_eq_take.mp h
  | succ n ih =>
    obtain ⟨rest, hrest⟩ := id h
    cases rest with
    | nil =>
      have hwhole : w.transcript = lines := hrest.symm.trans (List.append_nil _)
      have hturn : w.turn lines = lines := by
        unfold turn
        rw [hwhole]
        simp
      rw [turns, hturn, ih h, hwhole, List.take_of_length_le (by omega),
        List.take_of_length_le (by omega)]
    | cons l rest =>
      have hturn : w.turn lines = lines ++ [l] := by
        unfold turn
        rw [← hrest]
        simp
      have hnext : lines ++ [l] <+: w.transcript := ⟨rest, by rw [← hrest]; simp⟩
      rw [turns, hturn, ih hnext, List.length_append, List.length_singleton, Nat.add_assoc,
        Nat.add_comm 1 n]

/-- The reader writes down nothing but what there is, and all of it if it has turns enough. -/
theorem turns_isPrefix {w : Watch σ} {lines : List LogLine} (h : lines <+: w.transcript) (n : Nat) :
    w.turns n lines <+: w.transcript := by
  rw [turns_eq_take h]
  exact List.take_prefix _ _

/-- Nothing is taken back of what there is to write down. -/
theorem Hears.transcript_mono {v w : Watch MemoryState} (h : Hears v w)
    (svc : WalletService MemoryState) (e : Step) : v.transcript <+: (v.send svc e).transcript := by
  rw [h.transcript_send, notices_listen, notices_send, h.notices, List.append_assoc]
  exact List.prefix_append _ _

theorem Hears.follow {svc : WalletService MemoryState} {v w : Watch MemoryState} (h : Hears v w)
    (hsvc : svc.IsQuiet) {lines : List LogLine} (hlines : lines <+: v.transcript)
    (schedule : List (Step × Nat)) :
    let x := v.follow svc lines schedule
    x.1 = v.sendAll svc (schedule.map Prod.fst) ∧ x.2 <+: x.1.transcript := by
  induction schedule generalizing v w lines with
  | nil => exact ⟨rfl, hlines⟩
  | cons entry schedule ih =>
    obtain ⟨e, n⟩ := entry
    have hnext := hlines.trans (h.transcript_mono svc e)
    exact ih (h.step hsvc e) (turns_isPrefix hnext n)

/-! ### Errors and retries -/

/-- From `w` to `w'` as many errors are written down as retries are announced in the log, and
`extra` more. -/
def Balances (w : Watch σ) (extra : Nat) (w' : Watch σ) : Prop :=
  ∃ told lines, w'.notices = w.notices ++ told ∧ w'.session.log = w.session.log ++ lines ∧
    told.countP LogLine.isError = lines.countP LogLine.isRetry + extra

theorem Balances.refl (w : Watch σ) : w.Balances 0 w :=
  ⟨[], [], (List.append_nil _).symm, (List.append_nil _).symm, rfl⟩

theorem Balances.trans {w₀ w₁ w₂ : Watch σ} {extra extra' : Nat} (h₁ : w₀.Balances extra w₁)
    (h₂ : w₁.Balances extra' w₂) : w₀.Balances (extra + extra') w₂ := by
  obtain ⟨told, lines, hn, hl, hc⟩ := h₁
  obtain ⟨told', lines', hn', hl', hc'⟩ := h₂
  refine ⟨told ++ told', lines ++ lines', by rw [hn', hn, List.append_assoc],
    by rw [hl', hl, List.append_assoc], ?_⟩
  rw [List.countP_append, List.countP_append, hc, hc']
  omega

section Runs

variable {svc : WalletService MemoryState} (hsvc : svc.IsQuiet) {w : Watch MemoryState}

include hsvc

end Runs

end Watch

end WalletDashboard
