import Mathlib.Data.List.Forall2
import WalletDashboard.Proofs.Operations

/-!
# Services that a dashboard cannot tell apart

One service simulates another up to a relation between their states if every operation, called in
related states, gives alike outcomes and leads to related states (`WalletService.Simulates`).
Outcomes are alike if they have the same value, or if both are failures that agree about being
`Failure.invalidKey`: the dashboard makes nothing of a failure but a notice.

Sessions are alike if their dashboards are the same, their services are in related states and their
outboxes hold alike notices (`Session.Alike`). Every operation keeps alike sessions alike and gives
the same back (`Session.Alike.perform`), and so does every run (`Session.Alike.trail`).
-/

namespace WalletDashboard

/-! ### Alike failures and notices -/

namespace Failure

/-- Both failures are about a key that belongs to no wallet, or neither is. -/
def Alike (e f : Failure) : Prop := e = .invalidKey ↔ f = .invalidKey

theorem Alike.refl (e : Failure) : e.Alike e := Iff.rfl

/-- The letter that the text of a failure starts with. -/
def initial : Failure → Char
  | client _ => 'A'
  | config _ => 'C'
  | invalidKey => 'I'
  | importRefused _ | service _ => 'W'
  | noWallet => 'N'

theorem head?_toList_message (e : Failure) : e.message.toList.head? = some e.initial := by
  unfold message
  split <;> simp [String.toList_append, initial]

/-- The text of a failure tells whether it is about a key: no other text starts as that one. -/
theorem message_eq_message_invalidKey_iff (e : Failure) :
    e.message = invalidKey.message ↔ e = .invalidKey := by
  refine ⟨fun h => ?_, congrArg message⟩
  have hi : e.initial = 'I' := by
    have hh := head?_toList_message e
    rw [h, head?_toList_message] at hh
    exact (Option.some.inj hh).symm
  clear h
  cases e <;> simp [initial] at hi ⊢

end Failure

/-- Notices of one kind. What they say is the same, except that two errors may differ if neither is
about a key that belongs to no wallet. -/
def Notice.Alike : Notice → Notice → Prop
  | .info text, .info text' => text = text'
  | .error text, .error text' =>
    text = Failure.invalidKey.message ↔ text' = Failure.invalidKey.message
  | _, _ => False

theorem Notice.alike_info (text : String) : Alike (.info text) (.info text) := rfl

theorem Failure.Alike.notice {e f : Failure} (h : e.Alike f) :
    Notice.Alike (.error e.message) (.error f.message) := by
  change e.message = _ ↔ f.message = _
  rw [e.message_eq_message_invalidKey_iff, f.message_eq_message_invalidKey_iff]
  exact h

/-! ### Alike replies -/

variable {σ τ α κ : Type}

/-- Two replies with the same value or with alike failures, and the states after them. -/
inductive Reply.Alike (R : σ → τ → Prop) (r : Reply σ α) (r' : Reply τ α) : Prop
  | ok (a : α) (h : r.outcome = .ok a) (h' : r'.outcome = .ok a) (hs : R r.state r'.state)
  | error (e f : Failure) (he : e.Alike f) (h : r.outcome = .error e) (h' : r'.outcome = .error f)
    (hs : R r.state r'.state)

theorem Reply.Alike.state {R : σ → τ → Prop} {r : Reply σ α} {r' : Reply τ α}
    (h : r.Alike R r') : R r.state r'.state := by
  cases h <;> assumption

/-- The first service does in every state what the second does in any related state. -/
structure WalletService.Simulates (R : σ → τ → Prop) (svc : WalletService σ)
    (svc' : WalletService τ) : Prop where
  getWallet {m : σ} {n : τ} (h : R m n) : (svc.getWallet m).Alike R (svc'.getWallet n)
  createWallet {m : σ} {n : τ} (h : R m n) : (svc.createWallet m).Alike R (svc'.createWallet n)
  importWallet (key : String) {m : σ} {n : τ} (h : R m n) :
    (svc.importWallet key m).Alike R (svc'.importWallet key n)
  refreshWallet {m : σ} {n : τ} (h : R m n) :
    (svc.refreshWallet m).Alike R (svc'.refreshWallet n)
  refreshBlockHeight {m : σ} {n : τ} (h : R m n) :
    (svc.refreshBlockHeight m).Alike R (svc'.refreshBlockHeight n)
  logout {m : σ} {n : τ} (h : R m n) : (svc.logout m).Alike R (svc'.logout n)
  recentBlocks {m : σ} {n : τ} (h : R m n) : (svc.recentBlocks m).Alike R (svc'.recentBlocks n)

namespace Session

/-! ### Alike sessions -/

/-- Sessions that show the same and whose users were told the same. -/
structure Alike (R : σ → τ → Prop) (s : Session σ) (t : Session τ) : Prop where
  dashboard : s.dashboard = t.dashboard
  service : R s.service t.service
  isRead : s.outbox.isRead = t.outbox.isRead
  unread : List.Forall₂ Notice.Alike s.outbox.unread t.outbox.unread

/-- Alike sessions, after something that gave the same back. -/
def Matches {β : Type} (R : σ → τ → Prop) (x : β × Session σ) (y : β × Session τ) : Prop :=
  x.1 = y.1 ∧ x.2.Alike R y.2

/-- Alike sessions, after something that gave alike outcomes. -/
inductive Settles (R : σ → τ → Prop) (x : Except Failure α × Session σ)
    (y : Except Failure α × Session τ) : Prop
  | ok (a : α) (s : Session σ) (t : Session τ) (hx : x = (.ok a, s)) (hy : y = (.ok a, t))
    (h : s.Alike R t)
  | error (e f : Failure) (s : Session σ) (t : Session τ) (he : e.Alike f) (hx : x = (.error e, s))
    (hy : y = (.error f, t)) (h : s.Alike R t)

namespace Alike

variable {R : σ → τ → Prop} {s : Session σ} {t : Session τ}

theorem start (size : PageSize) {m : σ} {n : τ} (h : R m n) :
    (Session.start size m).Alike R (Session.start size n) where
  dashboard := rfl
  service := h
  isRead := rfl
  unread := .nil

theorem onDashboard (h : s.Alike R t) (f : Dashboard → Dashboard) :
    (s.onDashboard f).Alike R (t.onDashboard f) :=
  { h with dashboard := congrArg f h.dashboard }

/-- What is in the log does not matter. -/
theorem write (h : s.Alike R t) (lines lines' : List LogLine) :
    (s.write lines).Alike R (t.write lines') :=
  { h with }

theorem ask (h : s.Alike R t) {f : σ → Reply σ α} {g : τ → Reply τ α}
    (hs : R (f s.service).state (g t.service).state) : (s.ask f).2.Alike R (t.ask g).2 :=
  { h with service := hs }

theorem notify (h : s.Alike R t) {n n' : Notice} (hn : n.Alike n') :
    (s.notify n).Alike R (t.notify n') := by
  unfold Session.notify
  rw [← h.isRead]
  split
  · exact { h with unread := List.rel_append h.unread (.cons hn .nil) }
  · exact h.write _ _

theorem notifyFailure (h : s.Alike R t) {e f : Failure} (he : e.Alike f) :
    (s.notifyFailure e).Alike R (t.notifyFailure f) :=
  (h.write _ _).notify he.notice

theorem turnTo (h : s.Alike R t) (mode : Mode) : (s.turnTo mode).Alike R (t.turnTo mode) := by
  unfold Session.turnTo
  rw [← h.dashboard]
  refine onDashboard ?_ _
  split
  · exact h
  · exact h.write _ _

/-! ### The operations on alike sessions -/

variable {svc : WalletService σ} {svc' : WalletService τ}

theorem reloadBlocks (h : s.Alike R t) (hsim : svc.Simulates R svc') :
    Settles R (s.reloadBlocks svc) (t.reloadBlocks svc') := by
  cases ha : s.dashboard.mode.address? with
  | none =>
    exact .ok () _ _ (reloadBlocks_of_none ha) (reloadBlocks_of_none (h.dashboard ▸ ha))
      (h.onDashboard _)
  | some address =>
    have ha' : t.dashboard.mode.address? = some address := h.dashboard ▸ ha
    cases hsim.recentBlocks h.service with
    | ok blocks hb hb' hs =>
      exact .ok () _ _ (reloadBlocks_of_ok ha hb) (reloadBlocks_of_ok ha' hb')
        ((h.ask hs).onDashboard _)
    | error e f he hb hb' hs =>
      exact .error e f _ _ he (reloadBlocks_of_error ha hb) (reloadBlocks_of_error ha' hb')
        (h.ask hs)

theorem tryLoad (h : s.Alike R t) (hsim : svc.Simulates R svc') :
    Settles R (s.tryLoad svc) (t.tryLoad svc') := by
  cases hsim.getWallet h.service with
  | ok wallet hw hw' hs =>
    rw [tryLoad_of_ok hw, tryLoad_of_ok hw']
    exact ((h.ask hs).turnTo _).reloadBlocks hsim
  | error e f he hw hw' hs =>
    exact .error e f _ _ he (tryLoad_of_error hw) (tryLoad_of_error hw') (h.ask hs)

theorem load (h : s.Alike R t) (hsim : svc.Simulates R svc') :
    Matches R (s.load svc) (t.load svc') := by
  cases h.tryLoad hsim with
  | ok _ s' t' hx hy h' =>
    rw [load_of_ok hx, load_of_ok hy]
    exact ⟨rfl, h'⟩
  | error e f s' t' he hx hy h' =>
    rw [load_of_error hx, load_of_error hy]
    exact ⟨rfl, h'.notifyFailure he⟩

theorem createWallet (h : s.Alike R t) (hsim : svc.Simulates R svc') :
    (s.createWallet svc).Alike R (t.createWallet svc') := by
  cases hsim.createWallet h.service with
  | ok e hc hc' hs =>
    rw [createWallet_of_ok hc, createWallet_of_ok hc']
    exact (((h.ask hs).write _ _).notify (Notice.alike_info _)).turnTo _
  | error e f he hc hc' hs =>
    rw [createWallet_of_error hc, createWallet_of_error hc']
    exact (h.ask hs).notifyFailure he

theorem acknowledgeExport (h : s.Alike R t) (hsim : svc.Simulates R svc') :
    (s.acknowledgeExport svc).Alike R (t.acknowledgeExport svc') := by
  unfold Session.acknowledgeExport
  rw [← h.dashboard]
  split
  · exact (h.load hsim).2
  · exact h

theorem importWallet (h : s.Alike R t) (hsim : svc.Simulates R svc') (key : String) :
    Matches R (s.importWallet svc key) (t.importWallet svc' key) := by
  by_cases hk : Text.trim key = ""
  · rw [importWallet_of_blank hk, importWallet_of_blank hk]
    exact ⟨rfl, h.notifyFailure (.refl _)⟩
  · cases hsim.importWallet (Text.trim key) h.service with
    | ok _ hi hi' hs =>
      rw [importWallet_of_ok hk hi, importWallet_of_ok hk hi']
      exact ((h.ask hs).notify (Notice.alike_info _)).load hsim
    | error e f he hi hi' hs =>
      rw [importWallet_of_error hk hi, importWallet_of_error hk hi']
      exact ⟨rfl, (h.ask hs).notifyFailure he⟩

theorem importOnStartup (h : s.Alike R t) (hsim : svc.Simulates R svc') (key : String) :
    Matches R (s.importOnStartup svc key) (t.importOnStartup svc' key) := by
  have hl := h.load hsim
  rcases hs : s.load svc with ⟨loaded, s'⟩
  rcases ht : t.load svc' with ⟨loaded', t'⟩
  rw [hs, ht] at hl
  obtain ⟨rfl, h'⟩ : loaded = loaded' ∧ s'.Alike R t' := hl
  simp only [Session.importOnStartup, hs, ht]
  cases loaded with
  | false => exact ⟨rfl, h'⟩
  | true =>
    simp only [← h'.dashboard]
    split
    · exact ⟨rfl, h'.write _ _⟩
    · exact h'.importWallet hsim key

theorem refreshBoth (h : s.Alike R t) (hsim : svc.Simulates R svc') :
    Settles R (s.refreshBoth svc) (t.refreshBoth svc') := by
  have hw := hsim.refreshWallet h.service
  have hh := hsim.refreshBlockHeight hw.state
  have hs : (s.refreshBoth svc).2.Alike R (t.refreshBoth svc').2 := by
    rw [snd_refreshBoth, snd_refreshBoth]
    exact (((h.onDashboard _).ask hw.state).ask hh.state).onDashboard _
  cases hw with
  | ok _ ho ho' =>
    cases hh with
    | ok height hb hb' =>
      refine .ok height _ _ (Prod.ext ?_ rfl) (Prod.ext ?_ rfl) hs
      · rw [fst_refreshBoth, ho, hb]
        rfl
      · rw [fst_refreshBoth, ho', hb']
        rfl
    | error e f he hb hb' =>
      refine .error e f _ _ he (Prod.ext ?_ rfl) (Prod.ext ?_ rfl) hs
      · rw [fst_refreshBoth, ho, hb]
        rfl
      · rw [fst_refreshBoth, ho', hb']
        rfl
  | error e f he ho ho' =>
    refine .error e f _ _ he (Prod.ext ?_ rfl) (Prod.ext ?_ rfl) hs
    · rw [fst_refreshBoth, ho]
      rfl
    · rw [fst_refreshBoth, ho']
      rfl

theorem refresh (h : s.Alike R t) (hsim : svc.Simulates R svc') :
    Matches R (s.refresh svc) (t.refresh svc') := by
  cases hm : s.dashboard.mode with
  | justCreated e =>
    rw [refresh_of_justCreated hm, refresh_of_justCreated (h.dashboard ▸ hm)]
    exact ⟨rfl, h⟩
  | noWallet =>
    rw [refresh_of_noWallet hm, refresh_of_noWallet (h.dashboard ▸ hm)]
    exact h.load hsim
  | active w =>
    have hm' : t.dashboard.mode = .active w := h.dashboard ▸ hm
    cases h.refreshBoth hsim with
    | ok height s' t' hx hy h' =>
      rw [refresh_of_ok hm (congrArg Prod.fst hx), refresh_of_ok hm' (congrArg Prod.fst hy), hx,
        hy]
      exact (h'.onDashboard _).load hsim
    | error e f s' t' he hx hy h' =>
      rw [refresh_of_error hm (congrArg Prod.fst hx), refresh_of_error hm' (congrArg Prod.fst hy),
        hx, hy]
      exact ⟨rfl, h'.notifyFailure he⟩

theorem confirmSwitch (h : s.Alike R t) (hsim : svc.Simulates R svc') :
    (s.confirmSwitch svc).Alike R (t.confirmSwitch svc') := by
  cases hsw : s.dashboard.switch with
  | closed =>
    rw [confirmSwitch_of_closed hsw, confirmSwitch_of_closed (h.dashboard ▸ hsw)]
    exact h
  | opened =>
    have hsw' : t.dashboard.switch = .opened := h.dashboard ▸ hsw
    have hclosed := h.onDashboard ({ · with switch := .closed })
    cases hsim.logout h.service with
    | ok _ ho ho' hs =>
      rw [confirmSwitch_of_ok hsw ho, confirmSwitch_of_ok hsw' ho']
      exact (((hclosed.ask hs).write _ _).load hsim).2
    | error e f he ho ho' hs =>
      rw [confirmSwitch_of_error hsw ho, confirmSwitch_of_error hsw' ho']
      exact (((hclosed.ask hs).notifyFailure he).load hsim).2

/-- **Every operation gives the same back and keeps alike sessions alike.** -/
theorem perform (h : s.Alike R t) (hsim : svc.Simulates R svc') (a : Action) :
    Matches R (s.perform svc a) (t.perform svc' a) := by
  have told {x : Bool × Session σ} {y : Bool × Session τ} (hxy : Matches R x y) :
      Matches R (x.map some id) (y.map some id) := ⟨congrArg some hxy.1, hxy.2⟩
  cases a <;> simp only [Session.perform]
  case load => exact told (h.load hsim)
  case refresh => exact told (h.refresh hsim)
  case importWallet key => exact told (h.importWallet hsim key)
  case importOnStartup key => exact told (h.importOnStartup hsim key)
  case createWallet => exact ⟨rfl, h.createWallet hsim⟩
  case acknowledgeExport => exact ⟨rfl, h.acknowledgeExport hsim⟩
  case requestSwitch => exact ⟨rfl, h.onDashboard fun d => { d with switch := d.switch.request }⟩
  case cancelSwitch => exact ⟨rfl, h.onDashboard fun d => { d with switch := d.switch.cancel }⟩
  case confirmSwitch => exact ⟨rfl, h.confirmSwitch hsim⟩
  case nextPage => exact ⟨rfl, h.onDashboard (·.nextPage)⟩
  case previousPage => exact ⟨rfl, h.onDashboard (·.previousPage)⟩
  case jumpToPage page => exact ⟨rfl, h.onDashboard (·.jumpToPage page)⟩

theorem dropReader (h : s.Alike R t) : s.dropReader.Alike R t.dropReader where
  dashboard := h.dashboard
  service := h.service
  isRead := rfl
  unread := .nil

/-! ### Runs of alike sessions -/

variable {affect : κ → σ → σ} {affect' : κ → τ → τ}

theorem step (h : s.Alike R t) (hsim : svc.Simulates R svc')
    (haffect : ∀ k m n, R m n → R (affect k m) (affect' k n)) (e : Event κ) :
    Matches R (s.step svc affect e) (t.step svc' affect' e) := by
  cases e with
  | act a => exact h.perform hsim a
  | outside k => exact ⟨rfl, { h with service := haffect k _ _ h.service }⟩
  | readerLeaves => exact ⟨rfl, h.dropReader⟩

/-- **Alike sessions stay alike in every run,** and every event of it gives the same back. -/
theorem trail (h : s.Alike R t) (hsim : svc.Simulates R svc')
    (haffect : ∀ k m n, R m n → R (affect k m) (affect' k n)) (events : List (Event κ)) :
    List.Forall₂ (Matches R) (s.trail svc affect events) (t.trail svc' affect' events) := by
  induction events generalizing s t with
  | nil => exact .nil
  | cons e events ih =>
    -- The event leaves alike sessions behind, so the induction goes on from these.
    have he := h.step hsim haffect e
    exact .cons he (ih he.2)

end Alike

end Session

end WalletDashboard
