import WalletDashboard.Proofs.Exchanges
import WalletDashboard.Proofs.Secrecy
import WalletDashboard.Proofs.SideBySide

/-!
# When nobody reads the notices

The notices are for a reader who may go away at any time. An operation sends its notices in the
midst of its work, and then goes on whether they were taken or not.

* `Moment` is what can happen, the reader's taking of the notices included. What is done to the
  service from elsewhere is given by its replies, so that it may be a call as well as a change from
  outside.
* `Glimpse` is what is seen at a moment apart from the notices: what is given back, what passes
  between the session and its service, the dashboard, the screen, and the state of the service. Over
  the service of a node every exchange is one request, and the state tells what the node received.
* `Session.Unheard` relates a session to the same one without a reader. No operation brings them
  apart (`Session.indifferent_unheard`).

`Session.glimpses_readerLeaves` puts a run in which the reader leaves beside the run in which the
reader stays.
-/

namespace WalletDashboard

/-- What can happen to a session and to the reader of its notices. -/
inductive Moment (κ : Type)
  | event (e : Event κ)
  /-- The reader takes the notices that wait. -/
  | reading

/-- What is seen at a moment, apart from the notices. -/
structure Glimpse (σ : Type) where
  feedback : Feedback
  exchanges : List Exchange
  dashboard : Dashboard
  screen : String
  service : σ

namespace Session

variable {σ κ : Type}

/-- What is seen of the session after something gave back `feedback` and had the exchanges `xs` with
the service. -/
def seen (feedback : Feedback) (xs : List Exchange) (s : Session σ) : Glimpse σ :=
  { feedback
    exchanges := xs
    dashboard := s.dashboard
    screen := s.dashboard.view
    service := s.service }

/-- The session after a moment. -/
def pass (svc : WalletService σ) (affect : κ → σ → Reply σ ServiceAnswer) (s : Session σ) :
    Moment κ → Session σ
  | .event (.act a) => (s.perform svc a).2
  | .event (.outside k) => (s.ask (affect k)).2
  | .event .readerLeaves => s.dropReader
  | .reading => s.takeNotices.2

/-- What is seen at a moment. -/
def glimpse (svc : WalletService σ) (affect : κ → σ → Reply σ ServiceAnswer) (s : Session σ)
    (x : Moment κ) : Glimpse σ :=
  match x with
  | .event (.act a) =>
    (s.pass svc affect x).seen ((s.perform svc a).1.elim .nothing .success) (s.exchanges svc a)
  | .event (.outside k) => (s.pass svc affect x).seen (.answer (s.ask (affect k)).1) []
  | .event .readerLeaves | .reading => (s.pass svc affect x).seen .nothing []

/-- The notices that the reader receives at a moment. -/
def received (s : Session σ) : Moment κ → List Notice
  | .event _ => []
  | .reading => s.takeNotices.1

/-- The session after some moments. -/
def passAll (svc : WalletService σ) (affect : κ → σ → Reply σ ServiceAnswer) (s : Session σ) :
    List (Moment κ) → Session σ
  | [] => s
  | x :: xs => (s.pass svc affect x).passAll svc affect xs

/-- What is seen at some moments, each with the notices that are received. -/
def glimpses (svc : WalletService σ) (affect : κ → σ → Reply σ ServiceAnswer) (s : Session σ) :
    List (Moment κ) → List (Glimpse σ × List Notice)
  | [] => []
  | x :: xs =>
    (s.glimpse svc affect x, s.received x) :: (s.pass svc affect x).glimpses svc affect xs

variable (svc : WalletService σ) (affect : κ → σ → Reply σ ServiceAnswer)

theorem length_glimpses (s : Session σ) (xs : List (Moment κ)) :
    (s.glimpses svc affect xs).length = xs.length := by
  induction xs generalizing s with
  | nil => rfl
  | cons x xs ih => exact congrArg Nat.succ (ih _)

theorem glimpses_append (s : Session σ) (xs ys : List (Moment κ)) :
    s.glimpses svc affect (xs ++ ys) =
      s.glimpses svc affect xs ++ (s.passAll svc affect xs).glimpses svc affect ys := by
  induction xs generalizing s with
  | nil => rfl
  | cons x xs ih => exact congrArg (_ :: ·) (ih _)

/-! ### The session without a reader -/

/-- The session `t` is the session `s` without a reader. Only the outbox and the log may differ. -/
structure Unheard (s t : Session σ) : Prop where
  dashboard : t.dashboard = s.dashboard
  service : t.service = s.service
  outbox : t.outbox = ⟨false, []⟩

theorem unheard_dropReader (s : Session σ) : Unheard s s.dropReader := ⟨rfl, rfl, rfl⟩

/-- Without a reader a notice goes no further than to the log. -/
theorem notify_of_unheard {s t : Session σ} (h : Unheard s t) (notice : Notice) :
    t.notify notice = t.write [⟨.warn, "[Dashboard] Notification receiver dropped"⟩] := by
  rw [notify, h.outbox]
  exact if_neg Bool.false_ne_true

/-- Sending is the one step that depends on the reader, and it changes nothing but the outbox and
the log. -/
theorem indifferent_unheard : Indifferent (Unheard (σ := σ)) where
  dashboard_eq h := h.dashboard
  service_eq h := h.service
  onDashboard h f := ⟨congrArg f h.dashboard, h.service, h.outbox⟩
  onService h f := ⟨h.dashboard, congrArg f h.service, h.outbox⟩
  write h _ := ⟨h.dashboard, h.service, h.outbox⟩
  notify {s t} h notice := by
    rw [notify_of_unheard h]
    exact
      { dashboard := h.dashboard.trans (dashboard_notify s notice).symm
        service := h.service.trans (service_notify s notice).symm
        outbox := h.outbox }

variable {s t : Session σ}

theorem Unheard.pass (h : Unheard s t) (x : Moment κ) :
    Unheard (s.pass svc affect x) (t.pass svc affect x) := by
  cases x with
  | event e =>
    cases e with
    | act a => exact (indifferent_unheard.perform svc h a).2
    | outside k => exact (indifferent_unheard.ask h (affect k)).2
    | readerLeaves => exact ⟨h.dashboard, h.service, rfl⟩
  | reading =>
    refine ⟨h.dashboard, h.service, ?_⟩
    show t.outbox.take.2 = _
    rw [h.outbox]
    rfl

theorem Unheard.seen_eq (h : Unheard s t) (feedback : Feedback) (xs : List Exchange) :
    t.seen feedback xs = s.seen feedback xs := by
  rw [seen, h.dashboard, h.service, seen]

theorem Unheard.glimpse_eq (h : Unheard s t) (x : Moment κ) :
    t.glimpse svc affect x = s.glimpse svc affect x := by
  have hpass := h.pass svc affect x
  cases x with
  | event e =>
    cases e with
    | act a =>
      have hfst := (indifferent_unheard.perform svc h a).1
      have hexchanges : t.exchanges svc a = s.exchanges svc a := by
        rw [exchanges_eq, exchanges_eq, h.dashboard, h.service]
      rw [glimpse, glimpse, hpass.seen_eq, ← hfst, hexchanges]
    | outside k =>
      have hfst := (indifferent_unheard.ask h (affect k)).1
      rw [glimpse, glimpse, hpass.seen_eq, ← hfst]
    | readerLeaves => exact hpass.seen_eq _ _
  | reading => exact hpass.seen_eq _ _

theorem Unheard.received_eq (h : Unheard s t) (x : Moment κ) : t.received x = [] := by
  cases x with
  | event e => rfl
  | reading =>
    show t.outbox.unread = []
    rw [h.outbox]

/-- Without a reader the same is seen at every moment, and no notice is received. -/
theorem Unheard.glimpses_eq (h : Unheard s t) (xs : List (Moment κ)) :
    t.glimpses svc affect xs =
      (s.glimpses svc affect xs).map fun (g, _) => (g, ([] : List Notice)) := by
  induction xs generalizing s t with
  | nil => rfl
  | cons x xs ih =>
    rw [glimpses, glimpses, List.map_cons, h.glimpse_eq, h.received_eq, ih (h.pass svc affect x)]

/-- **The reader may leave at any time.** Wherever that is in a run, up to there everything is as in
the run in which the reader stays, the notices included; that moment itself changes nothing; and
from there on the same is seen as in the other run, while no notice is received any more. -/
theorem glimpses_readerLeaves (s : Session σ) (before later : List (Moment κ)) :
    let staying := s.glimpses svc affect (before ++ later)
    s.glimpses svc affect (before ++ .event .readerLeaves :: later) =
      staying.take before.length ++
        ((s.passAll svc affect before).seen .nothing [], []) ::
          (staying.drop before.length).map fun (g, _) => (g, ([] : List Notice)) := by
  intro staying
  let now := s.passAll svc affect before
  have hlength := length_glimpses svc affect s before
  have hstaying : staying = s.glimpses svc affect before ++ now.glimpses svc affect later :=
    glimpses_append svc affect s before later
  have htake : staying.take before.length = s.glimpses svc affect before := by
    rw [hstaying, List.take_left' hlength]
  have hdrop : staying.drop before.length = now.glimpses svc affect later := by
    rw [hstaying, List.drop_left' hlength]
  have hleaving : now.glimpses svc affect (.event .readerLeaves :: later) =
      (now.seen .nothing [], []) ::
        (now.glimpses svc affect later).map fun (g, _) => (g, ([] : List Notice)) := by
    rw [glimpses]
    exact congrArg (_ :: ·) ((unheard_dropReader now).glimpses_eq svc affect later)
  rw [glimpses_append, hleaving, htake, hdrop]

end Session

end WalletDashboard
