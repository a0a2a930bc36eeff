import WalletDashboard.Dashboard.Session

/-!
# Runs of a session

What can happen to a session one event after another: the user does something (`Action`), the
service is changed from elsewhere, or the reader of the notices goes away. Changes from elsewhere
are labelled by a type `κ`, and `affect` says what each of them does to the state of the service, so
that a statement can allow any change (`κ` is arbitrary) or those of one service.

* `Session.run` is the session after a list of events, and `Session.trail` what every event gave
  back, with the session after it.
* `Session.run_keeps`: what every event keeps holds after every run.
-/

namespace WalletDashboard

/-- What can happen to a session. -/
inductive Event (κ : Type)
  /-- An operation of the user. -/
  | act (a : Action)
  /-- A change to the service from elsewhere, of which the dashboard is not told. -/
  | outside (k : κ)
  /-- From here on nobody reads notices. -/
  | readerLeaves
  deriving DecidableEq, Repr

namespace Session

variable {σ κ : Type}

/-- The session with another state of the service. -/
def onService (f : σ → σ) (s : Session σ) : Session σ := { s with service := f s.service }

/-- What an event gives back, if anything, and the session after it. -/
def step (svc : WalletService σ) (affect : κ → σ → σ) (s : Session σ) :
    Event κ → Option Bool × Session σ
  | .act a => s.perform svc a
  | .outside k => (none, s.onService (affect k))
  | .readerLeaves => (none, s.dropReader)

/-- The session after a list of events. -/
def run (svc : WalletService σ) (affect : κ → σ → σ) (s : Session σ) : List (Event κ) → Session σ
  | [] => s
  | e :: events => (s.step svc affect e).2.run svc affect events

/-- What the events of a list give back, each with the session after it. -/
def trail (svc : WalletService σ) (affect : κ → σ → σ) (s : Session σ) :
    List (Event κ) → List (Option Bool × Session σ)
  | [] => []
  | e :: events => s.step svc affect e :: (s.step svc affect e).2.trail svc affect events

variable (svc : WalletService σ) (affect : κ → σ → σ)

@[simp] theorem run_nil (s : Session σ) : s.run svc affect [] = s := rfl

@[simp] theorem run_cons (s : Session σ) (e : Event κ) (events : List (Event κ)) :
    s.run svc affect (e :: events) = (s.step svc affect e).2.run svc affect events := rfl

theorem run_append (s : Session σ) (events later : List (Event κ)) :
    s.run svc affect (events ++ later) = (s.run svc affect events).run svc affect later := by
  induction events generalizing s with
  | nil => rfl
  | cons e events ih => exact ih _

/-- What every event keeps holds after every run. -/
theorem run_keeps {P : Session σ → Prop} (hstep : ∀ s e, P s → P (s.step svc affect e).2)
    {s : Session σ} (hs : P s) (events : List (Event κ)) : P (s.run svc affect events) := by
  induction events generalizing s with
  | nil => exact hs
  | cons e events ih => exact ih (hstep s e hs)

end Session

end WalletDashboard
