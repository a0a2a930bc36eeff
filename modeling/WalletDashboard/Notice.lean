import WalletDashboard.Failure

/-!
# Notices and the log

Notices are for the user, and wait in an outbox until they are read. Log lines are for the operator.
-/

namespace WalletDashboard

/-- A message to the user. -/
inductive Notice
  | info (text : String)
  | error (text : String)
  deriving DecidableEq, Repr

/-- How much a log line matters. -/
inductive LogLevel
  | info
  | warn
  | error
  deriving DecidableEq, Repr

/-- The level as it stands in the log. -/
def LogLevel.label : LogLevel → String
  | info => "INFO"
  | warn => "WARN"
  | error => "ERROR"

/-- A line of the log. -/
structure LogLine where
  level : LogLevel
  text : String
  deriving DecidableEq, Repr

/-- The log line that shows a notice. -/
def Notice.logLine : Notice → LogLine
  | info text => ⟨.info, "[Notice] " ++ text⟩
  | error text => ⟨.error, "[Notice] " ++ text⟩

/-- The notices that nobody has read yet, oldest first, and whether anybody will. -/
structure Outbox where
  isRead : Bool := true
  unread : List Notice := []
  deriving DecidableEq, Repr, Inhabited

/-- The outbox after its reader has gone. -/
def Outbox.abandon (_o : Outbox) : Outbox := ⟨false, []⟩

/-- The unread notices, and the outbox after they were read. -/
def Outbox.take (o : Outbox) : List Notice × Outbox := (o.unread, { o with unread := [] })

end WalletDashboard
