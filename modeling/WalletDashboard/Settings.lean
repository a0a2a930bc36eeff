import WalletDashboard.Failure
import WalletDashboard.Pagination
import WalletDashboard.Text.Blank

/-!
# Settings

What can be set, and what has to hold of it (`Settings.validate`). The defaults are those of the
structures.
-/

namespace WalletDashboard

/-- Which wallet service is used. -/
structure ServiceSettings where
  /-- Whether the service in memory is used, and no node. -/
  useMemory : Bool := false
  apiUrl : String := "http://127.0.0.1:3001/rpc"
  timeoutSeconds : UInt64 := 10
  deriving DecidableEq, Repr, Inhabited

/-- How the dashboard works. -/
structure DashboardSettings where
  pageSize : UInt64 := 6
  refreshSeconds : UInt64 := 15
  recentBlocks : UInt64 := 50
  /-- A key or phrase that is imported at the start. -/
  importKey : Option String := none
  deriving DecidableEq, Repr, Inhabited

/-- All settings. -/
structure Settings where
  service : ServiceSettings := {}
  dashboard : DashboardSettings := {}
  deriving DecidableEq, Repr, Inhabited

/-- The pages that are set, if they hold anything. -/
def DashboardSettings.pages (s : DashboardSettings) : Except Failure PageSize :=
  match PageSize.ofNat? s.pageSize.toNat with
  | some size => .ok size
  | none => .error (.config "dashboard.page_size must be at least 1")

namespace Settings

/-- Pages hold something, time goes by between refreshes, and a node has an address. What does not
hold first is reported. -/
def validate (s : Settings) : Except Failure Unit := do
  let _ ← s.dashboard.pages
  if s.dashboard.refreshSeconds = 0 then
    throw (.config "dashboard.refresh_interval_secs must be at least 1")
  if !s.service.useMemory && Text.trim s.service.apiUrl = "" then
    throw (.config "service.api_url is required for the remote service")

end Settings

end WalletDashboard
