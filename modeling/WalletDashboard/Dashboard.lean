import WalletDashboard.Dashboard.Mode
import WalletDashboard.Pagination.Cursor
import WalletDashboard.Rewards

/-!
# The dashboard

What the dashboard holds: the mode, the blocks loaded last, the reward feed worked out of the two,
and where the reader is in it.

The feed follows the mode and the blocks (`Dashboard.refeed`), and the cursor is kept inside its
pages. When another address comes on the screen the cursor returns to the first page
(`Dashboard.turnTo`).
-/

namespace WalletDashboard

/-- The state of the dashboard. -/
structure Dashboard where
  pageSize : PageSize
  mode : Mode := .noWallet
  blocks : List Block := []
  rewards : List RewardEvent := []
  cursor : PageCursor := {}
  switch : SwitchConfirm := .closed
  blockHeight : Option UInt64 := none
  refreshing : Bool := false
  deriving DecidableEq, Repr, Inhabited

namespace Dashboard

/-- The number of pages of the feed. -/
def totalPages (d : Dashboard) : Nat := pageCount d.rewards.length d.pageSize

def currentPage (d : Dashboard) : Nat := d.cursor.page

/-- The page of the feed that the reader is on. -/
def activity (d : Dashboard) : Page RewardEvent := paginate d.rewards d.pageSize d.cursor.page

def previousPage (d : Dashboard) : Dashboard := { d with cursor := d.cursor.previous }

def nextPage (d : Dashboard) : Dashboard := { d with cursor := d.cursor.next d.totalPages }

/-- To the page nearest to `page`. -/
def jumpToPage (page : Int) (d : Dashboard) : Dashboard :=
  { d with cursor := (d.cursor.jump? page d.totalPages).getD d.cursor }

/-- Works the feed out anew, and pulls the cursor back into it. -/
def refeed (d : Dashboard) : Dashboard :=
  let rewards := rewardFeed d.mode.address? d.blocks
  { d with rewards, cursor := d.cursor.clampTo (pageCount rewards.length d.pageSize) }

/-- The dashboard with another mode. Another address is read from the first page. -/
def turnTo (mode : Mode) (d : Dashboard) : Dashboard :=
  let cursor := if mode.address? = d.mode.address? then d.cursor else d.cursor.reset
  { d with mode, cursor }.refeed

/-- The dashboard with other blocks. -/
def setBlocks (blocks : List Block) (d : Dashboard) : Dashboard := { d with blocks }.refeed

@[simp] theorem rewards_refeed (d : Dashboard) :
    d.refeed.rewards = rewardFeed d.mode.address? d.blocks := rfl

@[simp] theorem mode_turnTo (mode : Mode) (d : Dashboard) : (d.turnTo mode).mode = mode := rfl

end Dashboard

end WalletDashboard
