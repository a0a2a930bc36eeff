import WalletDashboard.Calendar
import WalletDashboard.Dashboard
import WalletDashboard.Text.Padded

/-!
# The dashboard as text

`Dashboard.view` is the whole screen, one line below the other; `activityRow` is the line of one
reward, in columns.
-/

namespace WalletDashboard

/-- The line of one reward. A reward that is only implied says so. -/
def activityRow (r : RewardEvent) : String :=
  Text.alignRight 18 ("+" ++ Amount.coinText r.amount) ++ "  block #" ++
    Text.alignLeft 8 (Nat.repr r.blockIndex.toNat) ++ timeText r.timestamp ++
    (if r.isSynthetic then "  (implied)" else "")

namespace Dashboard

/-- The lines of the page that the reader is on. -/
def activityLines (d : Dashboard) : List String :=
  let page := d.activity
  ["Recent activity"] ++
    (if page.visible = [] then ["  No rewards in recent blocks."] else []) ++
    page.visible.map (fun r => "  " ++ activityRow r) ++
    ["Page " ++ Nat.repr page.number ++ " / " ++ Nat.repr page.total]

/-- The lines that the mode asks for. -/
def modeLines (d : Dashboard) : List String :=
  match d.mode with
  | .noWallet =>
    ["No wallet loaded.",
     "Create a new wallet or import one with a private key or recovery phrase."]
  | .justCreated e =>
    ["Wallet created: " ++ e.address,
     "Private key:     " ++ e.privateKey,
     "Recovery phrase: " ++ e.mnemonic,
     "Store these somewhere safe. They will not be shown again."]
  | .active w =>
    ["Address: " ++ w.address, "Balance: " ++ Amount.coinText w.balance] ++
      (match d.blockHeight with
        | some height => ["Block height: " ++ Nat.repr height.toNat]
        | none => []) ++
      (if d.refreshing then ["Refreshing..."] else []) ++ [""] ++ d.activityLines

/-- The lines that ask for confirmation. -/
def switchLines (d : Dashboard) : List String :=
  if d.switch.isOpen then
    ["", "Switch wallet? This logs out the current wallet and stops mining. [confirm / cancel]"]
  else []

/-- The screen; every line ends with a line feed. -/
def view (d : Dashboard) : String := String.join ((d.modeLines ++ d.switchLines).map (· ++ "\n"))

end Dashboard

end WalletDashboard
