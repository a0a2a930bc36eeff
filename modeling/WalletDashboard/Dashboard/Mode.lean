import WalletDashboard.Chain
import WalletDashboard.Text.Quoted

/-!
# What the dashboard shows, and the confirmation to switch wallets

* `Mode` is what is on the screen. Only an active wallet has an address whose activity is shown.
  `Mode.describe` writes a mode out for the log, with the secrets left out.
* `SwitchConfirm` guards switching to another wallet: the request has to be confirmed.
-/

namespace WalletDashboard

/-- What the dashboard shows. -/
inductive Mode
  /-- No session is open. -/
  | noWallet
  /-- A wallet was just made, and its secrets are shown this once. -/
  | justCreated (secrets : WalletExport)
  /-- The balance and the activity of the active wallet. -/
  | active (wallet : Wallet)
  deriving DecidableEq, Repr, Inhabited

namespace Mode

/-- The wallet whose activity is shown. -/
def wallet? : Mode → Option Wallet
  | active w => some w
  | _ => none

/-- The address whose activity is shown. -/
def address? (m : Mode) : Option String := m.wallet?.map (·.address)

/-- The mode that shows the wallet of a session. -/
def ofWallet? : Option Wallet → Mode
  | some w => active w
  | none => noWallet

@[simp] theorem address?_noWallet : noWallet.address? = none := rfl

@[simp] theorem address?_justCreated (e : WalletExport) : (justCreated e).address? = none := rfl

@[simp] theorem address?_active (w : Wallet) : (active w).address? = some w.address := rfl

/-- The mode written out, without secrets. -/
def describe : Mode → String
  | noWallet => "NoWallet"
  | justCreated e =>
    "JustCreated(WalletExport \x7b address: " ++ Text.quoted e.address ++
      ", private_key: \"<redacted>\", mnemonic: \"<redacted>\" \x7d)"
  | active w =>
    "Active(Wallet \x7b address: " ++ Text.quoted w.address ++ ", balance: " ++
      Nat.repr w.balance.toNat ++ " \x7d)"

end Mode

/-- An address in the log, or that there is none. -/
def describeAddress : Option String → String
  | none => "None"
  | some address => "Some(" ++ Text.quoted address ++ ")"

/-- Whether the user is being asked to confirm a switch of wallets. -/
inductive SwitchConfirm
  | closed
  | opened
  deriving DecidableEq, Repr, Inhabited

namespace SwitchConfirm

def isOpen (s : SwitchConfirm) : Bool := s == opened

/-- The user asks to switch. -/
def request (_s : SwitchConfirm) : SwitchConfirm := opened

/-- The user thinks better of it. -/
def cancel (_s : SwitchConfirm) : SwitchConfirm := closed

/-- The user confirms. The first part says whether there was anything to confirm. -/
def confirm (s : SwitchConfirm) : Bool × SwitchConfirm := (s.isOpen, closed)

/-- A step of the user. -/
inductive Step
  | request
  | cancel
  | confirm
  deriving DecidableEq, Repr

/-- What a step gives back, if anything, and the state after it. -/
def step (s : SwitchConfirm) : Step → Option Bool × SwitchConfirm
  | .request => (none, s.request)
  | .cancel => (none, s.cancel)
  | .confirm => (some s.confirm.1, s.confirm.2)

/-- What the steps of a list give back, each with the state after it. -/
def trail (s : SwitchConfirm) : List Step → List (Option Bool × SwitchConfirm)
  | [] => []
  | t :: rest => s.step t :: (s.step t).2.trail rest

end SwitchConfirm

end WalletDashboard
