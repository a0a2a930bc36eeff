/-!
# Failures

What can go wrong, in the kinds that a user is told apart, with the text that is shown.
-/

namespace WalletDashboard

/-- A failed operation. Most kinds carry what is known about the cause. -/
inductive Failure
  /-- The service could not be reached, or its answer could not be read. -/
  | client (cause : String)
  /-- The settings cannot be used. -/
  | config (cause : String)
  /-- No wallet belongs to the key or the phrase. -/
  | invalidKey
  /-- The service refused to make a wallet. -/
  | importRefused (cause : String)
  /-- The service refused. -/
  | service (cause : String)
  /-- The operation needs a wallet, and none is active. -/
  | noWallet
  deriving DecidableEq, Repr, Inhabited

namespace Failure

/-- The text that is shown. -/
def message : Failure → String
  | client cause => "API Client error: " ++ cause
  | config cause => "Configuration error: " ++ cause
  | invalidKey => "Invalid private key or mnemonic"
  | importRefused cause => "Wallet import error: " ++ cause
  | service cause => "Wallet service error: " ++ cause
  | noWallet => "No active wallet"

end Failure

end WalletDashboard
