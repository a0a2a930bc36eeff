import WalletDashboard.Rewards.Balance
import WalletDashboard.Service
import WalletDashboard.Text.Blank
import WalletDashboard.Text.LowerCase

/-!
# The wallet service in memory

A wallet service that keeps everything itself: the registered wallets, the session, and a chain that
grows by mining on request. It can be taken offline, and single operations can be made to fail.

* `phraseOf` is the form in which a key or a recovery phrase is compared: its words in lower case,
  with one space between them. A key may be written with any number of `0x` in front.
* `MemoryState.service` is the service, given where new secrets come from and how many blocks
  count as recent.
* `MemoryState.Command` is what can be done to the service from outside.
-/

namespace WalletDashboard

/-- The words of a key or phrase in lower case, with one space between them. -/
def phraseOf (text : String) : String :=
  String.ofList (List.intercalate [' '] ((Text.words text.toList).map Text.lowerList))

/-- `cs` without any `0x` in front. -/
def dropHexMarks : List Char → List Char
  | '0' :: 'x' :: rest => dropHexMarks rest
  | cs => cs

/-- The private key that is meant by a key in compared form. -/
def keyOf (phrase : String) : String := String.ofList (dropHexMarks phrase.toList)

/-- What is kept of a registered wallet: its secrets and the balance computed last. -/
structure StoredWallet where
  privateKey : String
  mnemonic : String
  balance : UInt64 := 0
  deriving DecidableEq, Repr, Inhabited

/-- Whether the wallet belongs to a key or phrase in compared form. -/
def StoredWallet.matches (stored : StoredWallet) (phrase : String) : Bool :=
  stored.privateKey == keyOf phrase || stored.mnemonic == phrase

/-- The state of the service. Every address stands in `wallets` at most once. -/
structure MemoryState where
  wallets : List (String × StoredWallet) := []
  /-- The address of the wallet whose session is open. -/
  active : Option String := none
  blocks : List Block := []
  blockHeight : UInt64 := 0
  offline : Bool := false
  failWalletRefresh : Bool := false
  failBlockHeight : Bool := false
  failLogout : Bool := false
  /-- How many times new secrets were drawn. -/
  draws : Nat := 0
  deriving DecidableEq, Repr, Inhabited

namespace MemoryState

/-- The wallet registered under `address`. -/
def stored? (s : MemoryState) (address : String) : Option StoredWallet := s.wallets.lookup address

/-- `wallets` with `stored` under `address`, in the place of what stood there before. -/
def register (address : String) (stored : StoredWallet) :
    List (String × StoredWallet) → List (String × StoredWallet)
  | [] => [(address, stored)]
  | (a, w) :: rest =>
    if a = address then (address, stored) :: rest else (a, w) :: register address stored rest

/-- The index of the last block, or 0. -/
def lastIndex (s : MemoryState) : UInt64 := (s.blocks.getLast?.map (·.index)).getD 0

/-- The index of the next block. -/
def nextIndex (s : MemoryState) : UInt64 := (s.blocks.getLast?.map (·.index + 1)).getD 0

/-! ### The operations of the service -/

/-- Every call that needs the chain fails while the service is offline. -/
def offlineFailure : Failure := .service "wallet service is offline"

/-- The failure of an operation that was made to fail. -/
def injectedFailure (operation : String) : Failure := .service (operation ++ " failed")

/-- The active wallet, with the balance computed last. -/
def getWallet (s : MemoryState) : Reply MemoryState (Option Wallet) :=
  .answer (s.active.bind fun address => (s.stored? address).map fun w => ⟨address, w.balance⟩) s

/-- Makes the wallet that `mint` draws next, unless its address is already taken. -/
def createWallet (mint : Nat → WalletExport) (s : MemoryState) : Reply MemoryState WalletExport :=
  let fresh := mint s.draws
  let s := { s with draws := s.draws + 1 }
  if (s.stored? fresh.address).isSome then
    .refuse (.importRefused ("address collision for " ++ fresh.address)) s
  else
    { outcome := .ok fresh
      state :=
        { s with
          wallets := register fresh.address ⟨fresh.privateKey, fresh.mnemonic, 0⟩ s.wallets
          active := some fresh.address }
      log := [⟨.info, "[MemoryService] Created wallet " ++ fresh.address⟩] }

/-- Opens the session of the wallet that a key or phrase belongs to. -/
def importWallet (key : String) (s : MemoryState) : Reply MemoryState Unit :=
  match s.wallets.find? fun (_, w) => w.matches (phraseOf key) with
  | none => .refuse .invalidKey s
  | some (address, _) =>
    { outcome := .ok ()
      state := { s with active := some address }
      log := [⟨.info, "[MemoryService] Imported wallet " ++ address⟩] }

/-- Computes the balance of the active wallet anew. -/
def refreshWallet (s : MemoryState) : Reply MemoryState Unit :=
  if s.offline then .refuse offlineFailure s
  else if s.failWalletRefresh then .refuse (injectedFailure "wallet refresh") s
  else
    match s.active with
    | none => .refuse .noWallet s
    | some address =>
      match s.stored? address with
      | none => .answer () s
      | some w =>
        let w := { w with balance := balanceOf address s.blocks }
        .answer () { s with wallets := register address w s.wallets }

/-- Takes over the height of the chain, and answers it. -/
def refreshBlockHeight (s : MemoryState) : Reply MemoryState UInt64 :=
  if s.offline then .refuse offlineFailure s
  else if s.failBlockHeight then .refuse (injectedFailure "block height refresh") s
  else .answer s.lastIndex { s with blockHeight := s.lastIndex }

/-- Ends the session. The wallet stays registered. -/
def logout (s : MemoryState) : Reply MemoryState Unit :=
  if s.failLogout then .refuse (injectedFailure "logout") s
  else
    { outcome := .ok ()
      state := { s with active := none }
      log :=
        match s.active with
        | some address => [⟨.info, "[MemoryService] Logged out " ++ address⟩]
        | none => [⟨.warn, "[MemoryService] Logout requested without an active wallet"⟩] }

/-- The last `window` blocks. -/
def recentBlocks (window : Nat) (s : MemoryState) : Reply MemoryState (List Block) :=
  if s.offline then .refuse offlineFailure s
  else .answer (s.blocks.drop (s.blocks.length - window)) s

/-- The service: new secrets come from `mint`, and the last `window` blocks are the recent ones. -/
def service (mint : Nat → WalletExport) (window : Nat) : WalletService MemoryState where
  getWallet := getWallet
  createWallet := createWallet mint
  importWallet := importWallet
  refreshWallet := refreshWallet
  refreshBlockHeight := refreshBlockHeight
  logout := logout
  recentBlocks := recentBlocks window

/-! ### From outside -/

/-- Registers a wallet, with no balance computed yet. Its key is kept in lower case. -/
def addWallet (e : WalletExport) (s : MemoryState) : MemoryState :=
  let stored : StoredWallet := ⟨Text.lower e.privateKey, phraseOf e.mnemonic, 0⟩
  { s with wallets := register e.address stored s.wallets }

/-- The block that is mined next. -/
def nextBlock (author : String) (transactions : List Transaction) (timestamp : UInt64)
    (s : MemoryState) : Block :=
  ⟨s.nextIndex, timestamp, author, transactions⟩

/-- Adds a block to the chain. -/
def mine (author : String) (transactions : List Transaction) (timestamp : UInt64)
    (s : MemoryState) : MemoryState :=
  { s with blocks := s.blocks ++ [s.nextBlock author transactions timestamp] }

/-- A change to the service from outside. -/
inductive Command
  | addWallet (e : WalletExport)
  | mine (author : String) (transactions : List Transaction) (timestamp : UInt64)
  | setOffline (on : Bool)
  | failWalletRefresh (on : Bool)
  | failBlockHeight (on : Bool)
  | failLogout (on : Bool)
  deriving DecidableEq, Repr

/-- The state after a change from outside. -/
def apply (s : MemoryState) : Command → MemoryState
  | .addWallet e => s.addWallet e
  | .mine author transactions timestamp => s.mine author transactions timestamp
  | .setOffline on => { s with offline := on }
  | .failWalletRefresh on => { s with failWalletRefresh := on }
  | .failBlockHeight on => { s with failBlockHeight := on }
  | .failLogout on => { s with failLogout := on }

end MemoryState

end WalletDashboard
