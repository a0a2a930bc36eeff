import WalletDashboard.Chain

/-!
# The secrets of new wallets

A new wallet has a private key of 32 bytes, an address of 20 bytes and a recovery phrase of twelve
words, all drawn at random. Here they are written out, given the draws (`WalletExport.ofDraws`);
`WalletExport.drawn` makes the draws from a seed.
-/

namespace WalletDashboard

/-- The words of recovery phrases. -/
def phraseWords : List String :=
  ["acid", "amber", "anchor", "arrow", "atlas", "badge", "basil", "beacon",
   "birch", "blaze", "bloom", "cable", "cedar", "chalk", "cider", "cliff",
   "cobalt", "comet", "coral", "crane", "delta", "drift", "dune", "ember",
   "fable", "fern", "flint", "forge", "frost", "garnet", "glade", "granite",
   "harbor", "hazel", "helix", "iris", "ivory", "jade", "juniper", "kelp",
   "lagoon", "lantern", "lumen", "maple", "meadow", "mesa", "nectar", "nova",
   "oasis", "onyx", "orbit", "pebble", "pine", "prism", "quartz", "raven",
   "ridge", "saffron", "sierra", "summit", "tide", "umber", "willow", "zephyr"]

/-- How many words a recovery phrase has. -/
def phraseLength : Nat := 12

/-- Two lower-case hexadecimal digits. -/
def hexByte (b : UInt8) : List Char := [Nat.digitChar (b.toNat / 16), Nat.digitChar (b.toNat % 16)]

/-- The bytes in lower-case hexadecimal digits. -/
def hexText (bytes : List UInt8) : String := String.ofList (bytes.flatMap hexByte)

/-- The wallet with the given key and address and with the words of the given numbers. -/
def WalletExport.ofDraws (key address : List UInt8) (words : List Nat) : WalletExport where
  address := "AGT" ++ hexText address
  privateKey := hexText key
  mnemonic := " ".intercalate (words.map fun n => phraseWords.getD (n % phraseWords.length) "")

/-- The `n`-th number of the sequence that starts from `seed`: a counter in steps of an odd
constant, with its bits mixed. -/
def drawWord (seed : UInt64) (n : Nat) : UInt64 :=
  let z := seed + UInt64.ofNat (n + 1) * 0x9E3779B97F4A7C15
  let z := (z ^^^ (z >>> 30)) * 0xBF58476D1CE4E5B9
  let z := (z ^^^ (z >>> 27)) * 0x94D049BB133111EB
  z ^^^ (z >>> 31)

/-- The `n`-th wallet that is made from `seed`, counted from 0. -/
def WalletExport.drawn (seed : UInt64) (n : Nat) : WalletExport :=
  let first := 64 * n
  let byteAt (i : Nat) : UInt8 := (drawWord seed (first + i)).toUInt8
  WalletExport.ofDraws ((List.range 32).map byteAt) ((List.range 20).map fun i => byteAt (32 + i))
    ((List.range phraseLength).map fun i => (drawWord seed (first + 52 + i)).toNat % 64)

end WalletDashboard
