import WalletDashboard.Powers
import WalletDashboard.Text.Digits
import WalletDashboard.Text.Split

/-!
# Addresses of four bytes

An IPv4 address is a word of 32 bits, written as four decimal numbers with dots between them. It may
be read from fewer numbers, of which the last stands for all bytes that are left, and from numbers
in octal and hexadecimal digits. A host whose last label is a number is such an address or nothing
(`Ipv4.endsInNumber`).
-/

namespace WalletDashboard

/-- An IPv4 address. -/
structure Ipv4 where
  word : UInt32
  deriving DecidableEq, Repr, Inhabited

namespace Ipv4

/-- The number that a label writes: hexadecimal behind `0x`, octal behind another zero. -/
def readNumber? : List Char → Option Nat
  | [] => none
  | '0' :: 'x' :: digits => Text.number? 16 digits
  | '0' :: 'X' :: digits => Text.number? 16 digits
  | '0' :: d :: digits => Text.number? 8 (d :: digits)
  | digits => Text.number? 10 digits

/-- The labels of a host, without one empty label at the end. -/
def labels (host : List Char) : List (List Char) :=
  let parts := Text.splitWhere (· == '.') host
  if parts.getLast? = some [] then parts.dropLast else parts

/-- Whether the last label of a host is a number, or digits that are none. -/
def endsInNumber (host : List Char) : Bool :=
  match (labels host).getLast? with
  | none => false
  | some label => (label != [] && label.all Char.isDigit) || (readNumber? label).isSome

/-- The word of which the first bytes are `bytes`, and what is left is `last`. -/
def assemble (bytes : List Nat) (last : Nat) : Nat :=
  bytes.foldl (fun n b => n * 256 + b) 0 * 256 ^ (4 - bytes.length) + last

/-- The address that a host writes. -/
def read? (host : List Char) : Option Ipv4 := do
  let numbers ← (labels host).mapM readNumber?
  let last ← numbers.getLast?
  let bytes := numbers.dropLast
  if 3 < bytes.length ∨ bytes.any (255 < ·) ∨ 256 ^ (4 - bytes.length) ≤ last then none
  else some ⟨UInt32.ofNat (assemble bytes last)⟩

/-- The bytes of an address, from the first. -/
def bytes (a : Ipv4) : List Nat := [24, 16, 8, 0].map fun shift => a.word.toNat >>> shift % 256

/-- How an address is written. -/
def text (a : Ipv4) : String := ".".intercalate (a.bytes.map Nat.repr)

end Ipv4

end WalletDashboard
