import WalletDashboard.Text.Digits
import WalletDashboard.Text.Split

/-!
# Addresses of eight words

An IPv6 address has eight words of 16 bits, written in hexadecimal digits with colons between them.
Two colons stand for zeros; the last two words may be written as four decimal numbers.

* `Ipv6.read?` reads an address.
* `Ipv6.text` writes one: two colons stand for the longest run of zeros, the first of those.
-/

namespace WalletDashboard

/-- An IPv6 address. -/
structure Ipv6 where
  words : List UInt16
  length_words : words.length = 8
  deriving DecidableEq, Repr

namespace Ipv6

/-- A word of one to four digits. -/
def readWord? (digits : List Char) : Option UInt16 :=
  if digits.length ∈ [1, 2, 3, 4] ∧ digits.all (Text.isDigitOf 16) then
    some (UInt16.ofNat (Text.numberOf 16 digits))
  else none

/-- A decimal number below 256 without needless zeros. -/
def readByte? (digits : List Char) : Option Nat :=
  if digits.length ∈ [1, 2, 3] ∧ digits.all Char.isDigit ∧
      (digits.head? = some '0' → digits.length = 1) then
    let n := Text.numberOf 10 digits
    if n < 256 then some n else none
  else none

/-- The two words that are written as four decimal numbers. -/
def readBytes? (text : List Char) : Option (List UInt16) := do
  match ← (Text.splitWhere (· == '.') text).mapM readByte? with
  | [a, b, c, d] => some [UInt16.ofNat (a * 256 + b), UInt16.ofNat (c * 256 + d)]
  | _ => none

/-- The words that are written with colons between them; only the last may be decimal numbers. -/
def readParts? : List (List Char) → Option (List UInt16)
  | [] => some []
  | [last] => if last.contains '.' then readBytes? last else (readWord? last).map ([·])
  | part :: parts => do return (← readWord? part) :: (← readParts? parts)

/-- The words in a stretch of an address without two colons together. -/
def readStretch? (text : List Char) : Option (List UInt16) :=
  if text = [] then some [] else readParts? (Text.splitWhere (· == ':') text)

/-- What comes before the first two colons together, and what comes after them. -/
def splitDouble? : List Char → Option (List Char × List Char)
  | ':' :: ':' :: rest => some ([], rest)
  | [] => none
  | c :: rest => (splitDouble? rest).map fun (before, after) => (c :: before, after)

/-- The address with the words. -/
def ofWords? (words : List UInt16) : Option Ipv6 :=
  if h : words.length = 8 then some ⟨words, h⟩ else none

/-- The address that a text writes. Two colons stand for one word at least. -/
def read? (text : List Char) : Option Ipv6 :=
  match splitDouble? text with
  | none => (readStretch? text).bind ofWords?
  | some (before, after) => do
    if before.contains '.' then none
    let first ← readStretch? before
    let last ← readStretch? after
    if 7 < first.length + last.length then none
    else ofWords? (first ++ List.replicate (8 - (first.length + last.length)) 0 ++ last)

/-- How many of the first words are zero. -/
def zeros (words : List UInt16) : Nat := (words.takeWhile (· == 0)).length

/-- Where the first of the longest runs of zeros begins, and how long it is. -/
def longestZeros (words : List UInt16) : Nat × Nat :=
  (List.range words.length).foldl
    (fun best start =>
      let size := zeros (words.drop start)
      if best.2 < size then (start, size) else best)
    (0, 0)

/-- Words with colons between them. -/
def stretchText (words : List UInt16) : String :=
  ":".intercalate (words.map fun w => String.ofList (Nat.toDigits 16 w.toNat))

/-- How an address is written. A single zero stays. -/
def text (a : Ipv6) : String :=
  let (start, size) := longestZeros a.words
  if size < 2 then stretchText a.words
  else stretchText (a.words.take start) ++ "::" ++ stretchText (a.words.drop (start + size))

end Ipv6

end WalletDashboard
