import WalletDashboard.Text.Digits

/-!
# Percent signs in URLs

A character that cannot stand in a part of a URL is written there as the bytes of its UTF-8 form,
each as a percent sign and two hexadecimal digits. Which characters those are depends on the part.
Percent signs themselves stay as they are, so a text may hold such bytes from the beginning.

* `Percent.encode` writes a text in a part of a URL.
* `Percent.decode?` reads a text with percent signs.
-/

namespace WalletDashboard.Percent

/-- A part of a URL that has its own characters. -/
inductive Part
  /-- A path without segments, and a host of any form. -/
  | loose
  | fragment
  | path
  /-- The name and the password of a user. -/
  | credentials
  | query
  /-- The query of a URL with a special scheme. -/
  | specialQuery
  deriving DecidableEq, Repr, Inhabited

/-- The characters that a fragment cannot have, apart from controls and all beyond ASCII. -/
def outsideFragment : List Char := [' ', '"', '<', '>', Char.ofNat 0x60]

/-- The same for paths. -/
def outsidePath : List Char := outsideFragment ++ ['#', '?', '\x7b', '\x7d']

/-- The same for queries. -/
def outsideQuery : List Char := [' ', '"', '#', '<', '>']

/-- The characters that a part of a URL cannot have, apart from controls and all beyond ASCII. -/
def Part.excluded : Part → List Char
  | loose => []
  | fragment => outsideFragment
  | path => outsidePath
  | credentials => outsidePath ++ ['/', ':', ';', '=', '@', '[', '\\', ']', '^', '|']
  | query => outsideQuery
  | specialQuery => outsideQuery ++ ['\'']

/-- Whether a part of a URL can have the character. -/
def Part.admits (part : Part) (c : Char) : Bool :=
  0x20 ≤ c.toNat && c.toNat < 0x7F && c ∉ part.excluded

/-- A digit of a byte. -/
def hexChar (n : Nat) : Char := if n < 10 then Char.ofNat (0x30 + n) else Char.ofNat (0x37 + n)

/-- A byte behind a percent sign. -/
def byteText (b : UInt8) : List Char := ['%', hexChar (b.toNat / 16), hexChar (b.toNat % 16)]

/-- A character in a part of a URL. -/
def encodeChar (part : Part) (c : Char) : List Char :=
  if part.admits c then [c] else (String.utf8EncodeChar c).flatMap byteText

/-- A text in a part of a URL. -/
def encode (part : Part) (cs : List Char) : String := String.ofList (cs.flatMap (encodeChar part))

/-- The bytes that a text stands for. A percent sign without two digits stands for itself. -/
def bytes : List Char → List UInt8
  | [] => []
  | '%' :: a :: b :: rest =>
    match Text.number? 16 [a, b] with
    | some n => UInt8.ofNat n :: bytes rest
    | none => String.utf8EncodeChar '%' ++ bytes (a :: b :: rest)
  | c :: rest => String.utf8EncodeChar c ++ bytes rest

/-- The text that a text with percent signs stands for, if the bytes are UTF-8. -/
def decode? (cs : List Char) : Option (List Char) :=
  (String.fromUTF8? ⟨(bytes cs).toArray⟩).map String.toList

end WalletDashboard.Percent
