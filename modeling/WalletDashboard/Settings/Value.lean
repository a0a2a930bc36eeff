import WalletDashboard.Binary64.Shortest
import WalletDashboard.Text.Digits
import WalletDashboard.Text.LowerCase

/-!
# Values of settings

A setting is given as a scalar, a list or a table. Scalars stand for each other: `Setting.flag?`,
`Setting.word?` and `Setting.text?` read one as the type that is asked for, if that makes sense.
-/

namespace WalletDashboard

/-- A value in a settings file or in the environment. -/
inductive Setting
  | null
  | flag (b : Bool)
  | whole (n : Int)
  | real (x : Binary64)
  | text (s : String)
  | list (items : List Setting)
  | table (entries : List (String × Setting))
  deriving Repr, Inhabited

namespace Setting

/-- The words that mean yes. -/
def yesWords : List String := ["true", "on", "yes"]

/-- The words that mean no. -/
def noWords : List String := ["false", "off", "no"]

/-- The natural number that a text writes in decimal digits, perhaps with a plus in front. -/
def parseNat? (s : String) : Option Nat :=
  let digits :=
    match s.toList with
    | '+' :: rest => rest
    | cs => cs
  if digits ≠ [] ∧ digits.all Char.isDigit then some (Text.numberOf 10 digits) else none

/-- A natural number as a machine word, if it fits. -/
def wordOf? (n : Nat) : Option UInt64 := if n < 2 ^ 64 then some (UInt64.ofNat n) else none

/-- The value as yes or no. A number means yes if it is not zero. -/
def flag? : Setting → Option Bool
  | flag b => some b
  | whole n => some (n ≠ 0)
  | real x => some !x.isZero
  | text s =>
    let word := Text.lower s
    if word = "1" ∨ word ∈ yesWords then some true
    else if word = "0" ∨ word ∈ noWords then some false
    else none
  | _ => none

/-- The value as a machine word. Floating-point numbers are rounded; yes and no count as 1 and 0. -/
def word? : Setting → Option UInt64
  | flag b => some (if b then 1 else 0)
  | whole n => if 0 ≤ n then wordOf? n.toNat else none
  | real x => some x.toWord
  | text s =>
    let word := Text.lower s
    if word ∈ yesWords then some 1
    else if word ∈ noWords then some 0
    else (parseNat? word).bind wordOf?
  | _ => none

/-- The value as a text. -/
def text? : Setting → Option String
  | flag b => some (if b then "true" else "false")
  | whole n => some (Int.repr n)
  | real x => some x.plainText
  | text s => some s
  | _ => none

/-- The value as a text, or nothing. -/
def optionalText? : Setting → Option (Option String)
  | null => some none
  | v => v.text?.map some

end Setting

end WalletDashboard
