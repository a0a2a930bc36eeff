/-!
# White space

The white space of Unicode, and what it does to a text: a text may be blank, it may be trimmed at
both ends, and it falls into words.
-/

namespace WalletDashboard.Text

/-- The characters of property White_Space. -/
def isBlank (c : Char) : Bool :=
  let n := c.toNat
  (9 ≤ n && n ≤ 13) || n == 32 || n == 0x85 || n == 0xA0 || n == 0x1680 ||
    (0x2000 ≤ n && n ≤ 0x200A) || n == 0x2028 || n == 0x2029 || n == 0x202F || n == 0x205F ||
    n == 0x3000

/-- `cs` without the white space at its ends. -/
def trimList (cs : List Char) : List Char :=
  ((cs.dropWhile isBlank).reverse.dropWhile isBlank).reverse

/-- The text without the white space at its ends. -/
def trim (s : String) : String := String.ofList (trimList s.toList)

/-- The words of `cs`: its longest runs of characters that are not white space. The characters
`word`, last first, stand before `cs` and belong to the first word. -/
def wordsAfter (word : List Char) : List Char → List (List Char)
  | [] => if word = [] then [] else [word.reverse]
  | c :: rest =>
    if isBlank c then
      if word = [] then wordsAfter [] rest else word.reverse :: wordsAfter [] rest
    else wordsAfter (c :: word) rest

/-- The words of `cs`. -/
def words (cs : List Char) : List (List Char) := wordsAfter [] cs

end WalletDashboard.Text
