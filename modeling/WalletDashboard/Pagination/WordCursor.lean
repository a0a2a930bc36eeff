import WalletDashboard.Pagination.Cursor
import WalletDashboard.Pagination.Words

/-!
# The page cursor on machine words

The same steps as those of `PageCursor`, with every number in a word of 64 bits, and only the page
of a jump in a signed one. A step stops where a word is too small or the bounds of a range stand the
wrong way round (`WordFault`).

* `WordCursor.step` does a step in the machine operations of `Word`.
* `WordCursor.visited` are the pages that a list of steps visits, if none of them stops.
-/

namespace WalletDashboard

/-- The current page, counted from 1. -/
structure WordCursor where
  page : UInt64 := 1
  deriving DecidableEq, Repr

namespace WordCursor

/-- A step of the cursor. -/
inductive Step
  | previous
  | next (total : UInt64)
  | jump (page : Int64) (total : UInt64)
  | clampTo (total : UInt64)
  | reset
  deriving DecidableEq

/-- The number of pages that a step is told. -/
def Step.total? : Step → Option UInt64
  | .next total | .jump _ total | .clampTo total => some total
  | .previous | .reset => none

/-- The cursor after a step. The last page is at least one, and for a jump it is read as a signed
word. -/
def step (c : WordCursor) : Step → Except WordFault WordCursor
  | .previous => .ok ⟨max (Word.subFloored c.page 1) 1⟩
  | .next total => do
    let page ← Word.add c.page 1
    return ⟨min page (max total 1)⟩
  | .jump page total => do
    let nearest ← Word.clamp page 1 (max total 1).toInt64
    return ⟨nearest.toUInt64⟩
  | .clampTo total => do
    let page ← Word.clampUnsigned c.page 1 (max total 1)
    return ⟨page⟩
  | .reset => .ok ⟨1⟩

/-- The pages that a list of steps visits. -/
def visited (c : WordCursor) : List Step → Except WordFault (List UInt64)
  | [] => .ok []
  | s :: rest => do
    let c ← c.step s
    let pages ← c.visited rest
    return c.page :: pages

end WordCursor

end WalletDashboard
