import WalletDashboard.Pagination
import WalletDashboard.Powers

/-!
# The page cursor

The page that a reader of the feed is on. Every step is told how many pages there are now, since
the feed may have grown or shrunk; fewer than one page counts as one.
-/

namespace WalletDashboard

/-- The current page, counted from 1. -/
structure PageCursor where
  page : Nat := 1
  deriving DecidableEq, Repr, Inhabited

namespace PageCursor

/-- One page back, but not before the first. -/
def previous (c : PageCursor) : PageCursor := ⟨max (c.page - 1) 1⟩

/-- One page on, but not past the last. -/
def next (total : Nat) (c : PageCursor) : PageCursor := ⟨min (c.page + 1) (max total 1)⟩

/-- Page counts from here on are read as negative numbers by `jump?`. -/
def jumpLimit : Nat := 2 ^ 63

/-- To the page nearest to `page`. The last page is taken as a signed word, so there is no answer
for `jumpLimit` pages or more. -/
def jump? (page : Int) (total : Nat) (_c : PageCursor) : Option PageCursor :=
  if max total 1 < jumpLimit then some ⟨(clampInt page 1 (max total 1 : Nat)).toNat⟩ else none

/-- Back among the pages there are. -/
def clampTo (total : Nat) (c : PageCursor) : PageCursor := ⟨max 1 (min c.page (max total 1))⟩

/-- Back to the first page. -/
def reset (_c : PageCursor) : PageCursor := ⟨1⟩

/-- A step of the cursor. -/
inductive Step
  | previous
  | next (total : Nat)
  | jump (page : Int) (total : Nat)
  | clampTo (total : Nat)
  | reset
  deriving DecidableEq, Repr

/-- The cursor after a step, if the step has an answer. -/
def step? (c : PageCursor) : Step → Option PageCursor
  | .previous => some c.previous
  | .next total => some (c.next total)
  | .jump page total => c.jump? page total
  | .clampTo total => some (c.clampTo total)
  | .reset => some c.reset

/-- The pages that a list of steps visits. The list ends with `none` at the first step that has no
answer. -/
def visited (c : PageCursor) : List Step → List (Option Nat)
  | [] => []
  | s :: rest =>
    match c.step? s with
    | none => [none]
    | some c => some c.page :: c.visited rest

@[simp] theorem page_reset (c : PageCursor) : c.reset.page = 1 := rfl

theorem page_clampTo_le (total : Nat) (c : PageCursor) : (c.clampTo total).page ≤ max total 1 := by
  simp only [clampTo]; omega

theorem one_le_page_clampTo (total : Nat) (c : PageCursor) : 1 ≤ (c.clampTo total).page := by
  simp only [clampTo]; omega

end PageCursor

end WalletDashboard
