/-!
# Pages of fixed size

* `pageCount` is the number of pages that a list needs; the empty list has one page.
* `paginate` gives the page that was asked for, or the nearest one there is.
-/

namespace WalletDashboard

/-- How many items a page holds; at least one. -/
structure PageSize where
  size : Nat
  pos : 0 < size := by decide
  deriving DecidableEq, Repr

instance : Inhabited PageSize := ⟨⟨1, by decide⟩⟩

/-- A page of `n` items, if `n` is not 0. -/
def PageSize.ofNat? (n : Nat) : Option PageSize := if h : 0 < n then some ⟨n, h⟩ else none

/-- The number of pages for `length` items, of `size` each. -/
def pageCount (length : Nat) (size : PageSize) : Nat := max ((length + size.size - 1) / size.size) 1

theorem pageCount_pos (length : Nat) (size : PageSize) : 1 ≤ pageCount length size := by
  unfold pageCount; omega

/-- The whole number nearest to `n` from `low` to `high`, for `low ≤ high`. -/
def clampInt (n low high : Int) : Int := max low (min n high)

/-- A page of a list: its number, counted from 1, the number of pages, and the items on it. -/
structure Page (α : Type) where
  number : Nat
  total : Nat
  visible : List α
  deriving DecidableEq, Repr

/-- The page of `items` nearest to the requested one. -/
def paginate {α : Type} (items : List α) (size : PageSize) (requested : Int) : Page α :=
  let total := pageCount items.length size
  let number := (clampInt requested 1 total).toNat
  { number, total, visible := (items.drop ((number - 1) * size.size)).take size.size }

end WalletDashboard
