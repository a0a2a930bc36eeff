/-!
# Classes of characters

A class of characters is given by the ranges of code points that it covers, in rising order.
-/

namespace WalletDashboard.Text

/-- The class that covers the code points of all `ranges`, both ends included. -/
def inRanges (ranges : Array (Nat × Nat)) (c : Char) : Bool :=
  ranges.any fun (first, last) => first ≤ c.toNat && c.toNat ≤ last

end WalletDashboard.Text
