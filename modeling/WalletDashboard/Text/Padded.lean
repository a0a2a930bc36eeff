/-!
# Columns

A text put at the left or at the right end of a column. A text wider than its column is not cut.
-/

namespace WalletDashboard.Text

/-- `text` at the right end of a column of `width` characters. -/
def alignRight (width : Nat) (text : String) : String :=
  String.ofList (List.replicate (width - text.length) ' ') ++ text

/-- `text` at the left end of a column of `width` characters. -/
def alignLeft (width : Nat) (text : String) : String :=
  text ++ String.ofList (List.replicate (width - text.length) ' ')

end WalletDashboard.Text
