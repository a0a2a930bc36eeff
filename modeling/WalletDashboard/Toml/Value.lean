import WalletDashboard.Settings.Value
import WalletDashboard.Toml.DateTime

/-!
# Values of TOML texts

What a TOML text says, before it is taken as settings (`Value.setting?`). A date or a time is taken
as its text. A table in which `dateTimeKey` comes first stands for a date or a time too, which it
gives as a text under that key; its other entries do not count.
-/

namespace WalletDashboard.Toml

/-- A value. The entries of a table are in the order in which they were stated first. -/
inductive Value
  /-- A scalar that is no date and no time. -/
  | plain (v : Setting)
  /-- A date, a time, or both, as it is written. -/
  | dateTime (text : String)
  | list (items : List Value)
  | table (entries : List (String × Value))
  deriving Repr, Inhabited

/-- The key of a date or a time that is given as a table. -/
def dateTimeKey : String := "$__toml_private_datetime"

/-- The date or time that a value under `dateTimeKey` gives. -/
def Value.dateTimeUnderKey? : Value → Option Setting
  | plain (.text s) => (looseDateTimeText? s.toList).map .text
  | _ => none

mutual

/-- The setting that a value gives. -/
def Value.setting? : Value → Option Setting
  | .plain v => some v
  | .dateTime text => some (.text text)
  | .list items => (settingItems? items).map .list
  | .table [] => some (.table [])
  | .table ((key, v) :: es) =>
    if key = dateTimeKey then v.dateTimeUnderKey?
    else do
      let first ← v.setting?
      return .table ((key, first) :: (← settingEntries? es))

/-- The settings that the items of a list give. -/
def settingItems? : List Value → Option (List Setting)
  | [] => some []
  | v :: rest => do return (← v.setting?) :: (← settingItems? rest)

/-- The settings that the entries of a table give. -/
def settingEntries? : List (String × Value) → Option (List (String × Setting))
  | [] => some []
  | (key, v) :: rest => do return (key, ← v.setting?) :: (← settingEntries? rest)

end

end WalletDashboard.Toml
