import WalletDashboard.Binary64

/-!
# JSON values

An object keeps its entries in the order of their keys, by code points, with every key once:
`Json.insertEntry` puts an entry where it belongs, in the place of an older one with the same key.

A number is a natural number or a negative whole number if it was written as one and fits a machine
word; otherwise it is a floating-point number.
-/

namespace WalletDashboard

/-- A number of a JSON text. -/
inductive Json.Number
  | natural (n : UInt64)
  /-- A whole number from `-2 ^ 63` to `-1`. -/
  | negative (n : Int)
  | real (negative : Bool) (magnitude : Magnitude)
  deriving DecidableEq, Repr, Inhabited

/-- A JSON value. -/
inductive Json
  | null
  | bool (b : Bool)
  | number (n : Json.Number)
  | string (s : String)
  | array (items : List Json)
  | object (entries : List (String × Json))
  deriving Repr, Inhabited

namespace Json

/-- The entries with `value` under `key`. -/
def insertEntry {α : Type} (key : String) (value : α) : List (String × α) → List (String × α)
  | [] => [(key, value)]
  | (k, v) :: rest =>
    if key = k then (key, value) :: rest
    else if key < k then (key, value) :: (k, v) :: rest
    else (k, v) :: insertEntry key value rest

/-- The object with these entries. Of several entries with one key the last one counts. -/
def ofEntries (entries : List (String × Json)) : Json :=
  .object (entries.foldl (fun sorted (key, value) => insertEntry key value sorted) [])

/-- A machine word as a number. -/
def nat (n : UInt64) : Json := .number (.natural n)

@[simp] theorem insertEntry_nil {α : Type} (key : String) (value : α) :
    insertEntry key value [] = [(key, value)] := rfl

theorem lookup_cons_eq_ite {α : Type} (k a : String) (v : α) (rest : List (String × α)) :
    List.lookup k ((a, v) :: rest) = if k = a then some v else rest.lookup k := by
  rw [List.lookup_cons]
  by_cases h : k = a
  · simp [h]
  · rw [if_neg h, beq_eq_false_iff_ne.mpr h]

/-- What is looked up after an entry was put in. -/
theorem lookup_insertEntry {α : Type} (key k : String) (value : α) (entries : List (String × α)) :
    (insertEntry key value entries).lookup k =
      if k = key then some value else entries.lookup k := by
  induction entries with
  | nil => rw [insertEntry_nil, lookup_cons_eq_ite]
  | cons e rest ih =>
    obtain ⟨a, v⟩ := e
    unfold insertEntry
    by_cases h : key = a
    · subst h
      by_cases hk : k = key <;> simp [lookup_cons_eq_ite, hk]
    · rw [if_neg h]
      split
      · simp only [lookup_cons_eq_ite]
      · by_cases hk : k = a
        · have hkey : ¬k = key := fun e => h (e.symm.trans hk)
          simp only [lookup_cons_eq_ite, if_pos hk, if_neg hkey]
        · simp [lookup_cons_eq_ite, hk, ih]

end Json

end WalletDashboard
