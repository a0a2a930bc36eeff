import WalletDashboard.Json.Read
import WalletDashboard.Proofs.Records

/-!
# The values that a text can hold

Not everything of type `Json` is the value of a text: an object that is read has every key once, and
a negative number fits a signed machine word (`Json.WellFormed`).

* `Json.wellFormed_ofEntries`: an object made of entries is well formed if its values are.
* `Json.wellFormed_of_read?`: whatever is read of a text is well formed.
-/

namespace WalletDashboard.Json

/-- Every object has its keys once, and every negative number fits a signed machine word. -/
inductive WellFormed : Json → Prop
  | null : WellFormed .null
  | bool (b : Bool) : WellFormed (.bool b)
  | natural (n : UInt64) : WellFormed (.number (.natural n))
  | negative {n : Int} (h : -2 ^ 63 ≤ n ∧ n < 0) : WellFormed (.number (.negative n))
  | real (negative : Bool) (x : Magnitude) : WellFormed (.number (.real negative x))
  | string (s : String) : WellFormed (.string s)
  | array {items : List Json} (h : ∀ j ∈ items, WellFormed j) : WellFormed (.array items)
  | object {entries : List (String × Json)} (keys : (entries.map Prod.fst).Nodup)
      (values : ∀ e ∈ entries, WellFormed e.2) : WellFormed (.object entries)

@[simp] theorem wellFormed_null : WellFormed .null := .null

@[simp] theorem wellFormed_nat (n : UInt64) : (nat n).WellFormed := .natural n

@[simp] theorem wellFormed_string (s : String) : WellFormed (.string s) := .string s

@[simp] theorem wellFormed_array {items : List Json} :
    WellFormed (.array items) ↔ ∀ j ∈ items, j.WellFormed :=
  ⟨fun h => by cases h with | array h => exact h, .array⟩

theorem WellFormed.nodup_keys {entries : List (String × Json)} (h : WellFormed (.object entries)) :
    (entries.map Prod.fst).Nodup := by
  cases h with
  | object keys values => exact keys

theorem WellFormed.of_lookup {entries : List (String × Json)} (h : WellFormed (.object entries))
    {key : String} {j : Json} (hj : entries.lookup key = some j) : j.WellFormed := by
  cases h with
  | object keys values =>
    obtain ⟨before, after, rfl, -⟩ := List.lookup_eq_some_iff.mp hj
    exact values (key, j) (by simp)

/-! ### Objects made of entries -/

/-- The keys increase. -/
def Sorted {α : Type} (entries : List (String × α)) : Prop :=
  entries.Pairwise fun e f => e.1 < f.1

theorem Sorted.insertEntry {α : Type} {entries : List (String × α)} (h : Sorted entries)
    (key : String) (value : α) : Sorted (insertEntry key value entries) := by
  induction entries with
  | nil => exact List.pairwise_singleton _ _
  | cons e rest ih =>
    obtain ⟨k, v⟩ := e
    obtain ⟨hfirst, hrest⟩ := List.pairwise_cons.mp h
    unfold Json.insertEntry
    split
    · next hk =>
      subst hk
      exact List.pairwise_cons.mpr ⟨hfirst, hrest⟩
    · next hne =>
      split
      · next hlt =>
        refine List.pairwise_cons.mpr ⟨fun f hf => ?_, h⟩
        rcases List.mem_cons.mp hf with rfl | hf
        · exact hlt
        · exact String.lt_trans hlt (hfirst f hf)
      · next hnot =>
        -- The new entry comes behind the first one, before which there is nothing.
        have hlt : k < key := by
          by_contra hle
          exact hne (String.le_antisymm (String.not_lt.mp hle) (String.not_lt.mp hnot))
        refine List.pairwise_cons.mpr ⟨fun f hf => ?_, ih hrest⟩
        rcases mem_insertEntry hf with rfl | hf
        · exact hlt
        · exact hfirst f hf

theorem Sorted.nodup {α : Type} {entries : List (String × α)} (h : Sorted entries) :
    (entries.map Prod.fst).Nodup := by
  rw [List.nodup_iff_pairwise_ne, List.pairwise_map]
  exact h.imp fun hlt => String.ne_of_lt hlt

theorem sorted_ofEntries {entries sorted : List (String × Json)}
    (h : ofEntries entries = .object sorted) : Sorted sorted := by
  obtain rfl := Json.object.inj h
  induction entries using List.reverseRecOn with
  | nil => exact List.Pairwise.nil
  | append_singleton entries e ih =>
    rw [List.foldl_append]
    exact (ih rfl).insertEntry _ _

theorem wellFormed_ofEntries {entries : List (String × Json)}
    (h : ∀ e ∈ entries, e.2.WellFormed) : (ofEntries entries).WellFormed :=
  .object (sorted_ofEntries rfl).nodup fun e he => h e (mem_of_ofEntries_eq rfl he)

/-! ### Values read of a text -/

/-- Everything that a reader gives back has the property `P`. -/
def YieldsOnly {α : Type} (P : α → Prop) (read : List Char → Option (α × List Char)) : Prop :=
  ∀ s a rest, read s = some (a, rest) → P a

section

variable {α : Type} {P : α → Prop} {item : List Char → Option (α × List Char)}

theorem YieldsOnly.readItems (hitem : YieldsOnly P item) (closing : Char) (fuel : Nat) :
    YieldsOnly (fun as : List α => ∀ a ∈ as, P a) (readItems item closing fuel) := by
  intro s as rest h
  induction fuel generalizing s rest as with
  | zero => cases h
  | succ fuel ih =>
    obtain ⟨⟨first, s'⟩, hfirst, h⟩ := Option.bind_eq_some_iff.mp h
    have hp := hitem _ _ _ hfirst
    dsimp only at h
    split at h
    · cases h
    · split at h
      · obtain ⟨⟨more, s''⟩, hmore, heq⟩ := Option.map_eq_some_iff.mp h
        cases heq
        exact List.forall_mem_cons.mpr ⟨hp, ih _ _ _ hmore⟩
      · split at h
        · cases h
          exact List.forall_mem_singleton.mpr hp
        · cases h

theorem YieldsOnly.readContainer (hitem : YieldsOnly P item) (closing : Char) :
    YieldsOnly (fun as : List α => ∀ a ∈ as, P a) (readContainer item closing) := by
  intro s as rest h
  unfold Json.readContainer at h
  split at h
  · cases h
  · split at h
    · cases h
      exact List.forall_mem_nil _
    · exact hitem.readItems closing _ _ _ _ h

end

theorem YieldsOnly.readEntry {value : List Char → Option (Json × List Char)}
    (hvalue : YieldsOnly WellFormed value) :
    YieldsOnly (fun e : String × Json => e.2.WellFormed) (readEntry value) := by
  intro s e rest h
  unfold Json.readEntry at h
  split at h
  · obtain ⟨⟨key, s'⟩, -, h⟩ := Option.bind_eq_some_iff.mp h
    dsimp only at h
    split at h
    · obtain ⟨⟨j, s''⟩, hj, heq⟩ := Option.map_eq_some_iff.mp h
      cases heq
      exact hvalue _ _ _ hj
    · cases h
  · cases h

theorem wellFormed_of_wholeNumber? {negative : Bool} {ds : List Nat} {n : Number}
    (h : wholeNumber? negative ds = some n) : WellFormed (.number n) := by
  unfold wholeNumber? at h
  split at h
  · split at h
    · cases h
      exact .natural _
    · split at h
      · next hn =>
        cases h
        exact .negative (by omega)
      · cases h
  · cases h

theorem yieldsOnly_readNumber : YieldsOnly (fun n => WellFormed (.number n)) readNumber := by
  intro s n rest h
  unfold readNumber at h
  simp only at h
  split at h
  · cases h
  · cases h
  · split at h
    · next hn =>
      cases h
      split_ifs at hn
      exact wellFormed_of_wholeNumber? hn
    · obtain ⟨⟨x, s'⟩, -, h⟩ := Option.bind_eq_some_iff.mp h
      cases h
      exact .real _ _

theorem yieldsOnly_readScalar : YieldsOnly WellFormed readScalar := by
  intro s j rest h
  unfold readScalar at h
  split at h <;> obtain ⟨a, ha, heq⟩ := Option.map_eq_some_iff.mp h <;> cases heq
  · exact .string _
  · exact .null
  · exact .bool true
  · exact .bool false
  · exact yieldsOnly_readNumber _ _ _ ha

theorem yieldsOnly_readValue (nesting : Nat) : YieldsOnly WellFormed (readValue nesting) := by
  induction nesting with
  | zero => exact fun s => yieldsOnly_readScalar (skipBlanks s)
  | succ nesting ih =>
    intro s j rest h
    unfold readValue at h
    split at h
    · obtain ⟨⟨items, s'⟩, hitems, h⟩ := Option.bind_eq_some_iff.mp h
      cases h
      exact .array (ih.readContainer _ _ _ _ hitems)
    · obtain ⟨⟨entries, s'⟩, hentries, h⟩ := Option.bind_eq_some_iff.mp h
      cases h
      exact wellFormed_ofEntries (ih.readEntry.readContainer _ _ _ _ hentries)
    · exact yieldsOnly_readScalar _ _ _ h

/-- **Whatever is read of a text is well formed.** -/
theorem wellFormed_of_read? {text : String} {j : Json} (h : read? text = some j) :
    j.WellFormed := by
  unfold read? at h
  split at h
  · cases h
  · next hread =>
    split at h
    · cases h
      exact yieldsOnly_readValue _ _ _ _ hread
    · cases h

end WalletDashboard.Json
