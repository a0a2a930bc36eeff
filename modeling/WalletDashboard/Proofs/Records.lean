import Mathlib.Data.List.Induction
import WalletDashboard.Json.Decode
import WalletDashboard.Json.Encode

/-!
# Records read back

What is written as a JSON value is read back as it was (`Decoder.Inverts`): words, texts, lists,
values that may be missing, and every record of the chain.

* `Json.lookup_ofEntries` and `Json.mem_of_ofEntries_eq`: what an object made of entries holds.
* `RecordReader.start_bind_eq_ok`: how a record is read from such an object, whatever the order of
  its entries and however many others there are.
-/

namespace WalletDashboard

namespace Json

theorem mem_insertEntry {α : Type} {e : String × α} {key : String} {value : α}
    {entries : List (String × α)} (h : e ∈ insertEntry key value entries) :
    e = (key, value) ∨ e ∈ entries := by
  induction entries with
  | nil => exact .inl (List.mem_singleton.mp h)
  | cons first rest ih =>
    obtain ⟨k, v⟩ := first
    unfold insertEntry at h
    split at h
    · rcases List.mem_cons.mp h with rfl | h
      · exact .inl rfl
      · exact .inr (.tail _ h)
    · split at h
      · exact List.mem_cons.mp h
      · rcases List.mem_cons.mp h with rfl | h
        · exact .inr (.head _)
        · exact (ih h).imp_right (.tail _)

/-- The last of several entries with one key is the one that is found in an object. -/
theorem lookup_ofEntries {entries sorted : List (String × Json)}
    (h : ofEntries entries = .object sorted) (key : String) :
    sorted.lookup key = entries.reverse.lookup key := by
  obtain rfl := Json.object.inj h
  induction entries using List.reverseRecOn with
  | nil => rfl
  | append_singleton entries e ih =>
    obtain ⟨k, v⟩ := e
    rw [List.foldl_append, List.reverse_append]
    simp only [List.foldl_cons, List.foldl_nil, List.reverse_singleton, List.singleton_append]
    rw [lookup_insertEntry, lookup_cons_eq_ite, ih rfl]

theorem mem_of_ofEntries_eq {entries sorted : List (String × Json)}
    (h : ofEntries entries = .object sorted) {e : String × Json} (he : e ∈ sorted) :
    e ∈ entries := by
  obtain rfl := Json.object.inj h
  induction entries using List.reverseRecOn with
  | nil => exact he
  | append_singleton entries last ih =>
    rw [List.foldl_append] at he
    rcases mem_insertEntry he with rfl | he
    · simp
    · exact List.mem_append_left _ (ih rfl he)

end Json

namespace RecordReader

theorem checkEntries_of_forall {fields : List (String × Decoder Unit)}
    {entries : List (String × Json)}
    (h : ∀ e ∈ entries, ∀ check, fields.lookup e.1 = some check → check e.2 = .ok ()) :
    checkEntries fields entries = .ok () := by
  induction entries with
  | nil => rfl
  | cons e rest ih =>
    have hrest := ih fun e he => h e (.tail _ he)
    unfold checkEntries
    split
    · exact hrest
    · next check hc =>
      rw [h e (.head _) check hc]
      exact hrest

/-- A record is read from an object if what belongs to its fields can be decoded, and if what is
then read by name comes out. -/
theorem start_bind_eq_ok {α : Type} {record : String} {fields : List (String × Decoder Unit)}
    {entries : List (String × Json)} {rest : RecordReader → Except DecodeError α} {a : α}
    (h : ∀ e ∈ entries, ∀ check, fields.lookup e.1 = some check → check e.2 = .ok ())
    (hrest : ∀ sorted, (∀ key, sorted.lookup key = entries.reverse.lookup key) →
      rest (.byName sorted) = .ok a) :
    (start record fields (.ofEntries entries) >>= rest) = .ok a := by
  -- Sorting the entries loses the earlier ones of a key, but adds none.
  have hc := checkEntries_of_forall fun e he => h e (Json.mem_of_ofEntries_eq rfl he)
  have hs := hrest _ (Json.lookup_ofEntries rfl)
  simp only [start, Json.ofEntries, hc]
  exact hs

theorem optionalField_congr {α : Type} {entries others : List (String × Json)} {name : String}
    (h : entries.lookup name = others.lookup name) (position : Nat) (decode : Decoder α) :
    (byName entries).optionalField position name decode =
      (byName others).optionalField position name decode := by
  simp only [optionalField, value?, h]
  cases others.lookup name <;> rfl

end RecordReader

namespace Decoder

/-- What `encode` writes, `decode` reads back. -/
def Inverts {α : Type} (decode : Decoder α) (encode : α → Json) : Prop :=
  ∀ a, decode (encode a) = .ok a

variable {α : Type} {decode : Decoder α} {encode : α → Json}

theorem check_of_ok {j : Json} {a : α} (h : decode j = .ok a) : decode.check j = .ok () := by
  rw [Decoder.check, h]
  rfl

theorem Inverts.check (h : decode.Inverts encode) (a : α) : decode.check (encode a) = .ok () :=
  check_of_ok (h a)

theorem word_inverts : word.Inverts Json.nat := fun _ => rfl

theorem nothing_inverts : nothing.Inverts fun _ => .null := fun _ => rfl

theorem text_inverts : text.Inverts Json.string := fun _ => rfl

theorem Inverts.list (h : decode.Inverts encode) :
    (Decoder.list decode).Inverts (Json.ofList encode) := by
  intro as
  change (as.map encode).mapM decode = .ok as
  induction as with
  | nil => rfl
  | cons a as ih =>
    rw [List.map_cons, List.mapM_cons, h a, ih]
    rfl

/-- A missing value is told from a present one that is not written as `null`. -/
theorem Inverts.optional (h : decode.Inverts encode) (hnull : ∀ a, encode a ≠ .null) :
    (Decoder.optional decode).Inverts (Json.ofOption encode) := by
  intro a
  cases a with
  | none => rfl
  | some a =>
    change Decoder.optional decode (encode a) = _
    unfold Decoder.optional
    split
    · next hn => exact absurd hn (hnull a)
    · rw [h a]
      rfl

/-! ### The records of the chain -/

theorem wallet_inverts : wallet.Inverts Wallet.toJson := by
  intro w
  refine RecordReader.start_bind_eq_ok ?_ fun sorted hl => ?_
  · simp [Json.lookup_cons_eq_ite, text_inverts.check, word_inverts.check]
  · simp [RecordReader.field, RecordReader.value?, RecordReader.finish, hl, Json.lookup_cons_eq_ite,
      text_inverts _, word_inverts _, bind, Except.bind, pure, Except.pure]

theorem walletExport_inverts : walletExport.Inverts WalletExport.toJson := by
  intro e
  refine RecordReader.start_bind_eq_ok ?_ fun sorted hl => ?_
  · simp [Json.lookup_cons_eq_ite, text_inverts.check]
  · simp [RecordReader.field, RecordReader.value?, RecordReader.finish, hl, Json.lookup_cons_eq_ite,
      text_inverts _, bind, Except.bind, pure, Except.pure]

theorem transaction_inverts : transaction.Inverts Transaction.toJson := by
  intro t
  refine RecordReader.start_bind_eq_ok ?_ fun sorted hl => ?_
  · simp [Transaction.jsonEntries, Json.lookup_cons_eq_ite, text_inverts.check, word_inverts.check]
  · simp [Transaction.jsonEntries, RecordReader.field, RecordReader.value?, RecordReader.finish,
      hl, Json.lookup_cons_eq_ite, text_inverts _, word_inverts _, bind, Except.bind, pure, Except.pure]

theorem block_inverts : block.Inverts Block.toJson := by
  intro b
  have ht := transaction_inverts.list
  refine RecordReader.start_bind_eq_ok ?_ fun sorted hl => ?_
  · simp [Json.lookup_cons_eq_ite, text_inverts.check, word_inverts.check, ht.check]
  · simp [RecordReader.field, RecordReader.fieldOr, RecordReader.value?, RecordReader.finish, hl,
      Json.lookup_cons_eq_ite, text_inverts _, word_inverts _, ht _, bind, Except.bind, pure, Except.pure]

end Decoder

end WalletDashboard
