import Mathlib.Data.List.Forall2
import WalletDashboard.Proofs.WellFormed
import WalletDashboard.Rpc

/-!
# Which values are records

What a JSON value has to be to be read as a record of the chain (`Wallet.IsEncoding`,
`WalletExport.IsEncoding`, `Transaction.IsEncoding`, `Block.IsEncoding`), in terms of the value
alone: an object in which every field is found, whatever else there is and in whatever order, or an
array of the fields in their order (`Json.IsRecord`).

* `Decoder.wallet_eq_ok_iff` and its like: the decoders accept these values and no others.
* `Decoder.records_exact`: so it is for the result in the body of an answer, and what is read back
  of a record is the record, however it was written.
-/

namespace WalletDashboard

/-! ### Values that hold records -/

namespace Json

/-- The value has the given fields: an object has an entry for each, and an array is made of them,
in their order. -/
def IsRecord (fields : List (String × (Json → Prop))) : Json → Prop
  | .object entries => ∀ f ∈ fields, ∃ j, entries.lookup f.1 = some j ∧ f.2 j
  | .array items => List.Forall₂ (fun f j => f.2 j) fields items
  | _ => False

/-- Of several entries under one name the last is the field. -/
theorem isRecord_ofEntries {fields : List (String × (Json → Prop))}
    {entries : List (String × Json)} :
    (ofEntries entries).IsRecord fields ↔
      ∀ f ∈ fields, ∃ j, entries.reverse.lookup f.1 = some j ∧ f.2 j := by
  simp only [← lookup_ofEntries (show ofEntries entries = .object _ from rfl)]
  exact Iff.rfl

/-- The value is an array with an encoding of each of `as`, in their order. -/
def IsListOf {α : Type} (IsEncoding : α → Json → Prop) (as : List α) : Json → Prop
  | .array items => List.Forall₂ IsEncoding as items
  | _ => False

/-- The value is no object with an entry under `name`. -/
def Lacks (name : String) : Json → Prop
  | .object entries => entries.lookup name = none
  | _ => True

end Json

/-- The value is an encoding of the wallet. -/
def Wallet.IsEncoding (w : Wallet) : Json → Prop :=
  Json.IsRecord [("address", (· = .string w.address)), ("balance", (· = .nat w.balance))]

/-- The value is an encoding of the secrets. -/
def WalletExport.IsEncoding (e : WalletExport) : Json → Prop :=
  Json.IsRecord
    [("address", (· = .string e.address)), ("private_key", (· = .string e.privateKey)),
      ("mnemonic", (· = .string e.mnemonic))]

/-- The value is an encoding of the transaction. -/
def Transaction.IsEncoding (t : Transaction) : Json → Prop :=
  Json.IsRecord
    [("id", (· = .string t.id)), ("sender", (· = .string t.sender)),
      ("receiver", (· = .string t.receiver)), ("amount", (· = .nat t.amount)),
      ("timestamp", (· = .nat t.timestamp)), ("signature", (· = .string t.signature))]

/-- The fields of a block before its transactions. -/
def Block.headingFields (b : Block) : List (String × (Json → Prop)) :=
  [("index", (· = .nat b.index)), ("timestamp", (· = .nat b.timestamp)),
    ("author", (· = .string b.author))]

/-- The value is an encoding of the block. A block without transactions may leave them out. -/
def Block.IsEncoding (b : Block) (j : Json) : Prop :=
  j.IsRecord (b.headingFields ++
      [("transactions", Json.IsListOf Transaction.IsEncoding b.transactions)]) ∨
    b.transactions = [] ∧ j.Lacks "transactions" ∧ j.IsRecord b.headingFields

/-! ### Records as arrays -/

/-- The fields of a wallet in their order. -/
def Wallet.toTuple (w : Wallet) : Json := .array [.string w.address, .nat w.balance]

/-- The fields of an export in their order. -/
def WalletExport.toTuple (e : WalletExport) : Json :=
  .array [.string e.address, .string e.privateKey, .string e.mnemonic]

/-- The fields of a transaction in their order. -/
def Transaction.toTuple (t : Transaction) : Json :=
  .array
    [.string t.id, .string t.sender, .string t.receiver, .nat t.amount, .nat t.timestamp,
      .string t.signature]

/-- The fields of a block in their order. Its transactions are arrays as well. -/
def Block.toTuple (b : Block) : Json :=
  .array
    [.nat b.index, .nat b.timestamp, .string b.author, .ofList Transaction.toTuple b.transactions]

/-! ### What a reader of records finds -/

theorem bind_eq_ok_iff {ε α β : Type} {x : Except ε α} {f : α → Except ε β} {b : β} :
    (x >>= f) = .ok b ↔ ∃ a, x = .ok a ∧ f a = .ok b := by
  cases x with
  | error e => exact iff_of_false nofun nofun
  | ok a => exact ⟨fun h => ⟨a, rfl, h⟩, fun ⟨_, ha, h⟩ => Except.ok.inj ha ▸ h⟩

theorem Json.lookup_of_mem {entries : List (String × Json)} (keys : (entries.map Prod.fst).Nodup)
    {e : String × Json} (he : e ∈ entries) : entries.lookup e.1 = some e.2 := by
  induction entries with
  | nil => cases he
  | cons first rest ih =>
    obtain ⟨hnew, hrest⟩ := List.nodup_cons.mp keys
    rcases List.mem_cons.mp he with rfl | he
    · rw [lookup_cons_eq_ite, if_pos rfl]
    · have hne : e.1 ≠ first.1 := fun h => hnew (h ▸ List.mem_map_of_mem he)
      rw [lookup_cons_eq_ite, if_neg hne]
      exact ih hrest he

namespace RecordReader

variable {α : Type} {n : Nat} {j : Json} {r : RecordReader} {fields : List (String × (Json → Prop))}

/-- Nothing stands at the positions from `n` on. -/
def EndsAt (n : Nat) : RecordReader → Prop
  | byName _ => True
  | byPosition _ _ items => items.length ≤ n

/-- From `position` on there are the given fields and nothing else. -/
def Holds (r : RecordReader) : Nat → List (String × (Json → Prop)) → Prop
  | position, [] => r.EndsAt position
  | position, f :: fields =>
    (∃ v, r.value? position f.1 = some v ∧ f.2 v) ∧ r.Holds (position + 1) fields

theorem holds_byName {entries : List (String × Json)} {position : Nat} :
    (byName entries).Holds position fields ↔
      ∀ f ∈ fields, ∃ v, entries.lookup f.1 = some v ∧ f.2 v := by
  induction fields generalizing position with
  | nil => simp [Holds, EndsAt]
  | cons f fields ih => simp [Holds, value?, ih]

theorem holds_byPosition {record : String} {items : List Json} {position : Nat} :
    (byPosition record n items).Holds position fields ↔
      List.Forall₂ (fun f v => f.2 v) fields (items.drop position) := by
  induction fields generalizing position with
  | nil => rw [Holds, EndsAt, List.forall₂_nil_left_iff, List.drop_eq_nil_iff]
  | cons f fields ih =>
    rw [Holds, ih]
    by_cases h : position < items.length
    · rw [List.drop_eq_getElem_cons h, List.forall₂_cons]
      simp [value?, h]
    · have hv : items[position]? = none := List.getElem?_eq_none (Nat.le_of_not_lt h)
      have hd : items.drop position = [] := List.drop_eq_nil_of_le (Nat.le_of_not_lt h)
      rw [hd, List.forall₂_nil_right_iff]
      simp [value?, hv]

/-- The reader reads a record of `n` fields from the value. -/
inductive Reads (n : Nat) : Json → RecordReader → Prop
  | object (entries : List (String × Json)) : Reads n (.object entries) (.byName entries)
  | array (record : String) (items : List Json) :
    Reads n (.array items) (.byPosition record n items)

theorem Reads.isRecord_iff (h : Reads n j r) : j.IsRecord fields ↔ r.Holds 0 fields := by
  cases h with
  | object entries => exact holds_byName.symm
  | array record items =>
    rw [holds_byPosition]
    rfl

theorem Reads.finish_eq_ok_iff (h : Reads n j r) (u : Unit) : r.finish = .ok u ↔ r.EndsAt n := by
  cases h with
  | object entries => exact iff_of_true rfl trivial
  | array record items =>
    rw [finish, EndsAt]
    by_cases hn : n < items.length
    · rw [if_pos hn]
      exact iff_of_false (fun hu => by cases hu) (Nat.not_le_of_lt hn)
    · rw [if_neg hn]
      exact iff_of_true rfl (Nat.le_of_not_lt hn)

theorem Reads.wellFormed_value (h : Reads n j r) (hj : j.WellFormed) {position : Nat}
    {name : String} {v : Json} (hv : r.value? position name = some v) : v.WellFormed := by
  cases h with
  | object entries =>
    exact hj.of_lookup hv
  | array record items =>
    exact Json.wellFormed_array.mp hj v (List.mem_of_getElem? hv)

theorem exists_reads (h : j.IsRecord fields) : ∃ r, Reads n j r := by
  cases j with
  | object entries => exact ⟨_, .object entries⟩
  | array items => exact ⟨_, .array "" items⟩
  | _ => cases h

theorem field_eq_ok_iff {position : Nat} {name : String} {decode : Decoder α} {a : α} :
    r.field position name decode = .ok a ↔
      ∃ v, r.value? position name = some v ∧ decode v = .ok a := by
  unfold field
  cases r.value? position name <;> simp

theorem fieldOr_eq_ok_iff {position : Nat} {name : String} {decode : Decoder α} {a default : α} :
    r.fieldOr position name decode default = .ok a ↔
      (∃ v, r.value? position name = some v ∧ decode v = .ok a) ∨
        r.value? position name = none ∧ a = default := by
  unfold fieldOr
  cases r.value? position name <;> simp [eq_comm]

/-- A record without its last field is an object that lacks it, or a shorter array. -/
theorem Reads.lacks_iff (h : Reads (n + 1) j r) (name : String) :
    r.value? n name = none ∧ r.EndsAt (n + 1) ↔ j.Lacks name ∧ r.EndsAt n := by
  cases h with
  | object entries => exact Iff.rfl
  | array record items =>
    show items[n]? = none ∧ items.length ≤ n + 1 ↔ True ∧ items.length ≤ n
    rw [List.getElem?_eq_none_iff, true_and]
    omega

/-- When a record is read. The fields are decoded twice; the first time, only to see that they can
be, does not matter. -/
theorem start_bind_eq_ok_iff {record : String} {checks : List (String × Decoder Unit)}
    {rest : RecordReader → Except DecodeError α} {a : α} {P : Prop} (hj : j.WellFormed)
    (hform : P → ∃ r, Reads checks.length j r)
    (hrest : ∀ r, Reads checks.length j r → (rest r = .ok a ↔ P))
    (hchecks : ∀ entries, j = .object entries → P →
      ∀ c ∈ checks, ∀ v, entries.lookup c.1 = some v → c.2 v = .ok ()) :
    (start record checks j >>= rest) = .ok a ↔ P := by
  cases j with
  | object entries =>
    rw [bind_eq_ok_iff, ← hrest _ (.object entries)]
    constructor
    · rintro ⟨r, hr, h⟩
      obtain ⟨_, -, hr⟩ := bind_eq_ok_iff.mp hr
      obtain rfl := Except.ok.inj hr
      exact h
    · intro h
      refine ⟨_, ?_, h⟩
      have hc : checkEntries checks entries = .ok () := by
        refine checkEntries_of_forall fun e he check hcheck => ?_
        obtain ⟨before, after, hmem, -⟩ := List.lookup_eq_some_iff.mp hcheck
        have hlookup : entries.lookup e.1 = some e.2 := Json.lookup_of_mem hj.nodup_keys he
        exact hchecks entries rfl ((hrest _ (.object entries)).mp h) (e.1, check) (by simp [hmem])
          e.2 hlookup
      rw [start, hc]
      rfl
  | array items => exact hrest _ (.array record items)
  | _ => exact iff_of_false (fun h => by cases h) fun h => by cases (hform h).choose_spec

/-- What the fields have to be passes their checks. -/
theorem checks_of_entries {checks : List (String × Decoder Unit)}
    (hpass : List.Forall₂ (fun c f => c.1 = f.1 ∧ ∀ v, f.2 v → c.2 v = .ok ()) checks fields)
    {entries : List (String × Json)}
    (h : ∀ f ∈ fields, ∃ v, entries.lookup f.1 = some v ∧ f.2 v) :
    ∀ c ∈ checks, ∀ v, entries.lookup c.1 = some v → c.2 v = .ok () := by
  induction hpass with
  | nil => exact List.forall_mem_nil _
  | cons hfirst _ ih =>
    obtain ⟨⟨w, hw, hf⟩, hrest⟩ := List.forall_mem_cons.mp h
    refine List.forall_mem_cons.mpr ⟨fun v hv => ?_, ih hrest⟩
    rw [hfirst.1, hw] at hv
    obtain rfl := Option.some.inj hv
    exact hfirst.2 w hf

/-- When a record is read that has all its fields. -/
theorem start_bind_eq_ok_iff_isRecord {record : String} {checks : List (String × Decoder Unit)}
    {rest : RecordReader → Except DecodeError α} {a : α} (hj : j.WellFormed)
    (hpass : List.Forall₂ (fun c f => c.1 = f.1 ∧ ∀ v, f.2 v → c.2 v = .ok ()) checks fields)
    (hrest : ∀ r, Reads checks.length j r → (rest r = .ok a ↔ r.Holds 0 fields)) :
    (start record checks j >>= rest) = .ok a ↔ j.IsRecord fields := by
  refine start_bind_eq_ok_iff hj exists_reads (fun r hr => ?_) ?_
  · rw [hrest r hr, hr.isRecord_iff]
  · rintro entries rfl h
    exact checks_of_entries hpass h

end RecordReader

/-! ### The values that the decoders accept -/

namespace Decoder

open RecordReader (Reads Holds)

variable {α : Type} {j : Json}

theorem text_eq_ok_iff {s : String} : text j = .ok s ↔ j = .string s := by
  cases j <;> simp [text]

theorem word_eq_ok_iff {n : UInt64} : word j = .ok n ↔ j = .nat n := by
  unfold word Json.nat
  split <;> simp_all

theorem list_eq_ok_iff {item : Decoder α} {as : List α} :
    list item j = .ok as ↔ j.IsListOf (fun a v => item v = .ok a) as := by
  cases j with
  | array items =>
    show items.mapM item = .ok as ↔ List.Forall₂ (fun a v => item v = .ok a) as items
    induction items generalizing as with
    | nil =>
      rw [List.mapM_nil, List.forall₂_nil_right_iff]
      exact ⟨fun h => (Except.ok.inj h).symm, fun h => congrArg Except.ok h.symm⟩
    | cons v items ih =>
      simp only [List.mapM_cons, bind_eq_ok_iff, ih, List.forall₂_cons_right_iff]
      constructor
      · rintro ⟨b, hb, bs, hbs, ⟨⟩⟩
        exact ⟨b, bs, hb, hbs, rfl⟩
      · rintro ⟨b, bs, hb, hbs, rfl⟩
        exact ⟨b, hb, bs, hbs, rfl⟩
  | _ => exact iff_of_false nofun id

theorem list_eq_ok_iff_of_wellFormed {item : Decoder α} {IsEncoding : α → Json → Prop}
    (hitem : ∀ v : Json, v.WellFormed → ∀ a, item v = .ok a ↔ IsEncoding a v)
    (hj : j.WellFormed) (as : List α) : list item j = .ok as ↔ j.IsListOf IsEncoding as := by
  rw [list_eq_ok_iff]
  cases hj with
  | @array items hitems =>
    show List.Forall₂ _ as items ↔ List.Forall₂ _ as items
    simp only [List.forall₂_iff_zip]
    have hmem {a : α} {v : Json} (h : (a, v) ∈ as.zip items) : v ∈ items := (List.of_mem_zip h).2
    exact and_congr_right fun _ =>
      ⟨fun h a v hz => (hitem v (hitems v (hmem hz)) a).mp (h hz),
        fun h a v hz => (hitem v (hitems v (hmem hz)) a).mpr (h hz)⟩
  | _ => exact Iff.rfl

theorem wallet_eq_ok_iff (hj : j.WellFormed) (w : Wallet) : wallet j = .ok w ↔ w.IsEncoding j := by
  refine RecordReader.start_bind_eq_ok_iff_isRecord hj
    (by simp [text_inverts.check, word_inverts.check]) fun r hr => ?_
  simp only [bind_eq_ok_iff, RecordReader.field_eq_ok_iff, text_eq_ok_iff, word_eq_ok_iff, Holds]
  constructor
  · rintro ⟨_, ha, _, hb, u, hend, ⟨⟩⟩
    exact ⟨ha, hb, (hr.finish_eq_ok_iff u).mp hend⟩
  · rintro ⟨ha, hb, hend⟩
    exact ⟨_, ha, _, hb, (), (hr.finish_eq_ok_iff ()).mpr hend, rfl⟩

theorem walletExport_eq_ok_iff (hj : j.WellFormed) (e : WalletExport) :
    walletExport j = .ok e ↔ e.IsEncoding j := by
  refine RecordReader.start_bind_eq_ok_iff_isRecord hj (by simp [text_inverts.check])
    fun r hr => ?_
  simp only [bind_eq_ok_iff, RecordReader.field_eq_ok_iff, text_eq_ok_iff, Holds]
  constructor
  · rintro ⟨_, ha, _, hk, _, hm, u, hend, ⟨⟩⟩
    exact ⟨ha, hk, hm, (hr.finish_eq_ok_iff u).mp hend⟩
  · rintro ⟨ha, hk, hm, hend⟩
    exact ⟨_, ha, _, hk, _, hm, (), (hr.finish_eq_ok_iff ()).mpr hend, rfl⟩

theorem transaction_eq_ok_iff (hj : j.WellFormed) (t : Transaction) :
    transaction j = .ok t ↔ t.IsEncoding j := by
  refine RecordReader.start_bind_eq_ok_iff_isRecord hj
    (by simp [text_inverts.check, word_inverts.check]) fun r hr => ?_
  simp only [bind_eq_ok_iff, RecordReader.field_eq_ok_iff, text_eq_ok_iff, word_eq_ok_iff, Holds]
  constructor
  · rintro ⟨_, hi, _, hs, _, hto, _, ha, _, ht, _, hsig, u, hend, ⟨⟩⟩
    exact ⟨hi, hs, hto, ha, ht, hsig, (hr.finish_eq_ok_iff u).mp hend⟩
  · rintro ⟨hi, hs, hto, ha, ht, hsig, hend⟩
    have hfinish := (hr.finish_eq_ok_iff ()).mpr hend
    exact ⟨_, hi, _, hs, _, hto, _, ha, _, ht, _, hsig, (), hfinish, rfl⟩

theorem transactions_eq_ok_iff (hj : j.WellFormed) (ts : List Transaction) :
    list transaction j = .ok ts ↔ j.IsListOf Transaction.IsEncoding ts :=
  list_eq_ok_iff_of_wellFormed (fun _ => transaction_eq_ok_iff) hj ts

theorem block_eq_ok_iff (hj : j.WellFormed) (b : Block) : block j = .ok b ↔ b.IsEncoding j := by
  refine RecordReader.start_bind_eq_ok_iff hj ?_ (fun r hr => ?_) ?_
  · rintro (h | ⟨-, -, h⟩) <;> exact RecordReader.exists_reads h
  · have htransactions (ts : List Transaction) :
        (∃ v, r.value? 3 "transactions" = some v ∧ list transaction v = .ok ts) ↔
          ∃ v, r.value? 3 "transactions" = some v ∧ v.IsListOf Transaction.IsEncoding ts :=
      exists_congr fun v => and_congr_right fun hv =>
        transactions_eq_ok_iff (hr.wellFormed_value hj hv) ts
    have hlacks := hr.lacks_iff "transactions"
    rw [Block.IsEncoding, hr.isRecord_iff, hr.isRecord_iff]
    simp only [bind_eq_ok_iff, RecordReader.field_eq_ok_iff, RecordReader.fieldOr_eq_ok_iff,
      text_eq_ok_iff, word_eq_ok_iff, htransactions, Block.headingFields, List.cons_append,
      List.nil_append, Holds]
    constructor
    · rintro ⟨_, hi, _, ht, _, ha, _, hts | ⟨hnone, rfl⟩, u, hend, ⟨⟩⟩
      · exact .inl ⟨hi, ht, ha, hts, (hr.finish_eq_ok_iff u).mp hend⟩
      · obtain ⟨hl, hend⟩ := hlacks.mp ⟨hnone, (hr.finish_eq_ok_iff u).mp hend⟩
        exact .inr ⟨rfl, hl, hi, ht, ha, hend⟩
    · rintro (⟨hi, ht, ha, hts, hend⟩ | ⟨hb, hl, hi, ht, ha, hend⟩)
      · exact ⟨_, hi, _, ht, _, ha, _, .inl hts, (), (hr.finish_eq_ok_iff ()).mpr hend, rfl⟩
      · obtain ⟨hnone, hend⟩ := hlacks.mpr ⟨hl, hend⟩
        exact ⟨_, hi, _, ht, _, ha, _, .inr ⟨hnone, hb⟩, (), (hr.finish_eq_ok_iff ()).mpr hend, rfl⟩
  · rintro entries rfl h
    simp only [Block.IsEncoding, Json.IsRecord, Json.Lacks, Block.headingFields, List.cons_append,
      List.nil_append, List.forall_mem_cons] at h
    obtain ⟨⟨_, hi, rfl⟩, ⟨_, ht, rfl⟩, ⟨_, ha, rfl⟩, ⟨v, hv, hts⟩, -⟩ |
      ⟨-, hnone, ⟨_, hi, rfl⟩, ⟨_, ht, rfl⟩, ⟨_, ha, rfl⟩, -⟩ := h
    · have hread := (transactions_eq_ok_iff (hj.of_lookup hv) _).mpr hts
      simp [hi, ht, ha, hv, text_inverts.check, word_inverts.check, check_of_ok hread]
    · simp [hi, ht, ha, hnone, text_inverts.check, word_inverts.check]

/-! ### Records in the body of an answer -/

/-- What is read of the result in the body of an answer is what the result is an encoding of. A
record can be written as an object or as an array. -/
structure IsExact (decode : Decoder α) (IsEncoding : α → Json → Prop) (toJson toTuple : α → Json) :
    Prop where
  eq_ok_iff (v : Json) (hv : v.WellFormed) (a : α) :
    readResponse decode (.ofEntries [("result", v)]) = .ok a ↔ IsEncoding a v
  toJson_back (a : α) : readResponse decode (.ofEntries [("result", toJson a)]) = .ok a
  toTuple_back (a : α) : readResponse decode (.ofEntries [("result", toTuple a)]) = .ok a

theorem readResponse_result (decode : Decoder α) (v : Json) :
    readResponse decode (.ofEntries [("result", v)]) = decode.run v := by
  cases v <;> rfl

theorem run_eq_ok_iff {decode : Decoder α} {a : α} : decode.run j = .ok a ↔ decode j = .ok a := by
  unfold run
  cases decode j with
  | error e => exact iff_of_false nofun nofun
  | ok b =>
    exact ⟨fun h => congrArg _ (Except.ok.inj h), fun h => congrArg _ (Except.ok.inj h)⟩

theorem isExact {decode : Decoder α} {IsEncoding : α → Json → Prop} {toJson toTuple : α → Json}
    (hiff : ∀ v : Json, v.WellFormed → ∀ a, decode v = .ok a ↔ IsEncoding a v)
    (hjson : decode.Inverts toJson) (htuple : decode.Inverts toTuple) :
    decode.IsExact IsEncoding toJson toTuple where
  eq_ok_iff v hv a := by rw [readResponse_result, run_eq_ok_iff, hiff v hv]
  toJson_back a := by rw [readResponse_result, run_eq_ok_iff, hjson a]
  toTuple_back a := by rw [readResponse_result, run_eq_ok_iff, htuple a]

theorem transaction_inverts_toTuple : transaction.Inverts Transaction.toTuple := fun _ => rfl

theorem block_inverts_toTuple : block.Inverts Block.toTuple := by
  intro b
  have hts := transaction_inverts_toTuple.list b.transactions
  simp [block, Block.toTuple, RecordReader.start, RecordReader.field, RecordReader.fieldOr,
    RecordReader.value?, RecordReader.finish, text_inverts _, word_inverts _, hts, bind,
    Except.bind, pure, Except.pure]

/-- **A record is read of its encodings and of nothing else.** What the record is written as is one
of them, as an object and as an array. -/
theorem records_exact :
    wallet.IsExact Wallet.IsEncoding Wallet.toJson Wallet.toTuple ∧
      walletExport.IsExact WalletExport.IsEncoding WalletExport.toJson WalletExport.toTuple ∧
      transaction.IsExact Transaction.IsEncoding Transaction.toJson Transaction.toTuple ∧
      block.IsExact Block.IsEncoding Block.toJson Block.toTuple ∧
      (list block).IsExact (Json.IsListOf Block.IsEncoding) (Json.ofList Block.toJson)
        (Json.ofList Block.toTuple) :=
  ⟨isExact (fun _ => wallet_eq_ok_iff) wallet_inverts fun _ => rfl,
    isExact (fun _ => walletExport_eq_ok_iff) walletExport_inverts fun _ => rfl,
    isExact (fun _ => transaction_eq_ok_iff) transaction_inverts transaction_inverts_toTuple,
    isExact (fun _ => block_eq_ok_iff) block_inverts block_inverts_toTuple,
    isExact (fun _ => list_eq_ok_iff_of_wellFormed fun _ => block_eq_ok_iff) block_inverts.list
      block_inverts_toTuple.list⟩

/-- A block among whose entries there is one more, with a transaction as an array, and a block as an
array that ends before the transactions. -/
theorem records_exact_mixed :
    let v : Json :=
      .array
        [.ofEntries
            [("author", .string "m"), ("note", .null), ("index", .nat 1), ("timestamp", .nat 7),
              ("transactions",
                .array [.array [.string "t", .string systemSender, .string "a",
                  .nat 18446744073709551615, .nat 7, .string ""]])],
          .array [.nat 2, .nat 8, .string "m"]]
    v.WellFormed ∧
      readResponse (list block) (.ofEntries [("result", v)]) =
        .ok
          [⟨1, 7, "m", [⟨"t", systemSender, "a", 18446744073709551615, 7, ""⟩]⟩,
            ⟨2, 8, "m", []⟩] := by
  intro v
  have hv : v.WellFormed := by
    refine .array (List.forall_mem_cons.mpr ⟨Json.wellFormed_ofEntries (by simp), by simp⟩)
  refine ⟨hv, (records_exact.2.2.2.2.eq_ok_iff v hv _).mpr (.cons (.inl ?_) (.cons (.inr ?_) .nil))⟩
  · rw [Json.isRecord_ofEntries]
    simp [Json.IsRecord, Json.lookup_cons_eq_ite, Block.headingFields, Json.IsListOf,
      Transaction.IsEncoding]
  · simp [Json.IsRecord, Json.Lacks, Block.headingFields]

end Decoder

end WalletDashboard
