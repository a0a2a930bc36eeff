import WalletDashboard.Proofs.Records
import WalletDashboard.Rpc.Delivery

/-!
# Answers read back

What the caller learns of an answer that a node words in its own way (`Wording`). Besides the result
or the error a node may send whatever entries it likes. It may leave out a result that is `null`, and
it chooses the codes and the texts of its errors, except that one code is kept for
`Failure.invalidKey`.

* `Wording.read_deliver_ok`: a value comes back as it was.
* `Wording.read_deliver_error` and `Wording.failure_rpcError_eq_invalidKey_iff`: a failure comes back
  as a failure, which is about a key if and only if the first was.
-/

namespace WalletDashboard

/-- A signed machine word as a number. -/
def Json.int (i : Int64) : Json :=
  .number (if 0 ≤ i.toInt then .natural (UInt64.ofNat i.toInt.toNat) else .negative i.toInt)

theorem Decoder.signedWord_int (i : Int64) : signedWord (.int i) = .ok i.toInt := by
  have hlt : i.toInt < 2 ^ 63 := i.toInt_lt
  unfold Json.int
  split
  · next h =>
    have hn : (UInt64.ofNat i.toInt.toNat).toNat = i.toInt.toNat :=
      UInt64.toNat_ofNat_of_lt' (show i.toInt.toNat < 2 ^ 64 by omega)
    have hto : (i.toInt.toNat : Int) = i.toInt := Int.toNat_of_nonneg h
    rw [signedWord, hn, if_pos (by omega), hto]
  · rfl

/-- How a node words an answer. -/
structure Wording where
  url : String
  status : Nat
  status_fine : status < 400 ∨ 600 ≤ status
  reason : String
  /-- The entries that are neither a result nor an error. -/
  header : List (String × Json)
  header_free : ∀ e ∈ header, e.1 ≠ "result" ∧ e.1 ≠ "error"
  /-- Whether a result that is `null` is left out. -/
  omitsNull : Bool
  /-- The code of a failure. -/
  code : Failure → Int64
  code_eq_iff : ∀ e, (code e).toInt = invalidKeyCode ↔ e = .invalidKey
  /-- What is said of a failure. -/
  text : Failure → String

namespace Wording

/-- A wording with the text that a user is shown as the text of an error. -/
def plain (url : String) : Wording where
  url
  status := 200
  status_fine := .inl (by decide)
  reason := "OK"
  header := [("jsonrpc", .string "2.0"), ("id", .nat 1)]
  header_free := by decide
  omitsNull := false
  code e := if e = .invalidKey then -32010 else -32000
  code_eq_iff e := by
    split
    · next h => exact iff_of_true rfl h
    · next h => exact iff_of_false (by decide) h
  text := Failure.message

instance : Inhabited Wording := ⟨plain ""⟩

variable (w : Wording) {α : Type} {decode : Decoder α} {encode : α → Json}

/-- The error that a failure is told as. -/
def rpcError (e : Failure) : RpcError := ⟨(w.code e).toInt, w.text e⟩

/-- The entry for a result, if there is one. -/
def resultEntries (result : Json) : List (String × Json) :=
  match result, w.omitsNull with
  | .null, true => []
  | _, _ => [("result", result)]

/-- The entry for an error. -/
def errorEntries (e : Failure) : List (String × Json) :=
  [("error", .ofEntries [("code", .int (w.code e)), ("message", .string (w.text e))])]

/-- The body of an answer. -/
def body : Except Failure Json → Json
  | .ok result => .ofEntries (w.header ++ w.resultEntries result)
  | .error e => .ofEntries (w.header ++ w.errorEntries e)

/-- How an answer comes back. -/
def deliver (outcome : Except Failure Json) : Delivery :=
  .answered w.url w.status w.reason (some (w.body outcome))

theorem lookup_header {name : String} (h : name = "result" ∨ name = "error") :
    w.header.reverse.lookup name = none := by
  rw [List.lookup_eq_none_iff]
  intro e he
  have hfree := w.header_free e (List.mem_reverse.mp he)
  rcases h with rfl | rfl
  · simpa using Ne.symm hfree.1
  · simpa using Ne.symm hfree.2

theorem rpcError_ofEntries (e : Failure) :
    Decoder.rpcError (.ofEntries [("code", .int (w.code e)), ("message", .string (w.text e))]) =
      .ok (w.rpcError e) := by
  have hc := Decoder.signedWord_int (w.code e)
  refine RecordReader.start_bind_eq_ok ?_ fun sorted hl => ?_
  · simp [Json.lookup_cons_eq_ite, Decoder.text_inverts.check, Decoder.check_of_ok hc]
  · simp [RecordReader.field, RecordReader.value?, RecordReader.finish, hl, Json.lookup_cons_eq_ite, hc,
      Decoder.text_inverts _, bind, Except.bind, pure, Except.pure, rpcError]

/-- The header does not matter to what is read. -/
theorem rpcResponse_ofEntries {own : List (String × Json)} {result : Option Json}
    {error : Option RpcError}
    (hcheck : ∀ j, ("error", j) ∈ own → (Decoder.optional Decoder.rpcError).check j = .ok ())
    (hresult : (RecordReader.byName own.reverse).optionalField 0 "result" Decoder.any = .ok result)
    (herror :
      (RecordReader.byName own.reverse).optionalField 1 "error" Decoder.rpcError = .ok error) :
    Decoder.rpcResponse (.ofEntries (w.header ++ own)) = .ok ⟨result, error⟩ := by
  refine RecordReader.start_bind_eq_ok ?_ fun sorted hl => ?_
  -- Anything will do as a result, and an error that can be decoded stands among `own`.
  · rintro ⟨name, j⟩ he check hc
    rw [Json.lookup_cons_eq_ite, Json.lookup_cons_eq_ite] at hc
    split at hc
    · obtain rfl := Option.some.inj hc
      rfl
    · split at hc
      · next hn =>
        obtain rfl := Option.some.inj hc
        obtain rfl : name = "error" := hn
        rcases List.mem_append.mp he with he | he
        · exact absurd rfl (w.header_free _ he).2
        · exact hcheck j he
      · contradiction
  · have hown {name : String} (hn : name = "result" ∨ name = "error") :
        sorted.lookup name = own.reverse.lookup name := by
      rw [hl, List.reverse_append, List.lookup_append, w.lookup_header hn, Option.or_none]
    rw [RecordReader.optionalField_congr (hown (.inl rfl)),
      RecordReader.optionalField_congr (hown (.inr rfl)), hresult, herror]
    rfl

theorem rpcResponse_ok (result : Json) :
    ∃ found, Decoder.rpcResponse (w.body (.ok result)) = .ok ⟨found, none⟩ ∧
      found.getD .null = result := by
  have hown : w.resultEntries result = [("result", result)] ∨
      w.resultEntries result = [] ∧ result = .null := by
    unfold resultEntries
    split
    · exact .inr ⟨rfl, rfl⟩
    · exact .inl rfl
  -- A result that is `null` counts as missing, and what is missing is taken for `null` again.
  obtain ⟨found, hread, hfound⟩ : ∃ found,
      Decoder.optional Decoder.any result = .ok found ∧ found.getD .null = result := by
    cases result <;> exact ⟨_, rfl, rfl⟩
  rcases hown with hown | ⟨hown, rfl⟩
  · refine ⟨found, w.rpcResponse_ofEntries ?_ ?_ ?_, hfound⟩ <;> rw [hown]
    · simp
    · exact hread
    · rfl
  · refine ⟨none, w.rpcResponse_ofEntries ?_ ?_ ?_, rfl⟩ <;> rw [hown]
    · simp
    · rfl
    · rfl

theorem rpcResponse_error (e : Failure) :
    Decoder.rpcResponse (w.body (.error e)) = .ok ⟨none, some (w.rpcError e)⟩ := by
  have hread : Decoder.optional Decoder.rpcError
      (.ofEntries [("code", .int (w.code e)), ("message", .string (w.text e))]) =
        .ok (some (w.rpcError e)) := by
    change Except.map some (Decoder.rpcError _) = _
    rw [w.rpcError_ofEntries]
    rfl
  refine w.rpcResponse_ofEntries ?_ rfl hread
  intro j hj
  obtain rfl : j = _ := (Prod.mk.inj (List.mem_singleton.mp hj)).2
  exact Decoder.check_of_ok hread

/-- What is read of a delivered answer is read of its body. -/
theorem read_deliver (outcome : Except Failure Json) (decode : Decoder α) :
    (w.deliver outcome).read decode = readResponse decode (w.body outcome) := by
  have hfine := w.status_fine
  simp only [deliver, Delivery.read]
  rw [if_neg (by omega), if_neg (by omega)]

/-- A value comes back as it was. -/
theorem read_deliver_ok (h : decode.Inverts encode) (a : α) :
    (w.deliver (.ok (encode a))).read decode = .ok a := by
  obtain ⟨found, hread, hfound⟩ := w.rpcResponse_ok (encode a)
  rw [read_deliver]
  simp only [readResponse, Decoder.run, hread, Except.mapError, bind, Except.bind, hfound, h a]

/-- A failure comes back as what the code and the text say of it. -/
theorem read_deliver_error (e : Failure) (decode : Decoder α) :
    (w.deliver (.error e)).read decode = .error (w.rpcError e).failure := by
  rw [read_deliver]
  simp only [readResponse, Decoder.run, w.rpcResponse_error e, Except.mapError, bind, Except.bind]

/-- Only a key that belongs to no wallet comes back as one. -/
theorem failure_rpcError_eq_invalidKey_iff (e : Failure) :
    (w.rpcError e).failure = .invalidKey ↔ e = .invalidKey := by
  rw [← w.code_eq_iff e]
  unfold RpcError.failure rpcError
  split
  · next h => exact iff_of_true rfl h
  · next h => exact iff_of_false nofun h

end Wording

end WalletDashboard
