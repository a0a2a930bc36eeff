import WalletDashboard.Proofs.Acceptance
import WalletDashboard.Proofs.Answers
import WalletDashboard.Proofs.Requests

/-!
# What becomes of a call

A node may answer a call with any status and any body, or not at all (`NodeReply`). What the caller
is told depends on what the reply carries (`NodeReply.Carries`): a result and an error in an
envelope, each of which counts as `null` if it is missing.

* `Decoder.readResponse_of_envelope`: what is read of an envelope depends on these two and on
  nothing else.
* `ServiceCall.Settles` says of every outcome when it is the outcome of a call.
* `Sender.outcome_call`: the calls of the service of a node are settled so.
-/

namespace WalletDashboard

/-! ### Replies -/

/-- The value that a body holds if it is a JSON text in UTF-8. -/
def Json.readBytes? (body : ByteArray) : Option Json := (String.fromUTF8? body).bind read?

/-- What can come back from a node. -/
inductive NodeReply
  /-- The connection is closed without an answer. -/
  | hangUp
  | response (status : Nat) (reason : String) (body : ByteArray)

/-- How a reply comes back from `url`. -/
def NodeReply.deliver (url : String) : NodeReply → Delivery
  | hangUp => .broken url
  | response status reason body => .answered url status reason (Json.readBytes? body)

/-- Sends every request to a node at `url` that replies as it is told by `respond`. -/
def Sender.answering {σ : Type} (url : String) (respond : RpcRequest → σ → NodeReply × σ) :
    Sender σ :=
  fun r m => ((respond r m).1.deliver url, (respond r m).2)

/-! ### Envelopes -/

/-- The value is an encoding of the error. -/
def RpcError.IsEncoding (e : RpcError) : Json → Prop :=
  Json.IsRecord
    [("code", fun v => ∃ i : Int64, v = .int i ∧ i.toInt = e.code),
      ("message", (· = .string e.message))]

/-- The value is an encoding of the error, or `null` if there is none. -/
def RpcError.IsEncodingOf (error : Option RpcError) (j : Json) : Prop :=
  match error with
  | none => j = .null
  | some e => e.IsEncoding j

/-- The result and the error in an envelope. In an object, what is missing counts as `null`. -/
def Json.envelope? : Json → Option (Json × Json)
  | .object entries =>
    some ((entries.lookup "result").getD .null, (entries.lookup "error").getD .null)
  | .array [result, error] => some (result, error)
  | _ => none

/-- The reply is a response that reports no failure of the request, with an envelope in its body. -/
def NodeReply.Encloses (result error : Json) : NodeReply → Prop
  | hangUp => False
  | response status _ body =>
    ¬(400 ≤ status ∧ status < 600) ∧
      (Json.readBytes? body).bind Json.envelope? = some (result, error)

/-- The reply has an envelope around this result and an encoding of the error. -/
def NodeReply.Carries (result : Json) (error : Option RpcError) (reply : NodeReply) : Prop :=
  ∃ v, reply.Encloses result v ∧ RpcError.IsEncodingOf error v

namespace ServiceCall

/-- What the result of a call has to be. -/
def reads : ServiceCall → Decoder ServiceAnswer
  | .getWallet => fun j =>
    (Decoder.optional Decoder.wallet j).map fun w => (w.map .wallet).getD .nothing
  | .createWallet => fun j => (Decoder.walletExport j).map .secrets
  | .refreshBlockHeight => fun j => (Decoder.word j).map .height
  | .recentBlocks => fun j => (Decoder.list Decoder.block j).map .blocks
  | .importWallet _ | .refreshWallet | .logout => fun j =>
    (Decoder.nothing j).map fun _ => .nothing

/-- The failure that a call was refused. -/
def refusal (text : String) : ServiceCall → Failure
  | .createWallet => .importRefused text
  | _ => .service text

/-- The outcome of a call is settled by the reply. -/
structure Settles (c : ServiceCall) (reply : NodeReply) (outcome : Except Failure ServiceAnswer) :
    Prop where
  eq_ok_iff (v : ServiceAnswer) :
    outcome = .ok v ↔ ∃ result, reply.Carries result none ∧ c.reads result = .ok v
  eq_invalidKey_iff :
    outcome = .error .invalidKey ↔
      ∃ result e, reply.Carries result (some e) ∧ e.code = invalidKeyCode
  eq_refusal_iff (text : String) :
    outcome = .error (c.refusal text) ↔
      ∃ result e, reply.Carries result (some e) ∧ e.code ≠ invalidKeyCode ∧
        text = e.message ++ " (code " ++ Int.repr e.code ++ ")"
  eq_client_iff :
    (∃ cause, outcome = .error (.client cause)) ↔
      (¬∃ result v, reply.Carries result none ∧ c.reads result = .ok v) ∧
        ¬∃ result e, reply.Carries result (some e)

end ServiceCall

/-! ### Reading envelopes -/

namespace Decoder

variable {α : Type} {j : Json}

/-- A whole number that is read fits a signed machine word, and is written in one way. -/
theorem of_signedWord_eq_ok (hj : j.WellFormed) {n : Int} (h : signedWord j = .ok n) :
    (-2 ^ 63 ≤ n ∧ n < 2 ^ 63) ∧
      j = .number (if 0 ≤ n then .natural (UInt64.ofNat n.toNat) else .negative n) := by
  unfold signedWord at h
  split at h
  · next m =>
    split at h
    · next hm =>
      obtain rfl := Except.ok.inj h
      refine ⟨by omega, ?_⟩
      rw [if_pos (Int.natCast_nonneg _), Int.toNat_natCast, UInt64.ofNat_toNat]
    · cases h
  · next m =>
    obtain rfl := Except.ok.inj h
    cases hj with
    | negative hm =>
      refine ⟨by omega, ?_⟩
      rw [if_neg (by omega)]
  · cases h

theorem signedWord_eq_ok_iff (hj : j.WellFormed) (n : Int) :
    signedWord j = .ok n ↔ ∃ i : Int64, j = .int i ∧ i.toInt = n := by
  constructor
  · intro h
    obtain ⟨⟨hlow, hhigh⟩, rfl⟩ := of_signedWord_eq_ok hj h
    have hi : (Int64.ofInt n).toInt = n := Int64.toInt_ofInt_of_le hlow hhigh
    exact ⟨Int64.ofInt n, by rw [Json.int, hi], hi⟩
  · rintro ⟨i, rfl, rfl⟩
    exact signedWord_int i

theorem rpcError_eq_ok_iff (hj : j.WellFormed) (e : RpcError) :
    rpcError j = .ok e ↔ e.IsEncoding j := by
  refine RecordReader.start_bind_eq_ok_iff_isRecord hj (.cons ⟨rfl, ?_⟩ (.cons ⟨rfl, ?_⟩ .nil))
    fun r hr => ?_
  · rintro _ ⟨i, rfl, -⟩
    exact check_of_ok (signedWord_int i)
  · rintro _ rfl
    exact text_inverts.check e.message
  · have hcode (n : Int) :
        (∃ v, r.value? 0 "code" = some v ∧ signedWord v = .ok n) ↔
          ∃ v, r.value? 0 "code" = some v ∧ ∃ i : Int64, v = .int i ∧ i.toInt = n :=
      exists_congr fun v => and_congr_right fun hv =>
        signedWord_eq_ok_iff (hr.wellFormed_value hj hv) n
    simp only [bind_eq_ok_iff, RecordReader.field_eq_ok_iff, text_eq_ok_iff, hcode,
      RecordReader.Holds]
    constructor
    · rintro ⟨_, hc, _, hm, u, hend, ⟨⟩⟩
      exact ⟨hc, hm, (hr.finish_eq_ok_iff u).mp hend⟩
    · rintro ⟨hc, hm, hend⟩
      exact ⟨_, hc, _, hm, (), (hr.finish_eq_ok_iff ()).mpr hend, rfl⟩

theorem optional_rpcError_eq_ok_iff (hj : j.WellFormed) (error : Option RpcError) :
    optional rpcError j = .ok error ↔ RpcError.IsEncodingOf error j := by
  unfold optional
  split
  · cases error with
    | none => exact iff_of_true rfl rfl
    | some e => exact iff_of_false nofun id
  · next hnull =>
    cases error with
    | none =>
      refine iff_of_false (fun h => ?_) hnull
      cases hr : rpcError j <;> rw [hr] at h <;> cases h
    | some e =>
      rw [RpcError.IsEncodingOf, ← rpcError_eq_ok_iff hj]
      cases rpcError j <;> simp [Except.map]

/-- A result that is `null` counts as missing, and what is missing is taken for `null` again. -/
theorem optional_any (j : Json) : ∃ found, optional any j = .ok found ∧ found.getD .null = j := by
  cases j <;> exact ⟨_, rfl, rfl⟩

end Decoder

namespace RecordReader

/-- If only one of the fields can fail to be decoded, then the entries fail as it does. -/
theorem checkEntries_eq_of_others {fields : List (String × Decoder Unit)} {name : String}
    {check : Decoder Unit} (hname : fields.lookup name = some check)
    {entries : List (String × Json)} (keys : (entries.map Prod.fst).Nodup)
    (hothers : ∀ e ∈ entries, e.1 ≠ name →
      ∀ other, fields.lookup e.1 = some other → other e.2 = .ok ()) :
    checkEntries fields entries =
      match entries.lookup name with
      | some v => check v
      | none => .ok () := by
  induction entries with
  | nil => rfl
  | cons e rest ih =>
    obtain ⟨hnew, hrest⟩ := List.nodup_cons.mp keys
    have ih := ih hrest fun e he => hothers e (.tail _ he)
    obtain ⟨key, v⟩ := e
    rw [checkEntries, Json.lookup_cons_eq_ite]
    by_cases hk : name = key
    · subst hk
      have hnone : rest.lookup name = none := by
        rw [List.lookup_eq_none_iff]
        intro e he
        exact bne_iff_ne.mpr fun h => hnew (List.mem_map.mpr ⟨e, he, h.symm⟩)
      rw [hnone] at ih
      simp only [hname, ih, if_true]
      cases check v <;> rfl
    · rw [if_neg hk, ← ih]
      split
      · rfl
      · next other ho =>
        rw [hothers (key, v) (.head _) (Ne.symm hk) other ho]

theorem optionalField_byName {α : Type} (entries : List (String × Json)) (position : Nat)
    (name : String) (decode : Decoder α) :
    (byName entries).optionalField position name decode =
      Decoder.optional decode ((entries.lookup name).getD .null) := by
  simp only [optionalField, value?]
  cases entries.lookup name <;> rfl

end RecordReader

namespace Decoder

variable {j result error : Json}

theorem checkEntries_envelope {entries : List (String × Json)}
    (keys : (entries.map Prod.fst).Nodup) :
    RecordReader.checkEntries
        [("result", any.check), ("error", (optional rpcError).check)] entries =
      (optional rpcError).check ((entries.lookup "error").getD .null) := by
  -- Anything will do as a result.
  have hothers : ∀ e ∈ entries, e.1 ≠ "error" → ∀ other,
      List.lookup e.1 [("result", any.check), ("error", (optional rpcError).check)] = some other →
        other e.2 = .ok () := by
    intro e _ hne other ho
    rw [Json.lookup_cons_eq_ite, Json.lookup_cons_eq_ite, if_neg hne] at ho
    split at ho
    · obtain rfl := Option.some.inj ho
      rfl
    · cases ho
  rw [RecordReader.checkEntries_eq_of_others rfl keys hothers]
  cases entries.lookup "error" <;> rfl

theorem rpcResponse_of_envelope (hj : j.WellFormed) (h : j.envelope? = some (result, error)) :
    ∃ found : Option Json, found.getD .null = result ∧
      rpcResponse j = (optional rpcError error).map fun e => ⟨found, e⟩ := by
  obtain ⟨found, hread, hfound⟩ := optional_any result
  refine ⟨found, hfound, ?_⟩
  unfold Json.envelope? at h
  split at h
  · next entries =>
    cases h
    have hcheck := checkEntries_envelope hj.nodup_keys
    simp only [rpcResponse, RecordReader.start, hcheck, check]
    cases he : optional rpcError ((entries.lookup "error").getD .null) with
    | error x => rfl
    | ok e =>
      simp only [Except.map, bind, Except.bind, RecordReader.optionalField_byName, hread, he]
      rfl
  · cases h
    simp only [rpcResponse, RecordReader.start, bind, Except.bind, RecordReader.optionalField,
      RecordReader.value?, List.getElem?_cons_zero, List.getElem?_cons_succ, hread]
    cases optional rpcError error <;> rfl
  · cases h

theorem rpcResponse_of_no_envelope (h : j.envelope? = none) : ∃ x, rpcResponse j = .error x := by
  cases j with
  | object entries => cases h
  | array items =>
    rcases items with _ | ⟨result, _ | ⟨error, _ | ⟨more, rest⟩⟩⟩
    · exact ⟨_, rfl⟩
    · obtain ⟨found, hread, -⟩ := optional_any result
      simp [rpcResponse, RecordReader.start, bind, Except.bind, RecordReader.optionalField, hread,
        RecordReader.value?]
    · cases h
    · obtain ⟨found, hread, -⟩ := optional_any result
      simp [rpcResponse, RecordReader.start, bind, Except.bind, RecordReader.optionalField, hread,
        RecordReader.value?]
      cases optional rpcError error <;> exact ⟨_, rfl⟩
  | _ => exact ⟨_, rfl⟩

/-- What is read of an envelope. The error is looked at first. -/
theorem readResponse_of_envelope {α : Type} (decode : Decoder α) (hj : j.WellFormed)
    (h : j.envelope? = some (result, error)) :
    readResponse decode j =
      (optional rpcError).run error >>= fun
        | some e => .error e.failure
        | none => decode.run result := by
  obtain ⟨found, rfl, hread⟩ := rpcResponse_of_envelope hj h
  rw [readResponse, run, hread, run]
  cases optional rpcError error with
  | error x => rfl
  | ok e => cases e <;> rfl

theorem readResponse_of_no_envelope {α : Type} (decode : Decoder α) (h : j.envelope? = none) :
    ∃ cause, readResponse decode j = .error (.client cause) := by
  obtain ⟨x, hx⟩ := rpcResponse_of_no_envelope h
  rw [readResponse, run, hx]
  exact ⟨_, rfl⟩

end Decoder

/-! ### Reading replies -/

theorem Json.readBytes?_toUTF8 (text : String) : readBytes? text.toUTF8 = read? text := by
  rw [readBytes?, String.fromUTF8?, dif_pos (show text.toUTF8.IsValidUTF8 from text.isValidUTF8)]
  rfl

theorem Json.wellFormed_of_readBytes? {body : ByteArray} {j : Json}
    (h : Json.readBytes? body = some j) : j.WellFormed := by
  obtain ⟨text, -, hread⟩ := Option.bind_eq_some_iff.mp h
  exact wellFormed_of_read? hread

theorem Json.WellFormed.error_of_envelope? {j result error : Json} (hj : j.WellFormed)
    (h : j.envelope? = some (result, error)) : error.WellFormed := by
  unfold envelope? at h
  split at h
  · next entries =>
    cases h
    cases he : entries.lookup "error" with
    | none => exact wellFormed_null
    | some v => exact hj.of_lookup he
  · cases h
    exact wellFormed_array.mp hj error (by simp)
  · cases h

namespace NodeReply

variable {α : Type} (decode : Decoder α) (url : String) {reply : NodeReply} {result error : Json}

theorem read_of_encloses (h : reply.Encloses result error) :
    (reply.deliver url).read decode =
      (Decoder.optional Decoder.rpcError).run error >>= fun
        | some e => .error e.failure
        | none => decode.run result := by
  cases reply with
  | hangUp => cases h
  | response status reason body =>
    obtain ⟨hfine, h⟩ := h
    obtain ⟨j, hbody, henv⟩ := Option.bind_eq_some_iff.mp h
    simp only [deliver, Delivery.read]
    rw [if_neg (by omega), if_neg (by omega), hbody]
    exact Decoder.readResponse_of_envelope decode (Json.wellFormed_of_readBytes? hbody) henv

theorem read_of_not_encloses (h : ¬∃ result error, reply.Encloses result error) :
    ∃ cause, (reply.deliver url).read decode = .error (.client cause) := by
  cases reply with
  | hangUp => exact ⟨_, rfl⟩
  | response status reason body =>
    simp only [deliver, Delivery.read]
    split
    · exact ⟨_, rfl⟩
    · split
      · exact ⟨_, rfl⟩
      · next hclient hserver =>
        have hfine : ¬(400 ≤ status ∧ status < 600) := by omega
        cases hbody : Json.readBytes? body with
        | none => exact ⟨_, rfl⟩
        | some j =>
          refine Decoder.readResponse_of_no_envelope decode ?_
          cases henv : j.envelope? with
          | none => rfl
          | some e => exact absurd ⟨e.1, e.2, hfine, by rw [hbody]; exact henv⟩ h

theorem wellFormed_of_encloses (h : reply.Encloses result error) : error.WellFormed := by
  cases reply with
  | hangUp => cases h
  | response status reason body =>
    obtain ⟨j, hbody, henv⟩ := Option.bind_eq_some_iff.mp h.2
    exact (Json.wellFormed_of_readBytes? hbody).error_of_envelope? henv

theorem read_of_carries_none (h : reply.Carries result none) :
    (reply.deliver url).read decode = decode.run result := by
  obtain ⟨v, hv, rfl⟩ := h
  exact read_of_encloses decode url hv

theorem read_of_carries_some {e : RpcError} (h : reply.Carries result (some e)) :
    (reply.deliver url).read decode = .error e.failure := by
  obtain ⟨v, hv, he⟩ := h
  have hread := (Decoder.optional_rpcError_eq_ok_iff (wellFormed_of_encloses hv) (some e)).mpr he
  rw [read_of_encloses decode url hv, Decoder.run, hread]
  rfl

theorem read_of_not_carries (h : ¬∃ result error, reply.Carries result error) :
    ∃ cause, (reply.deliver url).read decode = .error (.client cause) := by
  by_cases hr : ∃ result error, reply.Encloses result error
  · obtain ⟨result, v, hv⟩ := hr
    rw [read_of_encloses decode url hv, Decoder.run]
    cases hread : Decoder.optional Decoder.rpcError v with
    | error x => exact ⟨_, rfl⟩
    | ok e =>
      have he := (Decoder.optional_rpcError_eq_ok_iff (wellFormed_of_encloses hv) e).mp hread
      exact absurd ⟨result, e, v, hv, he⟩ h
  · exact read_of_not_encloses decode url hr

end NodeReply

/-! ### Outcomes of calls -/

theorem readResponse_map {α β : Type} (decode : Decoder α) (f : α → β) (j : Json) :
    readResponse (fun v => (decode v).map f) j = (readResponse decode j).map f := by
  unfold readResponse
  cases Decoder.rpcResponse.run j with
  | error e => rfl
  | ok response =>
    cases hr : response.error with
    | some e => simp only [bind, Except.bind, hr, Except.map]
    | none =>
      simp only [bind, Except.bind, hr, Decoder.run]
      cases decode (response.result.getD .null) <;> rfl

theorem Delivery.read_map {α β : Type} (decode : Decoder α) (f : α → β) (d : Delivery) :
    d.read (fun v => (decode v).map f) = (d.read decode).map f := by
  cases d with
  | notSent shown => cases shown <;> rfl
  | broken url => rfl
  | answered url status reason body =>
    simp only [read]
    split
    · rfl
    · split
      · rfl
      · cases body with
        | none => rfl
        | some j => exact readResponse_map decode f j

namespace ServiceCall

variable (c : ServiceCall)

/-- A failure of the node as a failure of the call. -/
def refuse : Failure → Failure
  | .service text => c.refusal text
  | e => e

theorem refuse_failure (e : RpcError) :
    c.refuse e.failure =
      if e.code = invalidKeyCode then .invalidKey
      else c.refusal (e.message ++ " (code " ++ Int.repr e.code ++ ")") := by
  unfold RpcError.failure
  split <;> rfl

theorem mapError_refuse {α : Type} (h : c ≠ .createWallet) (outcome : Except Failure α) :
    outcome.mapError c.refuse = outcome := by
  cases outcome with
  | ok a => rfl
  | error e =>
    cases e with
    | service text =>
      cases c with
      | createWallet => exact absurd rfl h
      | _ => rfl
    | _ => rfl

theorem outcome_call_remoteService {σ : Type} (send : Sender σ) (recent : UInt64) (m : σ) :
    ((remoteService send recent.toNat).call c m).outcome =
      ((send (c.request recent) m).1.read c.reads).mapError c.refuse := by
  cases c with
  | createWallet =>
    show ((send.createWallet m).wrap ServiceAnswer.secrets).outcome = _
    simp only [reads, Delivery.read_map, Sender.createWallet, Sender.call, request, Reply.wrap]
    cases (send ⟨"wallet_create", []⟩ m).1.read Decoder.walletExport with
    | ok e => rfl
    | error e => cases e <;> rfl
  | recentBlocks =>
    rw [mapError_refuse, reads, Delivery.read_map]
    · show ((send ⟨"chain_recentBlocks", [.nat (UInt64.ofNat recent.toNat)]⟩ m).1.read _).map _ = _
      rw [UInt64.ofNat_toNat]
      rfl
    · nofun
  | _ =>
    rw [mapError_refuse, reads, Delivery.read_map]
    · rfl
    · nofun

theorem refusal_injective {text text' : String} (h : c.refusal text = c.refusal text') :
    text = text' := by
  cases c <;> exact Failure.noConfusion h id

theorem refusal_ne_invalidKey (text : String) : c.refusal text ≠ .invalidKey := by
  cases c <;> nofun

theorem refusal_ne_client (text cause : String) : c.refusal text ≠ .client cause := by
  cases c <;> nofun

section

variable {c} {reply : NodeReply} {outcome : Except Failure ServiceAnswer} {url : String}
  (h : outcome = ((reply.deliver url).read c.reads).mapError c.refuse)

include h

theorem outcome_of_carries_none {result : Json} {v : ServiceAnswer}
    (hc : reply.Carries result none) (hv : c.reads result = .ok v) : outcome = .ok v := by
  rw [h, NodeReply.read_of_carries_none c.reads url hc, Decoder.run, hv]
  rfl

theorem outcome_of_carries_some {result : Json} {e : RpcError}
    (hc : reply.Carries result (some e)) :
    outcome = .error (if e.code = invalidKeyCode then .invalidKey
      else c.refusal (e.message ++ " (code " ++ Int.repr e.code ++ ")")) := by
  rw [h, NodeReply.read_of_carries_some c.reads url hc, ← refuse_failure]
  rfl

/-- The outcome comes of what the reply carries, if anything. Otherwise the way to the node has
failed. -/
theorem outcome_cases :
    (∃ result v, reply.Carries result none ∧ c.reads result = .ok v ∧ outcome = .ok v) ∨
      (∃ result e, reply.Carries result (some e) ∧ e.code = invalidKeyCode ∧
        outcome = .error .invalidKey) ∨
      (∃ result e, reply.Carries result (some e) ∧ e.code ≠ invalidKeyCode ∧
        outcome = .error (c.refusal (e.message ++ " (code " ++ Int.repr e.code ++ ")"))) ∨
      ∃ cause, outcome = .error (.client cause) := by
  by_cases hr : ∃ result error, reply.Carries result error
  · obtain ⟨result, error, hc⟩ := hr
    cases error with
    | none =>
      cases hv : c.reads result with
      | error x =>
        refine .inr (.inr (.inr ?_))
        rw [h, NodeReply.read_of_carries_none c.reads url hc, Decoder.run, hv]
        exact ⟨_, rfl⟩
      | ok v => exact .inl ⟨result, v, hc, hv, outcome_of_carries_none h hc hv⟩
    | some e =>
      have ho := outcome_of_carries_some h hc
      split at ho
      · next hcode => exact .inr (.inl ⟨result, e, hc, hcode, ho⟩)
      · next hcode => exact .inr (.inr (.inl ⟨result, e, hc, hcode, ho⟩))
  · obtain ⟨cause, hcause⟩ := NodeReply.read_of_not_carries c.reads url hr
    rw [hcause] at h
    exact .inr (.inr (.inr ⟨cause, h⟩))

theorem eq_ok_iff (v : ServiceAnswer) :
    outcome = .ok v ↔ ∃ result, reply.Carries result none ∧ c.reads result = .ok v := by
  constructor
  · intro ho
    rcases outcome_cases h with ⟨result, w, hc, hw, hv⟩ | ⟨_, _, -, -, he⟩ | ⟨_, _, -, -, he⟩ |
      ⟨_, he⟩
    · exact ⟨result, hc, Except.ok.inj (hv.symm.trans ho) ▸ hw⟩
    all_goals cases ho.symm.trans he
  · rintro ⟨result, hc, hv⟩
    exact outcome_of_carries_none h hc hv

theorem eq_invalidKey_iff :
    outcome = .error .invalidKey ↔
      ∃ result e, reply.Carries result (some e) ∧ e.code = invalidKeyCode := by
  constructor
  · intro ho
    rcases outcome_cases h with ⟨_, v, -, -, hv⟩ | ⟨result, e, hc, hcode, -⟩ | ⟨_, e, -, -, he⟩ |
      ⟨_, he⟩
    · cases ho.symm.trans hv
    · exact ⟨result, e, hc, hcode⟩
    · exact absurd (Except.error.inj (he.symm.trans ho)) (c.refusal_ne_invalidKey _)
    · cases ho.symm.trans he
  · rintro ⟨result, e, hc, hcode⟩
    rw [outcome_of_carries_some h hc, if_pos hcode]

theorem eq_refusal_iff (text : String) :
    outcome = .error (c.refusal text) ↔
      ∃ result e, reply.Carries result (some e) ∧ e.code ≠ invalidKeyCode ∧
        text = e.message ++ " (code " ++ Int.repr e.code ++ ")" := by
  constructor
  · intro ho
    rcases outcome_cases h with ⟨_, v, -, -, hv⟩ | ⟨_, e, -, -, he⟩ | ⟨result, e, hc, hcode, he⟩ |
      ⟨cause, he⟩
    · cases ho.symm.trans hv
    · exact absurd (Except.error.inj (ho.symm.trans he)) (c.refusal_ne_invalidKey _)
    · exact ⟨result, e, hc, hcode, c.refusal_injective (Except.error.inj (ho.symm.trans he))⟩
    · exact absurd (Except.error.inj (ho.symm.trans he)) (c.refusal_ne_client _ _)
  · rintro ⟨result, e, hc, hcode, rfl⟩
    rw [outcome_of_carries_some h hc, if_neg hcode]

theorem eq_client_iff :
    (∃ cause, outcome = .error (.client cause)) ↔
      (¬∃ result v, reply.Carries result none ∧ c.reads result = .ok v) ∧
        ¬∃ result e, reply.Carries result (some e) := by
  constructor
  · rintro ⟨cause, ho⟩
    refine ⟨fun ⟨result, v, hc, hv⟩ => ?_, fun ⟨result, e, hc⟩ => ?_⟩
    · cases ho.symm.trans (outcome_of_carries_none h hc hv)
    · have hf := Except.error.inj (ho.symm.trans (outcome_of_carries_some h hc))
      split at hf
      · cases hf
      · exact c.refusal_ne_client _ _ hf.symm
  · rintro ⟨hnone, hsome⟩
    rcases outcome_cases h with ⟨result, v, hc, hv, -⟩ | ⟨result, e, hc, -⟩ | ⟨result, e, hc, -⟩ |
      hclient
    · exact absurd ⟨result, v, hc, hv⟩ hnone
    · exact absurd ⟨result, e, hc⟩ hsome
    · exact absurd ⟨result, e, hc⟩ hsome
    · exact hclient

end

end ServiceCall

/-- **The outcome of a call is settled by what the reply carries.** Replies around one envelope have
one outcome: it does not matter what else stands in the bodies or whether a `null` is written. -/
theorem Sender.outcome_call {σ : Type} (url : String) (respond : RpcRequest → σ → NodeReply × σ)
    (recent : UInt64) (c : ServiceCall) (m : σ) :
    let reply := (respond (c.request recent) m).1
    let outcome := ((remoteService (answering url respond) recent.toNat).call c m).outcome
    c.Settles reply outcome ∧
      ∀ (respond' : RpcRequest → σ → NodeReply × σ) (result error : Json),
        reply.Encloses result error →
          (respond' (c.request recent) m).1.Encloses result error →
            ((remoteService (answering url respond') recent.toNat).call c m).outcome =
              outcome := by
  intro reply outcome
  have ho : outcome = ((reply.deliver url).read c.reads).mapError c.refuse :=
    c.outcome_call_remoteService (answering url respond) recent m
  refine ⟨⟨ServiceCall.eq_ok_iff ho, ServiceCall.eq_invalidKey_iff ho,
    ServiceCall.eq_refusal_iff ho, ServiceCall.eq_client_iff ho⟩, ?_⟩
  intro respond' result error h h'
  have ho' := c.outcome_call_remoteService (answering url respond') recent m
  rw [ho', ho, NodeReply.read_of_encloses c.reads url h, answering,
    NodeReply.read_of_encloses c.reads url h']

/-- An error about a key counts, whatever is said with it and whatever result stands beside it. -/
theorem Sender.outcome_call_invalidKey :
    let reply : NodeReply :=
      .response 200 "OK"
        "\x7b\"result\":1,\"error\":\x7b\"code\":-32010,\"message\":\"\"\x7d,\"id\":1\x7d".toUTF8
    ((remoteService (answering "http://node/" fun _ (m : Unit) => (reply, m))
      (50 : UInt64).toNat).call .createWallet ()).outcome = .error .invalidKey := by
  have hread : Json.read?
      "\x7b\"result\":1,\"error\":\x7b\"code\":-32010,\"message\":\"\"\x7d,\"id\":1\x7d" =
        some (.ofEntries
          [("result", .nat 1),
            ("error", .ofEntries
              [("code", .number (.negative (-32010))), ("message", .string "")]),
            ("id", .nat 1)]) := by rfl
  intro reply
  have hcarries : reply.Carries (.nat 1) (some ⟨invalidKeyCode, ""⟩) := by
    refine ⟨.ofEntries [("code", .number (.negative (-32010))), ("message", .string "")],
      ⟨by decide, ?_⟩, Json.isRecord_ofEntries.mpr ?_⟩
    · rw [Json.readBytes?_toUTF8, hread]
      rfl
    · have hcode : Json.number (.negative (-32010)) = .int (-32010) ∧
          (-32010 : Int64).toInt = invalidKeyCode := ⟨rfl, rfl⟩
      simpa [Json.lookup_cons_eq_ite] using ⟨_, hcode⟩
  have hcall := outcome_call "http://node/" (fun _ (m : Unit) => (reply, m)) 50 .createWallet ()
  exact hcall.1.eq_invalidKey_iff.mpr ⟨_, _, hcarries, rfl⟩

end WalletDashboard
