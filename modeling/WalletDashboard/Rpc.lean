import WalletDashboard.Failure
import WalletDashboard.Json.Decode

/-!
# Remote procedure calls

The JSON-RPC 2.0 messages between the dashboard and a node.

* `RpcRequest.payload` is what is sent.
* `readResponse` takes the body of the answer apart. An error in it is a failure; a missing result
  counts as `null`, so that it can be decoded where nothing, or perhaps nothing, is expected.
-/

namespace WalletDashboard

/-- A call of a method of the node. -/
structure RpcRequest where
  method : String
  params : List Json := []
  deriving Repr, Inhabited

/-- The message that makes the call. -/
def RpcRequest.payload (r : RpcRequest) : Json :=
  .ofEntries
    [("jsonrpc", .string "2.0"), ("id", .nat 1), ("method", .string r.method),
      ("params", .array r.params)]

/-- The code of the error that a key or phrase belongs to no wallet. -/
def invalidKeyCode : Int := -32010

/-- An error that the node answers. -/
structure RpcError where
  code : Int
  message : String
  deriving DecidableEq, Repr, Inhabited

/-- The failure that the error stands for. -/
def RpcError.failure (e : RpcError) : Failure :=
  if e.code = invalidKeyCode then .invalidKey
  else .service (e.message ++ " (code " ++ Int.repr e.code ++ ")")

/-- What the body of an answer holds. -/
structure RpcResponse where
  result : Option Json
  error : Option RpcError
  deriving Repr, Inhabited

namespace Decoder

/-- An error that the node answers. -/
def rpcError : Decoder RpcError := fun j => do
  let r ← RecordReader.start "RpcError" [("code", signedWord.check), ("message", text.check)] j
  let code ← r.field 0 "code" signedWord
  let message ← r.field 1 "message" text
  r.finish
  return { code, message }

/-- The body of an answer. -/
def rpcResponse : Decoder RpcResponse := fun j => do
  let r ← RecordReader.start "RpcResponse"
    [("result", any.check), ("error", (optional rpcError).check)] j
  let result ← r.optionalField 0 "result" any
  let error ← r.optionalField 1 "error" rpcError
  r.finish
  return { result, error }

end Decoder

/-- The failure that an answer could not be decoded. -/
def DecodeError.failure (e : DecodeError) : Failure := .client ("JSON parse error: " ++ e.message)

/-- Decodes, and takes an error for a failure. -/
def Decoder.run {α : Type} (decode : Decoder α) (j : Json) : Except Failure α :=
  (decode j).mapError DecodeError.failure

/-- The result in the body of an answer. -/
def readResponse {α : Type} (decode : Decoder α) (body : Json) : Except Failure α := do
  let response ← Decoder.rpcResponse.run body
  match response.error with
  | some e => .error e.failure
  | none => decode.run (response.result.getD .null)

end WalletDashboard
