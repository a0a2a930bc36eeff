import WalletDashboard.Json.Read
import WalletDashboard.Rpc

/-!
# Delivering a call

What can become of a request that is sent to a node over HTTP, and what the caller learns of it
(`Delivery.read`).
-/

namespace WalletDashboard

/-- What becomes of a request. -/
inductive Delivery
  /-- No request could be made of the address, which is shown if it is one. -/
  | notSent (shown : Option String)
  /-- The connection to `url` could not be made, or ended before an answer came. -/
  | broken (url : String)
  /-- The node at `url` answered, with the body if that is a JSON text. -/
  | answered (url : String) (status : Nat) (reason : String) (body : Option Json)
  deriving Repr, Inhabited

namespace Delivery

/-- The failure of a request that was not answered as it should be. -/
def linkFailure (cause : String) : Failure := .client ("Reqwest error: " ++ cause)

/-- A status with its reason, and the address that answered it. -/
def describeStatus (status : Nat) (reason url : String) : String :=
  "(" ++ Nat.repr status ++ " " ++ reason ++ ") for url (" ++ url ++ ")"

/-- What the caller learns. -/
def read {α : Type} (decode : Decoder α) : Delivery → Except Failure α
  | notSent none => .error (linkFailure "builder error")
  | notSent (some url) => .error (linkFailure ("builder error for url (" ++ url ++ ")"))
  | broken url => .error (linkFailure ("error sending request for url (" ++ url ++ ")"))
  | answered url status reason body =>
    if 400 ≤ status ∧ status < 500 then
      .error (linkFailure ("HTTP status client error " ++ describeStatus status reason url))
    else if 500 ≤ status ∧ status < 600 then
      .error (linkFailure ("HTTP status server error " ++ describeStatus status reason url))
    else
      match body with
      | none => .error (linkFailure "error decoding response body")
      | some j => readResponse decode j

end Delivery

end WalletDashboard
