import WalletDashboard.Rpc.Delivery
import WalletDashboard.Rpc.Endpoint

/-!
# A node with prepared answers

A node that answers every method from a queue: each request takes the first answer, and the last
one stays. The node keeps the requests that reach it. The link to it may be down, or it may be
called at an endpoint to which no request can be made; then nothing reaches it.
-/

namespace WalletDashboard

/-- A prepared answer. -/
inductive NodeAnswer
  /-- The connection is closed without an answer. -/
  | hangUp
  /-- A response with a JSON body. -/
  | value (status : Nat) (body : Json)
  /-- A response with any body. -/
  | text (status : Nat) (body : String)
  deriving Repr, Inhabited

/-- A node, and the way to it. -/
structure PreparedNode where
  /-- Where the node is called. -/
  endpoint : Endpoint
  /-- Whether a connection can be made. -/
  isReachable : Bool := true
  queues : List (String × List NodeAnswer) := []
  /-- The requests that reached the node, oldest first. -/
  received : List RpcRequest := []
  deriving Repr, Inhabited

namespace PreparedNode

/-- The reason that the node gives with every status. -/
def reason : String := "X"

/-- The message with a result. -/
def resultBody (result : Json) : Json :=
  .ofEntries [("jsonrpc", .string "2.0"), ("id", .nat 1), ("result", result)]

/-- The message with an error. -/
def errorBody (error : Json) : Json :=
  .ofEntries [("jsonrpc", .string "2.0"), ("id", .nat 1), ("error", error)]

/-- The answer to a method without a queue. -/
def unknownMethod : NodeAnswer :=
  .value 200 (errorBody (.ofEntries
    [("code", .number (.negative (-32601))), ("message", .string "Method not found")]))

/-- The next answer of a queue, and the queue after it. -/
def nextAnswer : List NodeAnswer → NodeAnswer × List NodeAnswer
  | [] => (unknownMethod, [])
  | [last] => (last, [last])
  | first :: rest => (first, rest)

/-- Replaces the queue of a method. -/
def setQueue (method : String) (answers : List NodeAnswer) (n : PreparedNode) : PreparedNode :=
  { n with queues := Json.insertEntry method answers n.queues }

/-- How an answer comes back from `url`. -/
def deliver (url : String) : NodeAnswer → Delivery
  | .hangUp => .broken url
  | .value status body => .answered url status reason (some body)
  | .text status body => .answered url status reason (Json.read? body)

/-- Sends a request to the node. -/
def send (r : RpcRequest) (n : PreparedNode) : Delivery × PreparedNode :=
  match n.endpoint with
  | .malformed => (.notSent none, n)
  | .foreign url => (.notSent (some url), n)
  | .web url =>
    if n.isReachable then
      let (answer, queue) := nextAnswer ((n.queues.lookup r.method).getD [])
      (deliver url answer, { n.setQueue r.method queue with received := n.received ++ [r] })
    else (.broken url, n)

end PreparedNode

end WalletDashboard
