import WorkBridge.Json.Writer
import WorkBridge.Node.Address
import WorkBridge.Text.Quoted

/-!
What can go wrong with a node.

Every error has a `message` and `causes`, the texts of the errors behind it, nearest first.
A `CallError` is the node's own refusal of a request; an `RpcError` is met below, while
requests are carried; a `ClientError` is what a client reports and a `Node.Error` what is
reported about the node that the client speaks to.
-/

namespace WorkBridge.Node

/-- A node's refusal of a request. -/
structure CallError where
  code : Int
  text : String
  data : Option Json := none
deriving Inhabited

namespace CallError

/-- The name of an error code; codes of the node's own are named by their number. -/
def codeText (code : Int) : String :=
  if code = -32700 then "ParseError"
  else if code = -32007 then "OversizedRequest"
  else if code = -32600 then "InvalidRequest"
  else if code = -32601 then "MethodNotFound"
  else if code = -32602 then "InvalidParams"
  else if code = -32603 then "InternalError"
  else "ServerError(" ++ toString code ++ ")"

def dataText : Option Json → String
  | none => "None"
  | some v => "Some(RawValue(" ++ v.text ++ "))"

def message (e : CallError) : String :=
  "ErrorObject \x7b code: " ++ codeText e.code ++ ", message: " ++ Text.quoted e.text ++
    ", data: " ++ dataText e.data ++ " \x7d"

end CallError

inductive RpcError
  | call (e : CallError)
  /-- The connection failed below the requests. -/
  | transport (text : String)
  /-- The connection ended for the given reason; a new one is needed. -/
  | restartNeeded (reason : RpcError)
  /-- An answer is not of the shape that was asked for. -/
  | parse (text : String)
  | invalidSubscriptionId
  | requestTimeout
  | custom (text : String)
  | httpNotImplemented
  | serviceDisconnect
deriving Inhabited

namespace RpcError

def message : RpcError → String
  | .call e => e.message
  | .transport text => text
  | .restartNeeded reason => "The background task closed " ++ reason.message ++ "; restart required"
  | .parse text => "Parse error: " ++ text
  | .invalidSubscriptionId => "Invalid subscription ID"
  | .requestTimeout => "Request timeout"
  | .custom text => "Custom error: " ++ text
  | .httpNotImplemented => "Not implemented"
  | .serviceDisconnect => "RPC service disconnected"

def causes : RpcError → List String
  | .call e => [e.message]
  | .parse text => [text]
  | _ => []

end RpcError

inductive ClientError
  /-- An error of the connection or the node, reported as it is. -/
  | rpc (e : RpcError)
  | invalidAddress (e : Url.ParseError)
  /-- The client has no connection. -/
  | disconnected
deriving Inhabited

namespace ClientError

def message : ClientError → String
  | .rpc e => e.message
  | .invalidAddress e => "invalid node address: " ++ e.message
  | .disconnected => "client is disconnected"

def causes : ClientError → List String
  | .rpc e => e.causes
  | .invalidAddress e => [e.message]
  | .disconnected => []

/-- Whether the connection is to blame, and not the node that refused a request. -/
def isConnectionError : ClientError → Bool
  | .rpc (.call _) => false
  | _ => true

end ClientError

inductive Error
  /-- The node cannot be reached. -/
  | connection (address : Address) (source : ClientError)
  /-- The node refused to tell its state. -/
  | rpc (address : Address) (source : ClientError)
  /-- Notifications of new block templates cannot be had. -/
  | registration (source : ClientError)
  | blockTemplate (source : ClientError)
  /-- There is no client. -/
  | notConnected
  | cancelled
deriving Inhabited

namespace Error

def message : Error → String
  | .connection a e => "failed to connect to node @ " ++ a.text ++ ": " ++ e.message
  | .rpc a e => "error fetching server info from node @ " ++ a.text ++ ": " ++ e.message
  | .registration e => "failed to register for block template notifications: " ++ e.message
  | .blockTemplate e => "failed fetching new block template from node: " ++ e.message
  | .notConnected => "node client is not connected"
  | .cancelled => "operation cancelled"

def source? : Error → Option ClientError
  | .connection _ e => some e
  | .rpc _ e => some e
  | .registration e => some e
  | .blockTemplate e => some e
  | .notConnected => none
  | .cancelled => none

def causes (e : Error) : List String :=
  match e.source? with
  | some s => s.message :: s.causes
  | none => []

end Error
end WorkBridge.Node
