/-!
Why no connection comes about.
-/

namespace WorkBridge.Link

inductive DialError
  /-- The URL is of a kind that leads to no node. -/
  | badScheme (scheme : String)
  | noHost
  /-- Nobody listens there. -/
  | refused
  /-- The node has answered with a status instead of a connection. -/
  | rejected (status : Nat)
deriving DecidableEq, Inhabited

namespace DialError

def message : DialError → String
  | .badScheme s => "Invalid URL: `" ++ s ++ "` not supported, expects 'ws' or 'wss'"
  | .noHost => "Invalid URL: Invalid host"
  | .refused => "Error when opening the TCP socket: Connection refused (os error 111)"
  | .rejected status => "Connection rejected with status code: " ++ toString status

end DialError
end WorkBridge.Link
