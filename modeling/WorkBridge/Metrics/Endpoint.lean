import WorkBridge.Url.IpAddress

/-!
Where metrics are served, if they are.
-/

namespace WorkBridge.Metrics

structure Endpoint where
  enabled : Bool := false
  address : IpAddress := .v4 0
  port : Nat := 9090
deriving DecidableEq, Inhabited

namespace Endpoint

/-- The address as a socket is bound to it. -/
def text (e : Endpoint) : String :=
  match e.address with
  | .v4 _ => e.address.text ++ ":" ++ toString e.port
  | .v6 _ => "[" ++ e.address.text ++ "]:" ++ toString e.port

/-- Whether the address is one of the machine's own, as far as every machine has it. -/
def isOwn (e : Endpoint) : Bool :=
  match e.address with
  | .v4 a => a = 0 || a >>> 24 = 127
  | .v6 groups => groups.dropLast.all (· = 0) && groups.getLast?.all (· ≤ 1)

/-- What is told where nothing can be served at the address. -/
def bindMessage : String :=
  "failed to create HTTP listener: Cannot assign requested address (os error 99)"

end Endpoint
end WorkBridge.Metrics
