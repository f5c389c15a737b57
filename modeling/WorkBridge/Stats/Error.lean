import WorkBridge.Node.Error

/-!
Why a sample of the network could not be taken.
-/

namespace WorkBridge.Stats

open Node (ClientError)

inductive Error
  | notConnected
  | dagInfo (source : ClientError)
  /-- The node knows no block to estimate from. -/
  | noTipHashes
  | hashRate (source : ClientError)
deriving Inhabited

namespace Error

def message : Error → String
  | .notConnected => "not connected to node"
  | .dagInfo e => "failed to get block dag info: " ++ e.message
  | .noTipHashes => "node reported no tip hashes"
  | .hashRate e => "failed to estimate network hashes per second: " ++ e.message

def source? : Error → Option ClientError
  | .dagInfo e => some e
  | .hashRate e => some e
  | .notConnected => none
  | .noTipHashes => none

def causes (e : Error) : List String :=
  match e.source? with
  | some s => s.message :: s.causes
  | none => []

end Error
end WorkBridge.Stats
