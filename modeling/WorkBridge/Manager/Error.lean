import WorkBridge.Manager.Config
import WorkBridge.Node.Error

/-!
Why a manager cannot be made or started.
-/

namespace WorkBridge.Manager

inductive Error
  | invalidConfig (e : Config.Error)
  /-- An error about the node, reported as it is. -/
  | node (e : Node.Error)
  | alreadyStarted
deriving Inhabited

namespace Error

def message : Error → String
  | .invalidConfig e => "invalid configuration: " ++ e.message
  | .node e => e.message
  | .alreadyStarted => "node manager already started"

def causes : Error → List String
  | .invalidConfig e => [e.message]
  | .node e => e.causes
  | .alreadyStarted => []

end Error
end WorkBridge.Manager
