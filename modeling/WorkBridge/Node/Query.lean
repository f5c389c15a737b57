import WorkBridge.Metrics.Catalog
import WorkBridge.Node.Wire

/-!
Questions to a node that change nothing, and their answers.
-/

namespace WorkBridge.Node

inductive Query
  | info
  | dagInfo
  | hashRate (startHash : String) (window : Nat)
  | template (payAddress extraData : String)
deriving DecidableEq

inductive Answer
  | info (i : Info)
  | dagInfo (d : DagInfo)
  | hashRate (r : HashRate)
  | template (t : Template)
deriving Inhabited

namespace Query

/-- What the question is called on the wire. -/
def method : Query → String
  | .info => "getInfo"
  | .dagInfo => "getBlockDagInfo"
  | .hashRate _ _ => "estimateNetworkHashesPerSecond"
  | .template _ _ => "getBlockTemplate"

def params : Query → List Json
  | .info => []
  | .dagInfo => []
  | .hashRate startHash window => [.string startHash, .int window]
  | .template payAddress extraData => [.string payAddress, .string extraData]

/-- What the question is counted under. -/
def metric : Query → Metrics.Method
  | .info => .getInfo
  | .dagInfo => .getBlockDagInfo
  | .hashRate _ _ => .estimateNetworkHashesPerSecond
  | .template _ _ => .getBlockTemplate

/-- Reads an answer. -/
def decode : Query → Json.Decoder Answer
  | .info, depth, d => .info <$> Info.record.decode depth d
  | .dagInfo, depth, d => .dagInfo <$> DagInfo.record.decode depth d
  | .hashRate _ _, depth, d => .hashRate <$> HashRate.record.decode depth d
  | .template _ _, depth, d => .template <$> Template.record.decode depth d

def shape : Query → Json.Shape
  | .info => Info.shape
  | .dagInfo => DagInfo.shape
  | .hashRate _ _ => HashRate.shape
  | .template _ _ => Template.shape

/-- What is said of an answer that cannot be read. -/
def complaint (q : Query) (d : Json.Draft) : String :=
  match Json.ofDraft Json.maxDepth d with
  | .ok v => ((q.shape.complaint? v).map (·.message)).getD ""
  | .error _ => ""

end Query
end WorkBridge.Node
