import WorkBridge.Feed.Trigger
import WorkBridge.Manager.Session
import WorkBridge.Metrics.Registry

/-!
The metrics of the bridge.

An `Update` is something that happens and is counted or shown; `Update.apply` says which
metrics it touches.  `Group` collects the metrics that are described, and set to zero, at one
time.
-/

namespace WorkBridge.Metrics

/-- The requests that are accounted for one by one. -/
inductive Method
  | getInfo
  | getBlockDagInfo
  | estimateNetworkHashesPerSecond
  | getBlockTemplate
  | subscribeNewBlockTemplate
deriving DecidableEq, Inhabited

namespace Method

def label : Method → String
  | .getInfo => "get_info"
  | .getBlockDagInfo => "get_block_dag_info"
  | .estimateNetworkHashesPerSecond => "estimate_network_hashes_per_second"
  | .getBlockTemplate => "get_block_template"
  | .subscribeNewBlockTemplate => "subscribe_new_block_template"

def all : List Method := [
  .getInfo, .getBlockDagInfo, .estimateNetworkHashesPerSecond, .getBlockTemplate,
  .subscribeNewBlockTemplate]

end Method

def outcomeText (success : Bool) : String := if success then "success" else "failure"

def connectedKey : Key := ⟨"bridge_node_connected", []⟩

def reconnectsKey (success : Bool) : Key :=
  ⟨"bridge_node_reconnects_total", [("result", outcomeText success)]⟩

def workReadyKey (t : Trigger) : Key := ⟨"bridge_work_ready_total", [("trigger", t.text)]⟩

def pushEnabledKey : Key := ⟨"bridge_block_template_push_enabled", []⟩

def hashrateKey : Key := ⟨"bridge_network_hashrate", []⟩

def blockCountKey : Key := ⟨"bridge_network_block_count", []⟩

def difficultyKey : Key := ⟨"bridge_network_difficulty", []⟩

def infoKey : Key := ⟨"bridge_info", [
  ("version", version), ("target_os", "linux"), ("target_arch", "x86_64"),
  ("build_profile", "debug")]⟩

def rpcLabels (m : Method) (node : String) : List (String × String) :=
  [("method", m.label), ("node", node)]

def requestsKey (success : Bool) (m : Method) (node : String) : Key :=
  ⟨if success then "bridge_node_rpc_requests_success_total"
    else "bridge_node_rpc_requests_error_total", rpcLabels m node⟩

def durationKey (m : Method) (node : String) : Key :=
  ⟨"bridge_node_rpc_request_duration_seconds", rpcLabels m node⟩

/-- One thing that metrics tell about. -/
inductive Update
  | connected (b : Bool)
  | reconnect (success : Bool)
  | workReady (t : Trigger)
  | pushEnabled (b : Bool)
  | network (hashesPerSecond : Binary64) (blockCount : Nat) (difficulty : Binary64)
  | version
  /-- A request to a node that came to its end. -/
  | request (m : Method) (node : String) (success : Bool)
  /-- The metrics of the work that is announced, from zero. -/
  | serviceZero
  /-- The metrics of a client of `node`, from zero. -/
  | clientZero (node : String)
deriving DecidableEq

def flag (b : Bool) : Binary64 := if b then Binary64.one else Binary64.zero

namespace Update

/-- The metrics of one kind of request, touched without a request. -/
def zeroMethod (node : String) (reg : Registry) (m : Method) : Registry :=
  ((reg.count (requestsKey true m node) 0).count (requestsKey false m node) 0).sample
    (durationKey m node)

def apply (reg : Registry) : Update → Registry
  | .connected b => reg.set connectedKey (flag b)
  | .reconnect success => reg.count (reconnectsKey success) 1
  | .workReady t => reg.count (workReadyKey t) 1
  | .pushEnabled b => reg.set pushEnabledKey (flag b)
  | .network rate blocks difficulty =>
    ((reg.set hashrateKey rate).set blockCountKey (Binary64.ofNat blocks)).set difficultyKey
      difficulty
  | .version => reg.set infoKey Binary64.one
  | .request m node success =>
    (reg.count (requestsKey success m node) 1).sample (durationKey m node)
  | .serviceZero =>
    ((reg.count (workReadyKey .push) 0).count (workReadyKey .timer) 0).set pushEnabledKey
      Binary64.zero
  | .clientZero node =>
    ((Method.all.foldl (zeroMethod node) reg).count (reconnectsKey true) 0).count
      (reconnectsKey false) 0

end Update

/-! ### Descriptions -/

inductive Kind
  | counter
  | gauge
  | histogram
deriving DecidableEq, Inhabited

def Kind.text : Kind → String
  | .counter => "counter"
  | .gauge => "gauge"
  | .histogram => "histogram"

structure Description where
  name : String
  kind : Kind
  unit : Option String
  text : String
deriving DecidableEq, Inhabited

/-- Descriptions of the metrics of the work that is announced. -/
def serviceDescriptions : List Description := [
  ⟨"bridge_work_ready_total", .counter, some "count",
    "Total number of times new work was announced to miners, by trigger"⟩,
  ⟨"bridge_block_template_push_enabled", .gauge, none,
    "Whether the node pushes new block template notifications to the bridge"⟩]

/-- Descriptions of the metrics of the network. -/
def networkDescriptions : List Description := [
  ⟨"bridge_network_hashrate", .gauge, some "count",
    "Estimated network hashes per second reported by the node"⟩,
  ⟨"bridge_network_block_count", .gauge, some "count", "Block count of the node's DAG"⟩,
  ⟨"bridge_network_difficulty", .gauge, some "count",
    "Current network difficulty reported by the node"⟩]

/-- Descriptions of the metrics of a client. -/
def clientDescriptions : List Description := [
  ⟨"bridge_node_rpc_requests_success_total", .counter, some "count",
    "Total number of successful RPC requests sent to the node"⟩,
  ⟨"bridge_node_rpc_requests_error_total", .counter, some "count",
    "Total number of failed RPC requests sent to the node"⟩,
  ⟨"bridge_node_rpc_request_duration_seconds", .histogram, some "seconds",
    "Duration of RPC requests sent to the node"⟩,
  ⟨"bridge_node_connected", .gauge, none,
    "Whether the bridge currently holds a connection to the node"⟩,
  ⟨"bridge_node_reconnects_total", .counter, some "count",
    "Total number of reconnect attempts, by result"⟩]

/-- What can be done to the metrics at the start of a program. -/
inductive Setup
  | service
  | recorder
  | version
  /-- The setup of a program that runs without metrics. -/
  | disabled
  | push (enabled : Bool)
  | work (t : Trigger)
deriving DecidableEq

namespace Setup

def describes : Setup → List Description
  | .service => serviceDescriptions
  | .recorder => networkDescriptions
  | _ => []

def updates : Setup → List Update
  | .service => [.serviceZero]
  | .recorder => []
  | .version => [.version]
  | .disabled => []
  | .push b => [.pushEnabled b]
  | .work t => [.workReady t]

/-- All descriptions and the metrics after some setups, one after the other. -/
def perform (steps : List Setup) : List Description × Registry :=
  (steps.flatMap describes, (steps.flatMap updates).foldl Update.apply [])

end Setup
end WorkBridge.Metrics
