import WorkBridge.Dialogue.Run
import WorkBridge.Scenario.Script

/-!
A node at the other end of a wire, as the tasks of a scenario see it.

A request has run to its end as soon as it is made.  Its outcome is a reply that comes at
once, or after the time that a request may take where the node stays silent.
-/

namespace WorkBridge.Scenario

structure Wire where
  dialogue : Dialogue.World
  /-- How long a request may take. -/
  requestTimeout : Nat

/-- What has come over a wire besides replies; guards are named by their numbers. -/
structure News where
  entries : List LogEntry
  /-- For each notification the guard that it came for. -/
  notified : List Nat
  /-- The guards whose registrations are not active. -/
  ended : List Nat

namespace Wire

/-- The payload of an answer. -/
def payload : Node.Answer → Payload
  | .info i => .info i
  | .dagInfo d => .dag d
  | .hashRate r => .rate r.hashesPerSecond
  | .template t => .template t

def query (d : Dialogue.World) (client : Node.ClientId) (q : Node.Query) :
    Dialogue.World × Except Node.ClientError Payload :=
  let (d, r) := d.query client q
  (d, r.map payload)

/-- Makes a request. -/
def perform (d : Dialogue.World) :
    Node.Request → Dialogue.World × Except Node.ClientError Payload
  | .connect address =>
    let (d, r) := d.openClient address
    (d, r.map fun _ => .none)
  | .getInfo c => query d c .info
  | .getDagInfo c => query d c .dagInfo
  | .estimateHashRate c startHash window => query d c (.hashRate startHash window)
  | .getTemplate c payAddress extraData => query d c (.template payAddress extraData)
  | .register c =>
    let (d, r) := d.register c
    (d, r.map fun _ => .none)
  | .reconnect c =>
    let (d, t) := d.call c .reconnect
    (d, (Dialogue.World.unitResult (d.result? t)).map fun _ => .none)
  | .disconnect c => ((d.call c .disconnect).1, .ok .none)

/-- How long an outcome is waited for. -/
def delay (w : Wire) : Except Node.ClientError Payload → Nat
  | .error (.rpc .requestTimeout) => w.requestTimeout
  | _ => 0

/-- Makes a request: the reply that will come. -/
def request (w : Wire) (now : Nat) (r : Node.Request) : Wire × Pending :=
  let (dialogue, result) := perform w.dialogue r
  ({ w with dialogue }, .of now { result, delay := w.delay result })

/-- Gives up a registration. -/
def release (w : Wire) (guard : Nat) : Wire :=
  { w with dialogue := (w.dialogue.unsubscribe guard).1 }

/-- The guards that are known, with their numbers. -/
def guards (w : Wire) (known : Nat) : List (Nat × Dialogue.Guard) :=
  (List.range known).filterMap fun i => (w.dialogue.guards[i]?).map fun g => (i, g)

/-- Takes what has come for the first so many guards. -/
def hear (w : Wire) (known : Nat) : Wire × News :=
  let guards := w.guards known
  let heard := w.dialogue.guards.mapIdx fun i g => if i < known then { g with calls := 0 } else g
  ({ w with dialogue := { w.dialogue with logs := [], guards := heard } }, {
    entries := w.dialogue.logs.reverse
    notified := guards.flatMap fun (i, g) => List.replicate g.calls i
    ended := (guards.filter fun (_, g) => !w.dialogue.isActive g).map (·.1) })

end Wire
end WorkBridge.Scenario
