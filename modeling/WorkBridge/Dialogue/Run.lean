import WorkBridge.Dialogue.World
import WorkBridge.Sync.Monitor

/-!
Running a dialogue: the bridge's clients are called and the node is told what to do, step by
step, and each step is reported with all that came of it.
-/

namespace WorkBridge.Dialogue

open Node (ClientId)

inductive Step
  | script (method : String) (replies : List Reply)
  /-- Which of the next connections the node refuses, and how. -/
  | refusals (statuses : List (Option Nat))
  | listen (listening : Bool)
  | hangUp
  /-- The node sends a text on the newest connection. -/
  | send (text : String)
  /-- The node sends a notification so many times, for one subscription or for all. -/
  | notify (n : Nat) (key : Option Json) (name : String) (v : Json)
  | connect (address : Node.Address)
  | query (q : Node.Query)
  | register
  | unsubscribe (guard : Nat)
  | waitForSync
  | disconnect
  | reconnect
  | close
  | countRegistrations

inductive StepResult
  | nothing
  | noConnection
  | noSubscription
  | notConnected
  | connected (r : Except Node.Error Unit)
  | answered (r : Except Node.ClientError Node.Answer)
  | registered (r : Except Node.ClientError Nat)
  | synced (r : Except Node.Error Unit)
  | reconnected (r : Except Node.Error Connection.Outcome)
  | closed
  | count (n : Nat)
deriving Inhabited

structure State where
  /-- Whether the supervisor takes itself for connected. -/
  connected : Option Bool
  /-- For each registration that is still held whether it is active. -/
  active : List (Option Bool)
  calls : List Nat

structure Report where
  result : StepResult
  received : List Received
  logs : List LogEntry
  state : State

namespace World

/-! ### The node -/

/-- The connection that was made last. -/
def newest? (w : World) : Option Link.ConnectionId :=
  if w.connections.isEmpty then none else some (w.connections.length - 1)

def hangUp (w : World) : World :=
  match w.newest? with
  | some c =>
    let (w, todo) := w.lose c
    w.settle todo
  | none => w

/-- Sends texts on the newest connection. -/
def send (w : World) (texts : List String) : World :=
  match w.newest? with
  | some c => w.settle (texts.map (.text c))
  | none => w

/-- The subscriptions granted on the newest connection. -/
def newestGrants (w : World) : List Json :=
  ((w.newest?.bind (w.connections[·]?)).map (·.grants)).getD []

def notify (w : World) (n : Nat) (key : Option Json) (name : String) (v : Json) : World :=
  let keys := match key with
    | some key => [key]
    | none => w.newestGrants
  w.send ((List.replicate n (keys.map (Server.noticeText · name v))).flatten)

/-! ### Making clients -/

/-- Makes a client and its first connection. -/
def openClient (w : World) (address : Node.Address) : World × Except Node.ClientError ClientId :=
  match address.url with
  | .error e => (w, .error (.invalidAddress e))
  | .ok url =>
    let client := w.clients.length
    let w := w.settle ((Link.Client.opening address url).map (.output client))
    match w.dial url client with
    | (w, .error e) => (w, .error e)
    | (w, .ok c) => ({ w with clients := w.clients ++ [.new address url c] }, .ok client)

/-- Throws the client in a supervisor's slot away. -/
def discard (w : World) (s : Connection.Supervisor) : World :=
  match s.slot with
  | some client => w.settle [.event client .discard]
  | none => w

/-! ### The supervisor -/

/-- Makes the effects of a supervisor happen, but for requests: the request that is left. -/
def applyEffects (w : World) :
    List Connection.Supervisor.Effect → World × Option Node.Request × Option Connection.Result
  | [] => (w, none, none)
  | .request r :: rest =>
    let (w, _, done) := w.applyEffects rest
    (w, some r, done)
  | .log e :: rest => (w.log e).applyEffects rest
  | .update u :: rest => (w.update u).applyEffects rest
  | .done _ r :: rest =>
    let (w, request, _) := w.applyEffects rest
    (w, request, some r)

def unitResult (r : Option Link.Result) : Except Node.ClientError Unit :=
  match r with
  | some (.refused e) => .error e
  | _ => .ok ()

/-- Does what the supervisor asks for: the event that tells it of the end. -/
def serve (w : World) (ticket : Nat) :
    Node.Request → World × Option Connection.Supervisor.Event
  | .connect address =>
    let (w, r) := w.openClient address
    (w, some (.connected ticket r))
  | .reconnect client =>
    let (w, t) := w.call client .reconnect
    (w, some (.reconnected ticket (unitResult (w.result? t))))
  | .disconnect client =>
    let (w, _) := w.call client .disconnect
    (w, some (.disconnected ticket))
  | _ => (w, none)

/-- Lets an event happen to the supervisor, and all that follows from it. -/
def supervise (ticket : Nat) : Nat → World → Connection.Supervisor →
    Connection.Supervisor.Event → World × Option Connection.Result
  | 0, w, _, _ => (w, none)
  | fuel + 1, w, s, e =>
    let (s, effects) := s.step e
    let (w, request, done) := { w with supervisor := some s }.applyEffects effects
    match done, request with
    | some r, _ => (w, some r)
    | none, none => (w, none)
    | none, some r =>
      match w.serve ticket r with
      | (w, some e) => supervise ticket fuel w s e
      | (w, none) => (w, none)

/-- A call of the supervisor from its beginning to its end. -/
def superviseCall (w : World) (s : Connection.Supervisor) (kind : Connection.Kind) :
    World × Option Connection.Result :=
  let ticket := w.tickets
  let w := { w with tickets := ticket + 1 }
  let (s, _) := s.step (.ask ticket kind)
  supervise ticket 3 w s (.proceed ticket)

/-! ### Calls -/

def connect (w : World) (address : Node.Address) : World × StepResult :=
  match w.openClient address with
  | (w, .error e) => (w, .connected (.error (.connection address e)))
  | (w, .ok client) =>
    let (s, effects) := Connection.Supervisor.new address client
    let old := w.supervisor
    let (w, _, _) := { w with supervisor := some s }.applyEffects effects
    let w := match old with
      | some s => w.discard s
      | none => w
    (w, .connected (.ok ()))

def query (w : World) (client : ClientId) (q : Node.Query) :
    World × Except Node.ClientError Node.Answer :=
  let (w, t) := w.call client (.query q)
  match w.result? t, w.answers.lookup t with
  | some .answered, some a => (w, .ok a)
  | some (.refused e), _ => (w, .error e)
  | _, _ => (w, .error ended)

/-- Registers for notifications: the number of the guard. -/
def register (w : World) (client : ClientId) : World × Except Node.ClientError Nat :=
  let (w, t) := w.call client .register
  match w.result? t with
  | some (.registered r) =>
    ({ w with guards := w.guards ++ [{ client, registration := r }] }, .ok w.guards.length)
  | some (.refused e) => (w, .error e)
  | _ => (w, .error ended)

def unsubscribe (w : World) (i : Nat) : World × StepResult :=
  match w.guards[i]? with
  | some g =>
    if g.isHeld then
      ({ w with guards := w.guards.set i { g with isHeld := false } }.settle
        [.event g.client (.release g.registration)], .nothing)
    else (w, .noSubscription)
  | none => (w, .noSubscription)

/-- Goes on waiting for the node to be synced, over at most `fuel` turns; pauses pass at
once. -/
def waitForSync (slot : Option ClientId) : Nat → World → Nat → Sync.Wait →
    Option (Except Node.ClientError Node.Info) → World × StepResult
  | 0, w, _, _, _ => (w, .nothing)
  | fuel + 1, w, now, wait, answer =>
    let (wait, out) := wait.step { now, cancelled := false, slot, answer }
    let w := out.foldl (fun w o => match o with
      | .log e => w.log e
      | .ask _ => w) w
    match wait.point with
    | .done r => (w, .synced r)
    | .asking client =>
      let (w, r) := w.query client .info
      waitForSync slot fuel w now wait (some (r.map fun a => match a with
        | .info i => i
        | _ => {}))
    | .resting wakeAt => waitForSync slot fuel w wakeAt wait none
    | .ready => waitForSync slot fuel w now wait none

/-- The number of registrations of a client that have not been ended. -/
def countRegistrations (w : World) (client : ClientId) : Nat :=
  match w.clients[client]? with
  | some c => (c.listed.filter c.isActive).length
  | none => 0

/-- Does something with the supervisor. -/
def withSupervisor (w : World) (f : Connection.Supervisor → World × StepResult) :
    World × StepResult :=
  match w.supervisor with
  | some s => f s
  | none => (w, .noConnection)

/-- Does something with the client in the supervisor's slot. -/
def withClient (w : World) (f : ClientId → World × StepResult) : World × StepResult :=
  w.withSupervisor fun s =>
    match s.slot with
    | some client => f client
    | none => (w, .notConnected)

def act (w : World) : Step → World × StepResult
  | .script method replies =>
    ({ w with server := w.server.setScript method replies }, .nothing)
  | .refusals statuses =>
    ({ w with server := { w.server with refusals := statuses } }, .nothing)
  | .listen listening => ({ w with server := { w.server with listening } }, .nothing)
  | .hangUp => (w.hangUp, .nothing)
  | .send text => (w.send [text], .nothing)
  | .notify n key name v => (w.notify n key name v, .nothing)
  | .connect address => w.connect address
  | .query q => w.withClient fun client =>
    let (w, r) := w.query client q
    (w, .answered r)
  | .register => w.withClient fun client =>
    let (w, r) := w.register client
    (w, .registered r)
  | .unsubscribe i => w.unsubscribe i
  | .waitForSync => w.withSupervisor fun s =>
    waitForSync s.slot enough w 0
      { monitor := ⟨s.address, .ofMillis 10⟩, verbose := true } none
  | .disconnect => w.withClient fun client => ((w.call client .disconnect).1, .closed)
  | .reconnect => w.withSupervisor fun s =>
    match w.superviseCall s .reconnect with
    | (w, some (.reconnected r)) => (w, .reconnected r)
    | (w, _) => (w, .nothing)
  | .close => w.withSupervisor fun s => ((w.superviseCall s .close).1, .closed)
  | .countRegistrations => w.withClient fun client => (w, .count (w.countRegistrations client))

/-! ### Reports -/

def isActive (w : World) (g : Guard) : Bool :=
  w.clients[g.client]?.any (·.isActive g.registration)

def state (w : World) : State :=
  { connected := w.supervisor.map (·.connected)
    active := w.guards.map fun g => if g.isHeld then some (w.isActive g) else none
    calls := w.guards.map (·.calls) }

def runStep (w : World) (s : Step) : World × Report :=
  let (w, result) := { w with received := [], logs := [] }.act s
  (w, { result, received := w.received.reverse, logs := w.logs.reverse, state := w.state })

def runSteps (w : World) : List Step → World × List Report
  | [] => (w, [])
  | s :: rest =>
    let (w, r) := w.runStep s
    let (w, rs) := w.runSteps rest
    (w, r :: rs)

end World

/-- Runs a dialogue from the beginning: a report of each step, and the metrics at the end. -/
def run (port : Nat) (steps : List Step) : List Report × Metrics.Registry :=
  let (w, reports) := ({ server := { port } } : World).runSteps steps
  (reports, w.metrics)

end WorkBridge.Dialogue
