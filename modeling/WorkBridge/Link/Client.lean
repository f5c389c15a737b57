import WorkBridge.Link.Forwarder
import WorkBridge.Log
import WorkBridge.Metrics.Catalog
import WorkBridge.Node.Query
import WorkBridge.Rpc.Message

/-!
A client of a node, over one connection after another.

The slot holds the connection that new calls use.  A registration for notifications lives
longer than its connection: reconnecting asks for every live one again, in their order, and
ends those that the node refuses.  Calls stop where they wait for the node or for the lock of
the list of registrations; between two stops nothing else happens.

A connection that neither the slot nor a call holds is closed.
-/

namespace WorkBridge.Link

abbrev ConnectionId := Nat

abbrev RegistrationId := Nat

/-- What is asked of a client. -/
inductive Task
  | query (q : Node.Query)
  | register
  | reconnect
  | disconnect

/-- Where a call waits. -/
inductive Stage
  | asking (q : Node.Query) (connection : ConnectionId)
  | subscribing (connection : ConnectionId)
  /-- Waits for the lock to be put on the list. -/
  | enlisting (connection : ConnectionId) (key : Rpc.SubscriptionKey)
  | dialing
  /-- Waits for the lock to renew what is on the list. -/
  | queued (connection : ConnectionId)
  /-- Renews one registration, with others to follow; holds the lock. -/
  | renewing (connection : ConnectionId) (current : RegistrationId) (rest : List RegistrationId)
  /-- Waits for the lock to end everything. -/
  | draining
deriving DecidableEq, Inhabited

/-- The connection that a call holds. -/
def Stage.connection? : Stage → Option ConnectionId
  | .asking _ c => some c
  | .subscribing c => some c
  | .enlisting c _ => some c
  | .dialing => none
  | .queued c => some c
  | .renewing c _ _ => some c
  | .draining => none

structure Call where
  ticket : Nat
  stage : Stage
deriving DecidableEq, Inhabited

/-- A subscription on a connection.  It is nobody's until its registration is on the list. -/
structure Stream where
  connection : ConnectionId
  key : Rpc.SubscriptionKey
  registration : Option RegistrationId
  forwarder : Forwarder := {}
deriving DecidableEq, Inhabited

structure Client where
  address : Node.Address
  /-- Where the client connects to. -/
  url : Url
  slot : Option ConnectionId
  /-- The connections that are not closed. -/
  connections : List ConnectionId
  /-- For each registration whether it has not been ended. -/
  active : List Bool := []
  /-- The registrations that are renewed, in order. -/
  listed : List RegistrationId := []
  streams : List Stream := []
  /-- The calls that hold the lock or wait for it, the holder first. -/
  lock : List Nat := []
  calls : List Call := []
deriving Inhabited

/-- How a call ended.  What a query was answered with is known to who handed the answer in. -/
inductive Result
  | answered
  | refused (e : Node.ClientError)
  | registered (r : RegistrationId)
  | reconnected
  | disconnected

namespace Client

inductive Event
  | begin (ticket : Nat) (task : Task)
  /-- The answer to a query has been read, or failed. -/
  | answered (ticket : Nat) (r : Except Node.ClientError Unit)
  | subscribed (ticket : Nat) (r : Except Node.ClientError Rpc.SubscriptionKey)
  | dialed (ticket : Nat) (r : Except Node.ClientError ConnectionId)
  /-- The call goes on if it has the lock. -/
  | proceed (ticket : Nat)
  /-- The caller does not wait any more. -/
  | drop (ticket : Nat)
  /-- A registration is given up by its owner. -/
  | release (r : RegistrationId)
  | item (connection : ConnectionId) (key : Rpc.SubscriptionKey) (item : Item)
  /-- The node has ended a subscription. -/
  | ended (connection : ConnectionId) (key : Rpc.SubscriptionKey)
  /-- A connection has ended on the other side. -/
  | lost (connection : ConnectionId)
  /-- The client itself is thrown away. -/
  | discard

inductive Output
  | ask (ticket : Nat) (connection : ConnectionId) (q : Node.Query)
  | subscribe (ticket : Nat) (connection : ConnectionId)
  | unsubscribe (connection : ConnectionId) (key : Rpc.SubscriptionKey)
  | dial (ticket : Nat)
  | close (connection : ConnectionId)
  /-- The handler of a registration is called. -/
  | handle (r : RegistrationId)
  | log (e : LogEntry)
  | update (u : Metrics.Update)
  | done (ticket : Nat) (r : Result)

/-! ### Log entries -/

def entry (level : Level) (message : String) (fields : List (String × String)) : LogEntry :=
  { level, target := "bridge::node", message, fields }

def dialEntry (url : Url) : LogEntry :=
  entry .info "Creating a new web socket client" [("ws_url", url.text)]

def nodeEntry (c : Client) (level : Level) (message : String)
    (fields : List (String × String)) : LogEntry :=
  entry level message (("node", c.address.text) :: fields)

def renewalEntry (c : Client) (e : Node.ClientError) : LogEntry :=
  c.nodeEntry .error "Failed to renew block template subscription after reconnect"
    [("err", e.message)]

def streamEntry (c : Client) : Forwarder.Output → List LogEntry
  | .undecodable => [c.nodeEntry .warn "Undecodable block template notification" []]
  | .closed => [c.nodeEntry .warn "Block template subscription closed by node" []]
  | .handle => []
  | .unsubscribe => []

/-! ### Making a client -/

/-- What is done before a first connection is made. -/
def opening (address : Node.Address) (url : Url) : List Output :=
  [.update (.clientZero address.text), .log (dialEntry url)]

/-- A client around its first connection. -/
def new (address : Node.Address) (url : Url) (connection : ConnectionId) : Client :=
  { address, url, slot := some connection, connections := [connection] }

/-! ### Registrations and their streams -/

def isActive (c : Client) (r : RegistrationId) : Bool := c.active[r]?.getD false

/-- Ends a registration. -/
def cancel (c : Client) (r : RegistrationId) : Client :=
  { c with
    active := c.active.set r false
    streams := c.streams.map fun s =>
      if s.registration = some r then
        { s with forwarder := { s.forwarder with cancelled := true } }
      else s }

def onStream (c : Client) (connection : ConnectionId) (key : Rpc.SubscriptionKey)
    (f : Forwarder → Forwarder) : Client :=
  { c with streams := c.streams.map fun s =>
      if s.connection = connection ∧ s.key = key then { s with forwarder := f s.forwarder }
      else s }

/-- Ends all streams of a connection. -/
def endStreams (c : Client) (connection : ConnectionId) : Client :=
  { c with streams := c.streams.map fun s =>
      if s.connection = connection then
        { s with forwarder := { s.forwarder with ended := true } }
      else s }

/-- What the outputs of a stream's forwarder come to. -/
def streamOutput (c : Client) (s : Stream) (r : RegistrationId) :
    Forwarder.Output → List Output
  | .handle => [.handle r]
  | .unsubscribe =>
    if c.connections.contains s.connection && !s.forwarder.ended then
      [.unsubscribe s.connection s.key]
    else []
  | o => (c.streamEntry o).map .log

/-- Lets the forwarder of a stream run as far as it can. -/
def runStream (c : Client) (s : Stream) : Stream × List Output :=
  match s.registration with
  | none => (s, [])
  | some r =>
    let (f, out) := s.forwarder.settle
    ({ s with forwarder := f }, out.flatMap (c.streamOutput s r))

/-- Lets all forwarders run. -/
def runStreams (c : Client) : Client × List Output :=
  let results := c.streams.map c.runStream
  ({ c with streams := (results.map (·.1)).filter (·.forwarder.running) },
    results.flatMap (·.2))

/-! ### Connections -/

/-- Whether a connection is in the slot or held by a call. -/
def isHeld (c : Client) (connection : ConnectionId) : Bool :=
  c.slot = some connection || c.calls.any (·.stage.connection? = some connection)

/-- Closes the connections that nothing holds. -/
def closeUnheld (c : Client) : Client × List Output :=
  let unheld := c.connections.filter (!c.isHeld ·)
  (unheld.foldl endStreams { c with connections := c.connections.filter c.isHeld },
    unheld.map .close)

/-! ### Calls -/

def stage? (c : Client) (ticket : Nat) : Option Stage :=
  (c.calls.find? (·.ticket = ticket)).map (·.stage)

/-- Lets a call wait somewhere. -/
def wait (c : Client) (ticket : Nat) (stage : Stage) : Client :=
  { c with calls := ⟨ticket, stage⟩ :: c.calls.filter (·.ticket ≠ ticket) }

/-- Ends a call, which gives the lock back if it has it. -/
def finish (c : Client) (ticket : Nat) : Client :=
  { c with
    calls := c.calls.filter (·.ticket ≠ ticket)
    lock := c.lock.filter (· ≠ ticket) }

def holdsLock (c : Client) (ticket : Nat) : Bool := c.lock.head? = some ticket

def countRequest (c : Client) (m : Metrics.Method) (success : Bool) : Output :=
  .update (.request m c.address.text success)

/-- Renews the first of some registrations, or ends the renewal. -/
def renew (c : Client) (ticket : Nat) (connection : ConnectionId) :
    List RegistrationId → Client × List Output
  | r :: rest => (c.wait ticket (.renewing connection r rest), [.subscribe ticket connection])
  | [] =>
    ({ c with listed := c.listed.filter c.isActive }.finish ticket, [.done ticket .reconnected])

/-- Begins to renew what is on the list. -/
def startRenewal (c : Client) (ticket : Nat) (connection : ConnectionId) :
    Client × List Output :=
  let live := c.listed.filter c.isActive
  { c with listed := live }.renew ticket connection live

/-- Puts a new registration on the list and gives it its stream. -/
def enlist (c : Client) (ticket : Nat) (connection : ConnectionId)
    (key : Rpc.SubscriptionKey) : Client × List Output :=
  let r := c.active.length
  let streams := c.streams.map fun s =>
    if s.connection = connection ∧ s.key = key ∧ s.registration.isNone then
      { s with registration := some r }
    else s
  ({ c with active := c.active ++ [true], listed := c.listed ++ [r], streams }.finish ticket,
    [.done ticket (.registered r)])

/-- Ends everything. -/
def drain (c : Client) (ticket : Nat) : Client × List Output :=
  let c' := { c.listed.foldl cancel c with listed := [], slot := none }.finish ticket
  (c', (if c.slot.isSome then [.log (c.nodeEntry .info "Closed web socket client" [])] else []) ++
    [.done ticket .disconnected])

/-- Goes on with a call that has got the lock. -/
def underLock (c : Client) (ticket : Nat) : Client × List Output :=
  match c.stage? ticket with
  | some (.enlisting connection key) => c.enlist ticket connection key
  | some (.queued connection) => c.startRenewal ticket connection
  | some .draining => c.drain ticket
  | _ => (c, [])

/-- Gets in line for the lock, and goes on at once if it is free. -/
def takeLock (c : Client) (ticket : Nat) (stage : Stage) : Client × List Output :=
  let c := { c with lock := c.lock ++ [ticket] }.wait ticket stage
  if c.holdsLock ticket then c.underLock ticket else (c, [])

def begin (c : Client) (ticket : Nat) : Task → Client × List Output
  | .query q =>
    match c.slot with
    | none => (c, [.done ticket (.refused .disconnected)])
    | some connection =>
      (c.wait ticket (.asking q connection), [.ask ticket connection q])
  | .register =>
    match c.slot with
    | none => (c, [.done ticket (.refused .disconnected)])
    | some connection =>
      (c.wait ticket (.subscribing connection), [.subscribe ticket connection])
  | .reconnect => (c.wait ticket .dialing, [.log (dialEntry c.url), .dial ticket])
  | .disconnect => c.takeLock ticket .draining

def answered (c : Client) (ticket : Nat) (r : Except Node.ClientError Unit) :
    Client × List Output :=
  match c.stage? ticket with
  | some (.asking q _) =>
    match r with
    | .ok () => (c.finish ticket, [c.countRequest q.metric true, .done ticket .answered])
    | .error e => (c.finish ticket, [c.countRequest q.metric false, .done ticket (.refused e)])
  | _ => (c, [])

/-- A new stream of a subscription. -/
def addStream (c : Client) (connection : ConnectionId) (key : Rpc.SubscriptionKey)
    (registration : Option RegistrationId) : Client :=
  let cancelled := registration.any (!c.isActive ·)
  { c with streams :=
      c.streams ++ [{ connection, key, registration, forwarder := { cancelled } }] }

def subscribed (c : Client) (ticket : Nat)
    (r : Except Node.ClientError Rpc.SubscriptionKey) : Client × List Output :=
  match c.stage? ticket with
  | some (.subscribing connection) =>
    match r with
    | .ok key =>
      let (c', out) := (c.addStream connection key none).takeLock ticket (.enlisting connection key)
      (c', c.countRequest .subscribeNewBlockTemplate true :: out)
    | .error e =>
      (c.finish ticket,
        [c.countRequest .subscribeNewBlockTemplate false, .done ticket (.refused e)])
  | some (.renewing connection current rest) =>
    match r with
    | .ok key =>
      let (c', out) := (c.addStream connection key (some current)).renew ticket connection rest
      (c', c.countRequest .subscribeNewBlockTemplate true :: out)
    | .error e =>
      let (c', out) := (c.cancel current).renew ticket connection rest
      (c', c.countRequest .subscribeNewBlockTemplate false :: .log (c.renewalEntry e) :: out)
  | _ => (c, [])

def dialed (c : Client) (ticket : Nat) (r : Except Node.ClientError ConnectionId) :
    Client × List Output :=
  match c.stage? ticket with
  | some .dialing =>
    match r with
    | .ok connection =>
      { c with slot := some connection, connections := c.connections ++ [connection] }.takeLock
        ticket (.queued connection)
    | .error e => (c.finish ticket, [.done ticket (.refused e)])
  | _ => (c, [])

/-- Drops a call; a subscription that it made and did not use is given up. -/
def drop (c : Client) (ticket : Nat) : Client × List Output :=
  match c.stage? ticket with
  | some (.enlisting connection key) =>
    ({ c with streams := c.streams.filter fun s =>
        !(s.connection = connection ∧ s.key = key ∧ s.registration.isNone) }.finish ticket,
      [.unsubscribe connection key])
  | some _ => (c.finish ticket, [])
  | none => (c, [])

def react (c : Client) : Event → Client × List Output
  | .begin ticket task => c.begin ticket task
  | .answered ticket r => c.answered ticket r
  | .subscribed ticket r => c.subscribed ticket r
  | .dialed ticket r => c.dialed ticket r
  | .proceed ticket => if c.holdsLock ticket then c.underLock ticket else (c, [])
  | .drop ticket => c.drop ticket
  | .release r => (c.cancel r, [])
  | .item connection key item => (c.onStream connection key (·.push item), [])
  | .ended connection key => (c.onStream connection key fun f => { f with ended := true }, [])
  | .lost connection => (c.endStreams connection, [])
  | .discard => ({ c with slot := none }, [])

/-- Lets an event happen; then connections that nothing holds are closed, and the forwarders
run. -/
def step (c : Client) (e : Event) : Client × List Output :=
  let (c, out) := c.react e
  let (c, closed) := c.closeUnheld
  let (c, forwarded) := c.runStreams
  (c, out ++ closed ++ forwarded)

end Client
end WorkBridge.Link
