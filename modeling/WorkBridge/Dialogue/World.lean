import WorkBridge.Connection.Supervisor
import WorkBridge.Dialogue.Server
import WorkBridge.Link.Client
import WorkBridge.Rpc.Session

/-!
The bridge's clients and a scripted node, with the connections between them.

Whatever is sent arrives at once, and everything that follows from it has happened before
anything else does.  What is still to be done is kept as a list of `Work`.
-/

namespace WorkBridge.Dialogue

open Link (ConnectionId RegistrationId)
open Node (ClientId)

/-- A connection, with the books that its client keeps of it. -/
structure Connection where
  isOpen : Bool := true
  client : ClientId
  session : Rpc.Session := {}
  /-- The subscriptions that the node has granted on it, given up ones included. -/
  grants : List Json := []
deriving Inhabited

/-- A request that the node received. -/
structure Received where
  connection : ConnectionId
  method : String
  params : List Json

/-- A registration, as its owner sees it. -/
structure Guard where
  client : ClientId
  registration : RegistrationId
  isHeld : Bool := true
  /-- How often the handler was called. -/
  calls : Nat := 0
deriving Inhabited

structure World where
  server : Server
  connections : List Connection := []
  clients : List Link.Client := []
  supervisor : Option Connection.Supervisor := none
  guards : List Guard := []
  metrics : Metrics.Registry := []
  tickets : Nat := 1
  /-- How calls of clients have ended. -/
  results : List (Nat × Link.Result) := []
  /-- What queries were answered with. -/
  answers : List (Nat × Node.Answer) := []
  /-- What was received and logged in this step, last first. -/
  received : List Received := []
  logs : List LogEntry := []

/-- Something that is still to be done. -/
inductive Work
  | event (client : ClientId) (e : Link.Client.Event)
  | output (client : ClientId) (o : Link.Client.Output)
  /-- A text arrives at a client. -/
  | text (connection : ConnectionId) (t : String)
  | delivery (connection : ConnectionId) (d : Rpc.Delivery)
  /-- All that comes for a call has come. -/
  | silence (connection : ConnectionId) (ticket : Nat)

namespace World

def log (w : World) (e : LogEntry) : World := { w with logs := e :: w.logs }

def update (w : World) (u : Metrics.Update) : World := { w with metrics := u.apply w.metrics }

/-- The reason why a connection has to be replaced. -/
def ended : Node.ClientError := .rpc (.restartNeeded .serviceDisconnect)

/-! ### Connections -/

def modifyConnection (w : World) (c : ConnectionId) (f : Connection → Connection) : World :=
  { w with connections := w.connections.modify c f }

def setSession (w : World) (c : ConnectionId) (session : Rpc.Session) : World :=
  w.modifyConnection c fun x => { x with session }

def shut (w : World) (c : ConnectionId) : World :=
  w.modifyConnection c fun x => { x with isOpen := false }

/-- A connection ends, unless it has; its client gets to know. -/
def lose (w : World) (c : ConnectionId) : World × List Work :=
  match w.connections[c]? with
  | some x => if x.isOpen then (w.shut c, [.event x.client (.lost c)]) else (w, [])
  | none => (w, [])

/-- Connects a client, if its URL leads to the node and the node wants it. -/
def dial (w : World) (u : Url) (client : ClientId) :
    World × Except Node.ClientError ConnectionId :=
  match w.server.welcome u with
  | (server, none) =>
    ({ w with server, connections := w.connections ++ [{ client }] }, .ok w.connections.length)
  | (server, some e) => ({ w with server }, .error (.rpc (.transport e.message)))

/-- The node receives a request and reacts. -/
def request (w : World) (c : ConnectionId) (id : Nat) (method : String) (params : List Json) :
    World × List Work :=
  let (server, reaction, granted) := w.server.react method id
  let w := { w with server, received := ⟨c, method, params⟩ :: w.received }
  let w := w.modifyConnection c fun x => { x with grants := x.grants ++ granted.toList }
  match reaction with
  | .send t => (w, [.text c t])
  | .close => w.lose c
  | .nothing => (w, [])

/-! ### What clients do -/

/-- Tells a call that it gets no answer. -/
def failure (w : World) (client : ClientId) (ticket : Nat) (e : Node.ClientError) : List Work :=
  match w.clients[client]?.bind (·.stage? ticket) with
  | some (.asking _ _) => [.event client (.answered ticket (.error e))]
  | some _ => [.event client (.subscribed ticket (.error e))]
  | none => []

/-- A request on behalf of a call; there is none on a connection that has ended. -/
def requestFor (w : World) (client : ClientId) (c : ConnectionId) (ticket : Nat)
    (take : Rpc.Session → Nat → Rpc.Session × Nat) (method : String) (params : List Json) :
    World × List Work :=
  match w.connections[c]? with
  | none => (w, [])
  | some x =>
    if x.isOpen then
      let (session, id) := take x.session ticket
      let (w, work) := (w.setSession c session).request c id method params
      (w, work ++ [.silence c ticket])
    else (w, w.failure client ticket ended)

/-- Gives up a subscription. -/
def sendCancel (w : World) (c : ConnectionId) (key : Rpc.SubscriptionKey) : World × List Work :=
  match w.connections[c]? with
  | none => (w, [])
  | some x =>
    match x.session.cancel? key with
    | some (session, id) =>
      if x.isOpen then
        (w.setSession c session).request c id Server.unsubscribeMethod [key.toJson]
      else (w, [])
    | none => (w, [])

/-- The handler of a registration is called. -/
def handle (w : World) (client : ClientId) (r : RegistrationId) : World :=
  { w with guards := w.guards.map fun g =>
      if g.client = client ∧ g.registration = r then { g with calls := g.calls + 1 } else g }

/-- Does what a client does. -/
def clientOutput (w : World) (client : ClientId) : Link.Client.Output → World × List Work
  | .ask ticket c q => w.requestFor client c ticket Rpc.Session.call q.method q.params
  | .subscribe ticket c =>
    w.requestFor client c ticket Rpc.Session.subscribe Server.subscribeMethod []
  | .unsubscribe c key => w.sendCancel c key
  | .dial ticket =>
    match w.clients[client]? with
    | some x =>
      let (w, r) := w.dial x.url client
      (w, [.event client (.dialed ticket r)])
    | none => (w, [])
  | .close c => (w.shut c, [])
  | .handle r => (w.handle client r, [])
  | .log e => (w.log e, [])
  | .update u => (w.update u, [])
  | .done ticket r => ({ w with results := (ticket, r) :: w.results }, [])

/-! ### What comes for clients -/

/-- Reads the answer to a query. -/
def answer (w : World) (client : ClientId) (ticket : Nat)
    (r : Except Node.CallError Json.Draft) : World × List Work :=
  match w.clients[client]?.bind (·.stage? ticket) with
  | some (.asking q _) =>
    match r with
    | .error e => (w, [.event client (.answered ticket (.error (.rpc (.call e))))])
    | .ok d =>
      match q.decode Json.maxDepth d with
      | .ok a =>
        ({ w with answers := (ticket, a) :: w.answers },
          [.event client (.answered ticket (.ok ()))])
      | .error _ => (w, [.event client (.answered ticket (.error (.rpc (.parse (q.complaint d)))))])
  | _ => (w, [])

/-- An item by its payload. -/
def itemOf (payload : Json.Draft) : Link.Item :=
  match Node.NewTemplate.record.decode Json.maxDepth payload with
  | .ok _ => .notification
  | .error _ => .undecodable

def deliver (w : World) (c : ConnectionId) (client : ClientId) :
    Rpc.Delivery → World × List Work
  | .answered ticket r => w.answer client ticket r
  | .subscribed ticket r => (w, [.event client (.subscribed ticket (r.mapError .rpc))])
  | .item key payload => (w, [.event client (.item c key (itemOf payload))])
  | .ended key => (w, [.event client (.ended c key)])
  | .surplus id key => w.request c id Server.unsubscribeMethod [key.toJson]
  | .broken => w.lose c

/-- Whether a request of a call is still without an answer. -/
def isWaiting (session : Rpc.Session) (ticket : Nat) : Bool :=
  session.entries.any fun (_, e) => match e with
    | .call caller => caller = some ticket
    | .subscribing caller _ => caller = some ticket
    | .subscription _ _ => false

/-- A call whose request is still without an answer is told why. -/
def silence (w : World) (c : ConnectionId) (ticket : Nat) : World × List Work :=
  match w.connections[c]? with
  | none => (w, [])
  | some x =>
    if isWaiting x.session ticket then
      let w := w.setSession c (x.session.leave ticket)
      (w, w.failure x.client ticket (if x.isOpen then .rpc .requestTimeout else ended))
    else (w, [])

/-! ### Running -/

/-- Does one piece of work; there may be more to do after it. -/
def perform (w : World) : Work → World × List Work
  | .event client e =>
    match w.clients[client]? with
    | some c =>
      let (c, out) := c.step e
      ({ w with clients := w.clients.set client c }, out.map (.output client))
    | none => (w, [])
  | .output client o => w.clientOutput client o
  | .text c t =>
    match w.connections[c]? with
    | some x =>
      if x.isOpen then
        let (session, ds) := x.session.receive t
        (w.setSession c session, ds.map (.delivery c))
      else (w, [])
    | none => (w, [])
  | .delivery c d =>
    match w.connections[c]? with
    | some x => w.deliver c x.client d
    | none => (w, [])
  | .silence c ticket => w.silence c ticket

/-- Does work, and all that follows from it, in at most `fuel` pieces. -/
def work : Nat → World → List Work → World
  | 0, w, _ => w
  | _ + 1, w, [] => w
  | fuel + 1, w, x :: rest =>
    let (w, more) := w.perform x
    work fuel w (more ++ rest)

/-- More pieces of work than a step makes. -/
def enough : Nat := 1000000

def settle (w : World) (todo : List Work) : World := work enough w todo

/-- A call of a client, from its beginning to its end. -/
def call (w : World) (client : ClientId) (task : Link.Task) : World × Nat :=
  let ticket := w.tickets
  ({ w with tickets := ticket + 1 }.settle [.event client (.begin ticket task)], ticket)

/-- How a call ended. -/
def result? (w : World) (ticket : Nat) : Option Link.Result := w.results.lookup ticket

end World
end WorkBridge.Dialogue
