import WorkBridge.Rpc.Message

/-!
The requests and subscriptions of one connection.

Requests are numbered from zero.  A subscription takes two numbers, one for asking for it and
one for giving it up.  An answer to a number that nothing is asked under, or to one that is a
subscription by now, ends the connection, as does a message that cannot be understood.
-/

namespace WorkBridge.Rpc

/-- What a number on a connection stands for. -/
inductive Entry
  /-- A request; without a caller nobody waits for its answer. -/
  | call (caller : Option Nat)
  | subscribing (caller : Option Nat) (cancelId : Nat)
  | subscription (key : SubscriptionKey) (cancelId : Nat)
deriving DecidableEq, Inhabited

structure Session where
  nextId : Nat := 0
  entries : List (Nat × Entry) := []
deriving Inhabited

/-- What comes of a message. -/
inductive Delivery
  | answered (caller : Nat) (r : Except Node.CallError Json.Draft)
  | subscribed (caller : Nat) (r : Except Node.RpcError SubscriptionKey)
  | item (key : SubscriptionKey) (payload : Json.Draft)
  /-- No more items come for a subscription. -/
  | ended (key : SubscriptionKey)
  /-- A subscription that nobody waits for any more is given up by a request. -/
  | surplus (id : Nat) (key : SubscriptionKey)
  /-- The connection has ended. -/
  | broken

namespace Session

def entry? (s : Session) (id : Nat) : Option Entry := s.entries.lookup id

def remove (s : Session) (id : Nat) : Session :=
  { s with entries := s.entries.filter (·.1 ≠ id) }

def put (s : Session) (id : Nat) (e : Entry) : Session :=
  { s with entries := (id, e) :: (s.remove id).entries }

/-- The number under which a subscription was asked for. -/
def idOf? (s : Session) (key : SubscriptionKey) : Option Nat :=
  (s.entries.find? fun (_, e) => match e with
    | .subscription k _ => k = key
    | _ => false).map (·.1)

/-- Makes a request: its number. -/
def call (s : Session) (caller : Nat) : Session × Nat :=
  ({ s with nextId := s.nextId + 1 }.put s.nextId (.call (some caller)), s.nextId)

/-- Asks for a subscription: the number of the request. -/
def subscribe (s : Session) (caller : Nat) : Session × Nat :=
  let id := s.nextId
  (({ s with nextId := id + 2 }.put id (.subscribing (some caller) (id + 1))).put (id + 1)
    (.call none), id)

/-- The caller of a request does not wait any more. -/
def leave (s : Session) (caller : Nat) : Session :=
  { s with entries := s.entries.map fun (id, e) => (id, match e with
    | .call (some c) => .call (if c = caller then none else some c)
    | .subscribing (some c) k => .subscribing (if c = caller then none else some c) k
    | e => e) }

/-- Gives up a subscription: the number of the request for that. -/
def cancel? (s : Session) (key : SubscriptionKey) : Option (Session × Nat) := do
  let id ← s.idOf? key
  match s.entry? id with
  | some (.subscription _ cancelId) => pure (s.remove id, cancelId)
  | _ => none

/-- The key that a node gives to a subscription. -/
def keyOf (d : Json.Draft) : Except Node.RpcError SubscriptionKey :=
  match SubscriptionKey.decode Json.maxDepth d with
  | .ok key => .ok key
  | .error _ => .error (.parse "data did not match any variant of untagged enum SubscriptionId")

/-- Takes the answer to a request for a subscription. -/
def receiveSubscription (s : Session) (id cancelId : Nat) (caller : Option Nat)
    (r : Except Node.CallError Json.Draft) : Session × List Delivery :=
  let s := s.remove id
  let tell (r : Except Node.RpcError SubscriptionKey) : List Delivery :=
    (caller.map fun c => .subscribed c r).toList
  match r with
  | .error e => (s, tell (.error (.call e)))
  | .ok d =>
    match keyOf d with
    | .error e => (s, tell (.error e))
    | .ok key =>
      if (s.idOf? key).isSome then (s, tell (.error .invalidSubscriptionId))
      else
        match caller with
        | some c => (s.put id (.subscription key cancelId), [.subscribed c (.ok key)])
        | none => (s, [.surplus cancelId key])

/-- Takes a message that stands alone. -/
def receiveMessage (s : Session) : Message → Session × List Delivery
  | .response (.number id) r =>
    match s.entry? id with
    | some (.call caller) =>
      (s.remove id, (caller.map fun c => Delivery.answered c r).toList)
    | some (.subscribing caller cancelId) => s.receiveSubscription id cancelId caller r
    | some (.subscription _ _) => (s, [.broken])
    | none => (s, [.broken])
  | .response _ _ => (s, [.broken])
  | .item key payload =>
    (s, if (s.idOf? key).isSome then [.item key payload] else [])
  | .failure key =>
    match s.idOf? key with
    | some id => (s.remove id, [.ended key])
    | none => (s, [])
  | .other => (s, [])

/-- Takes the messages of an array, where no response is waited for. -/
def receiveBatch (s : Session) : List Message → Session × List Delivery
  | [] => (s, [])
  | .response _ _ :: rest => s.receiveBatch rest
  | m :: rest =>
    let (s, ds) := s.receiveMessage m
    let (s, ds') := s.receiveBatch rest
    (s, ds ++ ds')

def isResponse : Message → Bool
  | .response _ _ => true
  | _ => false

/-- Takes a text. -/
def receive (s : Session) (text : String) : Session × List Delivery :=
  match Frame.read text with
  | .single m => s.receiveMessage m
  | .batch ms isBroken =>
    let (s, ds) := s.receiveBatch ms
    (s, if isBroken || ms.isEmpty || ms.any isResponse then ds ++ [.broken] else ds)
  | .broken => (s, [.broken])

end Session
end WorkBridge.Rpc
