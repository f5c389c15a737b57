import WorkBridge.Log
import WorkBridge.Metrics.Catalog
import WorkBridge.Node.Client

/-!
The one connection to a node that all tasks share.

The slot holds the current client; reading it never waits.  Reconnecting and closing change
it, one call at a time: calls wait in the order in which they came, and the first one holds
the lock.  A call may be dropped at any time, which lets the next one go on; what it did to
the slot before stays.

Reconnecting keeps the client where there is one and makes a new one where there is none.
A failed attempt is never final.
-/

namespace WorkBridge.Connection

open Node (ClientId)

/-- What a successful reconnect did. -/
inductive Outcome
  /-- The client has a new transport; its registrations go on. -/
  | reestablished
  /-- There was no client and a new one was made; registrations have to be made again. -/
  | replaced
deriving DecidableEq, Inhabited

def Outcome.text : Outcome → String
  | .reestablished => "Reestablished"
  | .replaced => "Replaced"

inductive Kind
  | reconnect
  | close
deriving DecidableEq, Inhabited

/-- How far a call has come. -/
inductive Stage
  | queued
  | connecting
  | reconnecting (client : ClientId)
  | disconnecting (client : ClientId)
deriving DecidableEq, Inhabited

/-- A call by the ticket of its caller. -/
structure Call where
  ticket : Nat
  kind : Kind
  stage : Stage := .queued
deriving DecidableEq, Inhabited

structure Supervisor where
  address : Node.Address
  slot : Option ClientId
  /-- Whether the last attempt to connect succeeded. -/
  connected : Bool
  /-- The calls that are not done; the first holds the lock. -/
  calls : List Call := []
deriving Inhabited

/-- How a call ended. -/
inductive Result
  | reconnected (r : Except Node.Error Outcome)
  | closed

namespace Supervisor

inductive Event
  /-- A call gets in line. -/
  | ask (ticket : Nat) (kind : Kind)
  /-- The caller goes on if it is its turn. -/
  | proceed (ticket : Nat)
  | connected (ticket : Nat) (r : Except Node.ClientError ClientId)
  | reconnected (ticket : Nat) (r : Except Node.ClientError Unit)
  | disconnected (ticket : Nat)
  /-- The caller does not wait for the call any more. -/
  | drop (ticket : Nat)

inductive Effect
  | request (r : Node.Request)
  | log (e : LogEntry)
  | update (u : Metrics.Update)
  | done (ticket : Nat) (r : Result)

def log (s : Supervisor) (level : Level) (message : String)
    (fields : List (String × String)) : LogEntry :=
  { level, target := "bridge::node", message, fields := ("address", s.address.text) :: fields }

/-- A supervisor around its first client. -/
def new (address : Node.Address) (client : ClientId) : Supervisor × List Effect :=
  let s : Supervisor := { address, slot := some client, connected := true }
  (s, [.log (s.log .info "Connected to node" []), .update (.connected true)])

def client? (s : Supervisor) : Except Node.Error ClientId :=
  match s.slot with
  | some c => .ok c
  | none => .error .notConnected

/-- The call that holds the lock, if it is the one with this ticket. -/
def holder? (s : Supervisor) (ticket : Nat) : Option Call :=
  match s.calls with
  | c :: _ => if c.ticket = ticket then some c else none
  | [] => none

/-- Lets the call that holds the lock go on to the next stage. -/
def advance (s : Supervisor) (stage : Stage) : Supervisor :=
  match s.calls with
  | c :: rest => { s with calls := { c with stage } :: rest }
  | [] => s

/-- Ends the call that holds the lock. -/
def release (s : Supervisor) : Supervisor := { s with calls := s.calls.drop 1 }

/-- Ends a reconnect that succeeded. -/
def succeed (s : Supervisor) (ticket : Nat) (o : Outcome) : Supervisor × List Effect :=
  ({ s with connected := true }.release, [
    .log (s.log .info "Reconnected to node" [("outcome", o.text)]),
    .update (.connected true),
    .update (.reconnect true),
    .done ticket (.reconnected (.ok o))])

/-- Ends a reconnect that failed. -/
def fail (s : Supervisor) (ticket : Nat) (e : Node.ClientError) : Supervisor × List Effect :=
  ({ s with connected := false }.release, [
    .log (s.log .warn "Failed to reconnect to node" [("err", e.message)]),
    .update (.connected false),
    .update (.reconnect false),
    .done ticket (.reconnected (.error (.connection s.address e)))])

/-- Ends a close. -/
def settle (s : Supervisor) (ticket : Nat) : Supervisor × List Effect :=
  ({ s with connected := false }.release, [.update (.connected false), .done ticket .closed])

/-- Begins the work of the call that has got the lock. -/
def begin (s : Supervisor) (c : Call) : Supervisor × List Effect :=
  match c.kind, s.slot with
  | .reconnect, some client => (s.advance (.reconnecting client), [.request (.reconnect client)])
  | .reconnect, none => (s.advance .connecting, [.request (.connect s.address)])
  | .close, some client =>
    ({ s with slot := none }.advance (.disconnecting client), [.request (.disconnect client)])
  | .close, none => s.settle c.ticket

def step (s : Supervisor) : Event → Supervisor × List Effect
  | .ask ticket kind => ({ s with calls := s.calls ++ [{ ticket, kind }] }, [])
  | .proceed ticket =>
    match s.holder? ticket with
    | some c => if c.stage = .queued then s.begin c else (s, [])
    | none => (s, [])
  | .connected ticket r =>
    match s.holder? ticket with
    | some { stage := .connecting, .. } =>
      match r with
      | .ok client => { s with slot := some client }.succeed ticket .replaced
      | .error e => s.fail ticket e
    | _ => (s, [])
  | .reconnected ticket r =>
    match s.holder? ticket with
    | some { stage := .reconnecting _, .. } =>
      match r with
      | .ok () => s.succeed ticket .reestablished
      | .error e => s.fail ticket e
    | _ => (s, [])
  | .disconnected ticket =>
    match s.holder? ticket with
    | some { stage := .disconnecting _, .. } =>
      let (s', effects) := s.settle ticket
      (s', .log (s.log .info "Closed node connection" []) :: effects)
    | _ => (s, [])
  | .drop ticket => ({ s with calls := s.calls.filter (·.ticket ≠ ticket) }, [])

end Supervisor
end WorkBridge.Connection
