import WorkBridge.Clock.Span
import WorkBridge.Log
import WorkBridge.Node.Client

/-!
Waiting for a node to be synced.

The node is asked for its state; while it answers that it is not synced, it is asked again
after a pause.  Every failure ends the wait at once.  Nothing is remembered: each question
goes to the client that is there at that moment.

`Monitor.judge` says what an answer means.  `Wait` is a wait on its own: cancelling it shows
only in a pause, so an answer that has come is always used.
-/

namespace WorkBridge.Sync

open Node (ClientId)

/-- The node that is asked, and the pause between two questions. -/
structure Monitor where
  address : Node.Address
  retryInterval : Span
deriving DecidableEq, Inhabited

inductive Finding
  | synced
  | notSynced
  | failed (e : Node.Error)

namespace Monitor

def judge (m : Monitor) : Except Node.ClientError Node.Info → Finding
  | .ok info => if info.isSynced then .synced else .notSynced
  | .error e =>
    if e.isConnectionError then .failed (.connection m.address e)
    else .failed (.rpc m.address e)

def log (m : Monitor) (level : Level) (message : String)
    (fields : List (String × String)) : LogEntry :=
  { level, target := "bridge::sync", message, fields := ("address", m.address.text) :: fields }

def checkingEntry (m : Monitor) : LogEntry := m.log .info "Checking node sync state" []

def syncedEntry (m : Monitor) : LogEntry := m.log .info "Node synced" []

def notSyncedEntry (m : Monitor) : LogEntry :=
  m.log .warn "Node is not synced, waiting for sync before handing out work"
    [("retry_in", m.retryInterval.text)]

/-- When the node is asked again after an answer at `now`. -/
def retryAt (m : Monitor) (now : Nat) : Nat := now + m.retryInterval.toMillis

end Monitor

namespace Wait

inductive Point
  | ready
  | asking (client : ClientId)
  | resting (wakeAt : Nat)
  | done (r : Except Node.Error Unit)

end Wait

structure Wait where
  monitor : Monitor
  verbose : Bool
  point : Wait.Point := .ready

namespace Wait

/-- What is known when the wait gets its turn. -/
structure Turn where
  now : Nat
  cancelled : Bool
  slot : Option ClientId
  answer : Option (Except Node.ClientError Node.Info)

inductive Output
  | log (e : LogEntry)
  | ask (client : ClientId)

def finish (w : Wait) (r : Except Node.Error Unit) : Wait := { w with point := .done r }

/-- Asks the client that is there. -/
def ask (w : Wait) (slot : Option ClientId) : Wait × List Output :=
  match slot with
  | none => (w.finish (.error .notConnected), [])
  | some c => ({ w with point := .asking c }, [.ask c])

def step (w : Wait) (t : Turn) : Wait × List Output :=
  match w.point with
  | .ready =>
    let (w', out) := w.ask t.slot
    (w', (if w.verbose then [.log w.monitor.checkingEntry] else []) ++ out)
  | .asking _ =>
    match t.answer with
    | none => (w, [])
    | some r =>
      match w.monitor.judge r with
      | .synced =>
        (w.finish (.ok ()), if w.verbose then [.log w.monitor.syncedEntry] else [])
      | .failed e => (w.finish (.error e), [])
      | .notSynced =>
        if t.cancelled then
          (w.finish (.error .cancelled), [.log w.monitor.notSyncedEntry])
        else
          ({ w with point := .resting (w.monitor.retryAt t.now) },
            [.log w.monitor.notSyncedEntry])
  | .resting wakeAt =>
    if t.cancelled then (w.finish (.error .cancelled), [])
    else if wakeAt ≤ t.now then w.ask t.slot
    else (w, [])
  | .done _ => (w, [])

end Wait
end WorkBridge.Sync
