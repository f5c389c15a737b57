import WorkBridge.Clock.Signal
import WorkBridge.Clock.Ticker
import WorkBridge.Connection.Supervisor
import WorkBridge.Feed.Trigger
import WorkBridge.Sync.Monitor

/-!
The feed of new work, as a machine.

A feed waits for the node's notifications of new block templates and, when they do not come,
for its ticker; after either it calls the handler of new work.  This module says what a feed
remembers, what happens to it and what it does; `WorkBridge.Feed.Step` says how.
-/

namespace WorkBridge

open Node (ClientId)

namespace Feed

structure Settings where
  address : Node.Address
  maxWorkStaleness : Span
  syncRetryInterval : Span
  reconnectRetryInterval : Span
deriving DecidableEq, Inhabited

def Settings.monitor (s : Settings) : Sync.Monitor := ⟨s.address, s.syncRetryInterval⟩

/-- How the feed learns about new block templates. -/
inductive Mode
  | push
  | timerOnly
deriving DecidableEq, Inhabited

def Mode.text : Mode → String
  | .push => "Push"
  | .timerOnly => "TimerOnly"

/-- A registration for notifications that the feed was granted and has not given up. -/
structure Grant where
  id : Nat
  /-- Whether notifications still come. -/
  active : Bool
deriving DecidableEq, Inhabited

/-- Why the feed registers. -/
inductive Purpose
  | first
  | renewal
deriving DecidableEq, Inhabited

/-- Where the feed is. -/
inductive Point
  /-- Before its first turn. -/
  | ready
  | registering (purpose : Purpose)
  /-- The node is asked whether it is synced. -/
  | checking
  /-- The node is not synced and will be asked again. -/
  | resting (wakeAt : Nat)
  | reconnecting
  /-- A notification or the ticker is waited for. -/
  | awaiting
  /-- The handler of new work runs. -/
  | handling
  /-- A reconnect failed, or a sync check right after one. -/
  | degraded (wakeAt : Nat)
  | stopped
  /-- The task broke off. -/
  | failed
deriving DecidableEq, Inhabited

end Feed

structure Feed where
  settings : Feed.Settings
  point : Feed.Point := .ready
  /-- Made after the first attempt to register. -/
  ticker : Option Ticker := none
  /-- Where the handlers of all registrations leave their wake-up. -/
  signal : Signal := {}
  held : Option Feed.Grant := none
  /-- Set by a successful reconnect, cleared by the next sync check. -/
  reconnected : Bool := false
  cancelled : Bool := false
deriving Inhabited

namespace Feed

/-- What the feed asked for has come. -/
inductive Answer
  | registered (r : Except Node.ClientError Grant)
  | info (r : Except Node.ClientError Node.Info)
  | reconnected (r : Except Node.Error Connection.Outcome)
  /-- The handler of new work has returned. -/
  | handled
  /-- What was called broke off and takes the task with it. -/
  | crashed

/-- What happens to a feed.  Only its turns let it act; the rest waits for the next turn. -/
inductive Stimulus
  | cancel
  /-- A notification came, on whichever registration. -/
  | notify
  /-- Notifications on a registration have ended. -/
  | lapse (id : Nat)
  /-- The task is thrown away. -/
  | abort
  /-- The task gets its turn at a time, with a client in the slot and, perhaps, an answer. -/
  | turn (now : Nat) (slot : Option ClientId) (answer : Option Answer)

/-- What a feed does. -/
inductive Output
  | log (e : LogEntry)
  | update (u : Metrics.Update)
  | register (client : ClientId)
  | query (client : ClientId)
  | reconnect
  /-- Does not wait any more for what was asked for last. -/
  | abandon
  /-- Gives up a registration. -/
  | release (id : Nat)
  /-- Calls the handler of new work. -/
  | work (t : Trigger)

def entry (level : Level) (message : String) (fields : List (String × String)) : LogEntry :=
  { level, target := "bridge::feed", message, fields }

/-- Whether notifications still come on the registration that the feed holds. -/
def pushActive (f : Feed) : Bool :=
  match f.held with
  | some g => g.active
  | none => false

def isEnded (f : Feed) : Bool :=
  match f.point with
  | .stopped => true
  | .failed => true
  | _ => false

end Feed
end WorkBridge
