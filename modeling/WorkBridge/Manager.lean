import WorkBridge.Feed.State
import WorkBridge.Manager.Error
import WorkBridge.Manager.Session
import WorkBridge.Stats.Poller

/-!
The manager of the work, as a machine.

A manager is started at most once: an attempt counts, whatever comes of it.  Starting waits for
the node to be synced and then starts the two tasks, the feed and the poller.  Shutting down
cancels what was started, sees the ends of the tasks and then has the connection closed; it may
be done again, and then there is nothing left but the closing.

There is one call at a time.  A call that its caller gives up leaves the manager as it is.
-/

namespace WorkBridge

open Node (ClientId)

namespace Manager

/-- A token by which a start and its tasks are cancelled, by its number. -/
abbrev Token := Nat

inductive Task
  | feed
  | poller
deriving DecidableEq, Inhabited

/-- The call that is under way. -/
inductive Call
  | idle
  /-- The node is waited for. -/
  | starting (token : Token) (wait : Sync.Wait)
  /-- The ends of the tasks are waited for. -/
  | joining
  /-- The end of the connection is waited for. -/
  | closing

end Manager

structure Manager where
  config : Config
  /-- The token of the start, once there was one. -/
  token : Option Manager.Token := none
  /-- The tasks whose ends have not been seen. -/
  tasks : List Manager.Task := []
  call : Manager.Call := .idle

namespace Manager

inductive Event
  | start (token : Token)
  | shutDown
  /-- The caller does not wait for the call any more. -/
  | giveUp
  /-- The call gets its turn. -/
  | turn (t : Sync.Wait.Turn)
  /-- A task is seen to have ended, in good order or not. -/
  | joined (t : Task) (broken : Bool)
  /-- The connection has been closed. -/
  | closed

inductive Output
  | log (e : LogEntry)
  | query (client : ClientId)
  | spawnFeed (token : Token) (s : Feed.Settings)
  | spawnPoller (token : Token) (s : Stats.Poller.Settings)
  | cancel (token : Token)
  | close
  | started (r : Except Error Unit)
  | stopped

def entry (level : Level) (message : String) (fields : List (String × String)) : LogEntry :=
  { level, target := "bridge::manager", message, fields }

def feedSettings (m : Manager) : Feed.Settings where
  address := m.config.address
  maxWorkStaleness := m.config.maxWorkStaleness
  syncRetryInterval := m.config.syncRetryInterval
  reconnectRetryInterval := m.config.reconnectRetryInterval

def pollerSettings (m : Manager) : Stats.Poller.Settings where
  interval := m.config.statsInterval
  window := m.config.hashrateWindow

/-- The wait that a start begins with. -/
def wait (m : Manager) : Sync.Wait where
  monitor := ⟨m.config.address, m.config.syncRetryInterval⟩
  verbose := true

def start (m : Manager) (token : Token) : Manager × List Output :=
  if m.token.isSome then (m, [.started (.error .alreadyStarted)])
  else ({ m with token := some token, call := .starting token m.wait }, [])

/-- Starts the tasks of a manager whose node is synced. -/
def launch (m : Manager) (token : Token) : Manager × List Output :=
  ({ m with call := .idle, tasks := m.tasks ++ [.feed, .poller] }, [
    .spawnFeed token m.feedSettings,
    .spawnPoller token m.pollerSettings,
    .log (entry .info "Node manager started" [("address", m.config.address.text)]),
    .started (.ok ())])

def Output.ofWait : Sync.Wait.Output → Output
  | .log e => .log e
  | .ask c => .query c

/-- Goes on with the wait of a start. -/
def proceed (m : Manager) (token : Token) (wait : Sync.Wait) (t : Sync.Wait.Turn) :
    Manager × List Output :=
  let (wait, out) := wait.step t
  let (m, rest) := match wait.point with
    | .done (.ok ()) => m.launch token
    | .done (.error e) => ({ m with call := .idle }, [.started (.error (.node e))])
    | _ => ({ m with call := .starting token wait }, [])
  (m, out.map .ofWait ++ rest)

/-- Has the connection closed once there are no tasks left. -/
def closeAfterTasks (m : Manager) : Manager × List Output :=
  if m.tasks.isEmpty then ({ m with call := .closing }, [.close])
  else ({ m with call := .joining }, [])

def shutDown (m : Manager) : Manager × List Output :=
  let (m', out) := m.closeAfterTasks
  (m', (m.token.map .cancel).toList ++ out)

def joined (m : Manager) (t : Task) (broken : Bool) : Manager × List Output :=
  let (m', out) := { m with tasks := m.tasks.erase t }.closeAfterTasks
  (m', (if broken then
    [.log (entry .error "A task encountered an error during shutdown." [])] else []) ++ out)

def step (m : Manager) : Event → Manager × List Output
  | .start token => m.start token
  | .shutDown => m.shutDown
  | .giveUp => ({ m with call := .idle }, [])
  | .turn t =>
    match m.call with
    | .starting token wait => m.proceed token wait t
    | _ => (m, [])
  | .joined t broken =>
    match m.call with
    | .joining => m.joined t broken
    | _ => (m, [])
  | .closed =>
    match m.call with
    | .closing =>
      ({ m with call := .idle }, [.log (entry .info "Node manager stopped" []), .stopped])
    | _ => (m, [])

/-- The request for a template that pays the wallet of a session. -/
def templateRequest (s : Session) : Option ClientId → Except Node.Error Node.Request
  | some c => .ok (.getTemplate c s.wallet s.description)
  | none => .error .notConnected

end Manager
end WorkBridge
