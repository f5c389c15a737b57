import WorkBridge.Feed.Step
import WorkBridge.Manager
import WorkBridge.Scenario.Script
import WorkBridge.Scenario.Wire

/-!
A world for the bridge to run in: a clock, a node that answers by a script or over a wire, the
connections made to it, and the tasks that use them.

This module holds the state of the world and what can be done to it in no time; the tasks get
their turns in `WorkBridge.Scenario.Tasks`, the caller's own calls theirs in
`WorkBridge.Scenario.Calls`.
-/

namespace WorkBridge.Scenario

open Node (ClientId)

/-- Something that was seen to happen. -/
inductive Happening
  | request (r : Node.Request)
  | work (n : Nat)
  | record (s : Stats.Sample)
  | log (e : LogEntry)

/-- Whether a happening belongs to the sampling of the network. -/
def Happening.isStats : Happening → Bool
  | .request (.getDagInfo _) => true
  | .request (.estimateHashRate _ _ _) => true
  | .request _ => false
  | .work _ => false
  | .record _ => true
  | .log e => e.target = "bridge::stats"

structure Event where
  time : Nat
  what : Happening

/-- A registration for notifications, made by a feed. -/
structure Registration where
  feed : Nat
  active : Bool
deriving DecidableEq, Inhabited

structure FeedTask where
  feed : Feed
  supervisor : Nat
  /-- The reply that the feed waits for. -/
  pending : Option Pending := none
  /-- The ticket of its last call to the supervisor. -/
  ticket : Nat := 0

structure PollerTask where
  poller : Stats.Poller
  supervisor : Nat
  pending : Option Pending := none
  /-- Whether samples are also shown as metrics. -/
  published : Bool := false

inductive TaskId
  | feed (i : Nat)
  | poller (i : Nat)
deriving DecidableEq, Inhabited

/-- A manager with its connection and the tasks that it has started. -/
structure Managed where
  manager : Manager
  supervisor : Nat
  /-- Whether samples are also shown as metrics. -/
  published : Bool := false
  feed : Option Nat := none
  poller : Option Nat := none

namespace Managed

def taskId? (m : Managed) : Manager.Task → Option TaskId
  | .feed => m.feed.map .feed
  | .poller => m.poller.map .poller

/-- The tasks whose ends have not been seen. -/
def tasks (m : Managed) : List TaskId := m.manager.tasks.filterMap m.taskId?

end Managed

/-- What the handler of new work, or the caller, does on its own. -/
inductive Action
  | push (n : Nat) (registration : Option Nat)
  | endRegistrations
  | cancel
  | script (m : Method) (replies : List Reply)
  | crash

/-- The outcome of a step. -/
inductive StepResult
  | nothing
  /-- The time for the step ran out. -/
  | unfinished
  | noManager
  | noConnection
  | connected (r : Except Node.Error Node.Address)
  | managed (r : Except Manager.Error Config)
  | started (r : Except Manager.Error Unit)
  | template (r : Except Node.Error Node.Template)
  | sample (r : Except Stats.Error Stats.Sample)
  | synced (r : Except Node.Error Unit)
  | reconnected (r : Except Node.Error Connection.Outcome)
  | reconnectedAll (rs : List (Except Node.Error Connection.Outcome))
  | closed

/-- One reconnect of several that were called together. -/
structure Attempt where
  ticket : Nat
  result : Option (Except Node.Error Connection.Outcome) := none

/-- What the caller waits for. -/
inductive Call
  | sleep (wakeAt : Nat)
  | connect (address : Node.Address)
  | manager (config : Config) (published : Bool)
  | start
  | template
  /-- Shutting down: the tasks come to their ends. -/
  | join
  /-- Shutting down: the connection is closed. -/
  | shutdown (ticket : Nat)
  | sample (supervisor : Nat) (window : Nat) (p : Stats.Progress)
  | sync (supervisor : Nat) (wait : Sync.Wait)
  | reconnects (supervisor : Nat) (several : Bool) (attempts : List Attempt)
  | close (supervisor : Nat) (ticket : Nat)
  | done (r : StepResult)

structure World where
  now : Nat := 0
  cancelled : Bool := false
  /-- Times at which the tasks will be cancelled. -/
  cancelTimes : List Nat := []
  script : Script := {}
  /-- Where the node is, if it is not the script that answers. -/
  wire : Option Wire := none
  registrations : List Registration := []
  /-- The number of clients made so far. -/
  clients : Nat := 0
  supervisors : List Connection.Supervisor := []
  feeds : List FeedTask := []
  pollers : List PollerTask := []
  connection : Option Nat := none
  manager : Option Managed := none
  /-- The feed and the poller that were started on their own last. -/
  lastFeed : Option Nat := none
  lastPoller : Option Nat := none
  /-- What the next calls of the handler of new work do. -/
  handler : List (List Action) := []
  works : Nat := 0
  /-- The ticket of the next call to a supervisor; zero is no ticket. -/
  tickets : Nat := 1
  metrics : Metrics.Registry := []
  /-- What happened, last first. -/
  events : List Event := []
  call : Call := .done .nothing
  /-- The reply that the caller waits for. -/
  pending : Option Pending := none

namespace World

def emit (w : World) (h : Happening) : World := { w with events := ⟨w.now, h⟩ :: w.events }

def log (w : World) (e : LogEntry) : World := w.emit (.log e)

def update (w : World) (u : Metrics.Update) : World := { w with metrics := u.apply w.metrics }

/-- Whether a reply has come. -/
def arrived (w : World) (p : Option Pending) : Bool := p.any (·.ready w.now)

def modifyFeed (w : World) (i : Nat) (f : FeedTask → FeedTask) : World :=
  { w with feeds := w.feeds.modify i f }

def modifyPoller (w : World) (i : Nat) (f : PollerTask → PollerTask) : World :=
  { w with pollers := w.pollers.modify i f }

/-- Lets something happen to a feed that it takes note of only. -/
def tell (w : World) (i : Nat) (s : Feed.Stimulus) : World :=
  w.modifyFeed i fun t => { t with feed := (t.feed.step s).1 }

/-! ### Registrations -/

def modifyRegistration (w : World) (r : Nat) (active : Bool) : World :=
  { w with registrations := w.registrations.modify r fun x => { x with active } }

/-- Ends a registration; the feed that holds it gets to know. -/
def endRegistration (w : World) (r : Nat) : World :=
  match w.registrations[r]? with
  | some x => (w.modifyRegistration r false).tell x.feed (.lapse r)
  | none => w

def endRegistrations (w : World) : World :=
  (List.range w.registrations.length).foldl endRegistration w

/-- A notification comes on a registration. -/
def notify (w : World) (r : Nat) : World :=
  match w.registrations[r]? with
  | some x => w.tell x.feed .notify
  | none => w

/-- One notification for every active registration, or for the given one in any case. -/
def pushOnce (w : World) : Option Nat → World
  | some r => w.notify r
  | none =>
    (List.range w.registrations.length).foldl
      (fun w r => if w.registrations[r]?.any (·.active) then w.notify r else w) w

def push (w : World) (r : Option Nat) : Nat → World
  | 0 => w
  | n + 1 => (w.pushOnce r).push r n

/-- Grants a registration to a feed. -/
def grant (w : World) (i : Nat) (active : Bool) : World × Feed.Grant :=
  ({ w with registrations := w.registrations ++ [⟨i, active⟩] }, ⟨w.registrations.length, active⟩)

/-! ### Requests -/

/-- Takes note of what has come over the wire. -/
def hear (w : World) : World :=
  match w.wire with
  | none => w
  | some wire =>
    let (wire, news) := wire.hear w.registrations.length
    let w := news.entries.foldl log { w with wire := some wire, metrics := wire.dialogue.metrics }
    let w := news.notified.foldl notify w
    news.ended.foldl
      (fun w r => if w.registrations[r]?.any (·.active) then w.endRegistration r else w) w

/-- The wire, which knows the metrics as they are. -/
def wired? (w : World) : Option Wire :=
  w.wire.map fun x => { x with dialogue := { x.dialogue with metrics := w.metrics } }

/-- Makes a request and finds out when its reply will come. -/
def place (w : World) (r : Node.Request) : World × Pending :=
  let w := w.emit (.request r)
  match w.wired? with
  | some wire =>
    let (wire, p) := wire.request w.now r
    ({ w with wire := some wire }.hear, p)
  | none =>
    let (reply, script) := w.script.take (.ofRequest r)
    ({ w with script }, .of w.now reply)

/-- Gives up a registration. -/
def release (w : World) (r : Nat) : World :=
  let w := w.modifyRegistration r false
  match w.wired? with
  | some wire => { w with wire := some (wire.release r) }.hear
  | none => w

/-! ### Cancellation -/

def cancel (w : World) : World :=
  { w with
    cancelled := true
    feeds := w.feeds.map fun t => { t with feed := (t.feed.step .cancel).1 }
    pollers := w.pollers.map fun t => { t with poller := (t.poller.step .cancel).1 } }

/-- Cancels where the time for it has come. -/
def cancelIfDue (w : World) : World :=
  if w.cancelTimes.any (· ≤ w.now) then
    { w.cancel with cancelTimes := w.cancelTimes.filter (w.now < ·) }
  else w

/-! ### The handler of new work -/

/-- Performs actions up to one that breaks off; says whether there was none. -/
def perform (w : World) : List Action → World × Bool
  | [] => (w, true)
  | .push n r :: rest => (w.push r n).perform rest
  | .endRegistrations :: rest => w.endRegistrations.perform rest
  | .cancel :: rest => w.cancel.perform rest
  | .script m replies :: rest => { w with script := w.script.set m replies }.perform rest
  | .crash :: _ => (w, false)

/-- The handler's next call. -/
def handle (w : World) : World × Bool :=
  match w.handler with
  | [] => (w, true)
  | actions :: rest => { w with handler := rest }.perform actions

/-! ### Replies -/

/-- Takes a reply that has come, unless it breaks off. -/
def receive (w : World) (p : Pending) : World × Option (Except Node.ClientError Payload) :=
  let w := if p.reply.endsRegistrations then w.endRegistrations else w
  (w, if p.reply.crashes then none else some p.reply.result)

/-- A number for the next client. -/
def newClient (w : World) : World × ClientId := ({ w with clients := w.clients + 1 }, w.clients)

/-! ### The supervisor -/

/-- How a caller of the supervisor fares. -/
inductive Progress
  | waiting (pending : Option Pending)
  | finished (r : Connection.Result)
  | crashed

/-- What effects of the supervisor come to, for the caller whose turn it is. -/
def applyEffects (w : World) (progress : Progress) :
    List Connection.Supervisor.Effect → World × Progress
  | [] => (w, progress)
  | .request r :: rest =>
    let (w, p) := w.place r
    w.applyEffects (.waiting (some p)) rest
  | .log e :: rest => (w.log e).applyEffects progress rest
  | .update u :: rest => (w.update u).applyEffects progress rest
  | .done _ r :: rest => w.applyEffects (.finished r) rest

/-- Lets an event happen to a supervisor. -/
def supervise (w : World) (s : Nat) (e : Connection.Supervisor.Event) : World × Progress :=
  match w.supervisors[s]? with
  | none => (w, .waiting none)
  | some x =>
    let (x, effects) := x.step e
    { w with supervisors := w.supervisors.set s x }.applyEffects (.waiting none) effects

def slot (w : World) (s : Nat) : Option ClientId := w.supervisors[s]?.bind (·.slot)

/-- The call of a ticket, if it holds the lock. -/
def holder? (w : World) (s ticket : Nat) : Option Connection.Call :=
  w.supervisors[s]?.bind (·.holder? ticket)

/-- Whether a caller of the supervisor can go on. -/
def canSupervise (w : World) (s ticket : Nat) (pending : Option Pending) : Bool :=
  match w.holder? s ticket with
  | none => false
  | some c => c.stage = .queued || w.arrived pending

/-- A new ticket in the line of a supervisor. -/
def ask (w : World) (s : Nat) (kind : Connection.Kind) : World × Nat :=
  let ticket := w.tickets
  ({ w with tickets := ticket + 1 }.supervise s (.ask ticket kind) |>.1, ticket)

/-- A caller of the supervisor goes on. -/
def goOn (w : World) (s ticket : Nat) (pending : Option Pending) : World × Progress :=
  match w.holder? s ticket with
  | none => (w, .waiting pending)
  | some c =>
    match c.stage with
    | .queued => w.supervise s (.proceed ticket)
    | stage =>
      match pending with
      | none => (w, .waiting none)
      | some p =>
        let (w, r) := w.receive p
        match r with
        | none => (w, .crashed)
        | some r =>
          match stage with
          | .connecting =>
            match r with
            | .ok _ =>
              let (w, client) := w.newClient
              w.supervise s (.connected ticket (.ok client))
            | .error e => w.supervise s (.connected ticket (.error e))
          | .reconnecting _ => w.supervise s (.reconnected ticket (r.map fun _ => ()))
          | .disconnecting _ => w.supervise s (.disconnected ticket)
          | .queued => (w, .waiting pending)

/-- A caller of the supervisor gives up. -/
def dropTicket (w : World) (s ticket : Nat) : World := (w.supervise s (.drop ticket)).1

end World
end WorkBridge.Scenario
