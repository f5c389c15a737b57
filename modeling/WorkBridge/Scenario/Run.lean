import WorkBridge.Scenario.Calls

/-!
Running a scenario.

A scenario is a list of steps.  A step is begun, then everything that can happen at the
current time happens, then the clock goes on to the next time at which something is due, until
the step's call is over or its time has run out.
-/

namespace WorkBridge.Scenario

inductive Step
  | advance (ms : Nat)
  | act (a : Action)
  | endRegistration (r : Nat)
  | onWork (handler : List (List Action))
  | connect (address : Node.Address)
  | manager (config : Config) (published : Bool)
  | start
  | template (session : Session)
  | shutdown
  | dropManager
  | feed (maxWorkStaleness syncRetryInterval reconnectRetryInterval : Span)
  | poller (settings : Stats.Poller.Settings) (published : Bool)
  | sample (window : Nat)
  | waitForSync (retryInterval : Span) (verbose : Bool)
  /-- One reconnect, or several at once. -/
  | reconnect (several : Option Nat)
  | close

structure TimedStep where
  step : Step
  /-- How long the step may take. -/
  timeout : Nat
  /-- When, after the beginning of the step, the tasks are cancelled. -/
  cancelAfter : Option Nat := none

/-- How a task stands. -/
inductive Standing
  | none
  | running
  | stopped
  | broken
deriving DecidableEq

structure ConnectionState where
  connected : Bool
  client : Option Node.ClientId

structure State where
  time : Nat
  connection : Option ConnectionState
  registrations : List Bool
  feed : Standing
  poller : Standing

structure Report where
  result : StepResult
  events : List Event
  state : State

namespace World

/-- Begins something on the current connection. -/
def onConnection (w : World) (f : World → Nat → World) : World :=
  match w.connection with
  | some s => f w s
  | none => w.finish .noConnection

def begin (w : World) : Step → World
  | .advance ms => { w with call := .sleep (w.now + ms) }
  | .act a => (w.perform [a]).1.finish .nothing
  | .endRegistration r => (w.endRegistration r).finish .nothing
  | .onWork handler => { w with handler }.finish .nothing
  | .connect address => w.placeOwn (.connect address) (.connect address)
  | .manager config published => w.beginManager config published
  | .start => w.beginStart
  | .template session => w.beginTemplate session
  | .shutdown => w.beginShutdown
  | .dropManager =>
    if w.manager.isNone then w.finish .noManager else w.dropManager.finish .nothing
  | .feed staleness sync reconnect =>
    w.onConnection fun w s =>
      let address := (w.supervisors[s]?.map (·.address)).getD Node.Address.standard
      let (w, i) := w.spawnFeed s {
        address
        maxWorkStaleness := staleness
        syncRetryInterval := sync
        reconnectRetryInterval := reconnect }
      { w with lastFeed := some i }.finish .nothing
  | .poller settings published =>
    w.onConnection fun w s =>
      let (w, i) := w.spawnPoller s settings published
      { w with lastPoller := some i }.finish .nothing
  | .sample window =>
    w.onConnection fun w s => w.sampleTurn s window (.start (w.slot s))
  | .waitForSync retryInterval verbose =>
    w.onConnection fun w s =>
      let address := (w.supervisors[s]?.map (·.address)).getD Node.Address.standard
      { w with call := .sync s { monitor := ⟨address, retryInterval⟩, verbose } }
  | .reconnect several =>
    w.onConnection fun w s =>
      let (w, attempts) := w.lineUp s (several.getD 1)
      attemptsTurn s several.isSome w [] attempts
  | .close =>
    w.onConnection fun w s =>
      let (w, ticket) := w.ask s .close
      { w with call := .close s ticket }

/-! ### Time -/

/-- The task that goes on next, if one can. -/
def nextTask? (w : World) : Option TaskId :=
  (((List.range w.feeds.length).map TaskId.feed) ++
    ((List.range w.pollers.length).map TaskId.poller)).find? w.taskReady

/-- Lets everything happen that can happen now, in at most `fuel` turns of either kind. -/
def settle : Nat → World → World
  | 0, w => w
  | fuel + 1, w =>
    if w.callReady then settle fuel w.callTurn
    else
      match w.nextTask? with
      | some t => settle fuel (runTask fuel w t)
      | none => w

/-- When a feed is due. -/
def feedDue (t : FeedTask) : List Nat :=
  let pending := (t.pending.bind (·.due)).toList
  match t.feed.point with
  | .resting wakeAt => [wakeAt]
  | .degraded wakeAt => [wakeAt]
  | .awaiting => (t.feed.ticker.map (·.due)).toList
  | _ => pending

def pollerDue (t : PollerTask) : List Nat :=
  match t.poller.point with
  | .ticking => (t.poller.ticker.map (·.due)).toList
  | _ => (t.pending.bind (·.due)).toList

def callDue (w : World) : List Nat :=
  let wait (wait : Sync.Wait) : List Nat := match wait.point with
    | .resting wakeAt => [wakeAt]
    | _ => []
  (w.pending.bind (·.due)).toList ++
    match w.call with
    | .sleep wakeAt => [wakeAt]
    | .start => w.startWait?.toList.flatMap wait
    | .sync _ x => wait x
    | _ => []

/-- The next time, after now, at which something is due. -/
def nextDue? (w : World) : Option Nat :=
  ((w.feeds.flatMap feedDue ++ w.pollers.flatMap pollerDue ++ w.callDue ++ w.cancelTimes).filter
    (w.now < ·)).min?

def isDone (w : World) : Bool :=
  match w.call with
  | .done _ => true
  | _ => false

/-- The number of turns that are given at one time at most. -/
def turns : Nat := 1000000

/-- Lets time go on until the call is over, up to the deadline, over at most `fuel` times. -/
def runCall (deadline : Option Nat) : Nat → World → World
  | 0, w => w
  | fuel + 1, w =>
    if w.isDone then w
    else if deadline.any (· ≤ w.now) then
      settle turns ((w.dropCall).finish .unfinished)
    else
      match (w.nextDue?.toList ++ deadline.toList).min? with
      | none => w
      | some t =>
        let w := { w with now := t }.cancelIfDue
        let w := if w.callReady then w.callTurn else w
        if !w.isDone && deadline.any (· ≤ w.now) && !w.callReady then
          settle turns ((w.dropCall).finish .unfinished)
        else runCall deadline fuel (settle turns w)

/-- Lets everything happen that can happen now, and then time go on from point to point until
something holds, over at most `fuel` points. -/
def follow (stop : World → Bool) : Nat → World → World
  | 0, w => settle turns w
  | fuel + 1, w =>
    let w := settle turns w
    if stop w then w
    else
      match w.nextDue? with
      | some t => follow stop fuel { w with now := t }.cancelIfDue
      | none => w

/-! ### Reports -/

def standing (w : World) (t : Option TaskId) : Standing :=
  match t with
  | none => .none
  | some t =>
    match w.ended? t with
    | none => .running
    | some false => .stopped
    | some true => .broken

def state (w : World) : State :=
  { time := w.now
    connection := (w.connection.bind (w.supervisors[·]?)).map fun s => ⟨s.connected, s.slot⟩
    registrations := w.registrations.map (·.active)
    feed := w.standing (w.lastFeed.map .feed)
    poller := w.standing (w.lastPoller.map .poller) }

def result (w : World) : StepResult :=
  match w.call with
  | .done r => r
  | _ => .unfinished

/-- Runs one step and reports what happened. -/
def runStep (w : World) (s : TimedStep) : World × Report :=
  let w := { w with
    events := []
    cancelTimes := w.cancelTimes ++ (s.cancelAfter.map (w.now + ·)).toList }
  let deadline := match s.step with
    | .advance _ => none
    | _ => some (w.now + s.timeout)
  let w := runCall deadline turns (settle turns (w.begin s.step))
  (w, { result := w.result, events := w.events.reverse, state := w.state })

/-- Runs steps one after the other. -/
def runSteps (w : World) : List TimedStep → World × List Report
  | [] => (w, [])
  | s :: rest =>
    let (w, r) := w.runStep s
    let (w, rs) := w.runSteps rest
    (w, r :: rs)

end World

/-- Runs a scenario from the beginning: a report of each step, and the metrics at the end. -/
def run (steps : List TimedStep) : List Report × Metrics.Registry :=
  let (w, reports) := ({} : World).runSteps steps
  (reports, w.metrics)

end WorkBridge.Scenario
