import WorkBridge.Scenario.World

/-!
Turns of the tasks.

A task that can go on gets a turn: the reply that has come is handed to it, and what it does
is done to the world.  `World.runTask` goes on while the task can, as nothing else happens
while a task has its turn.
-/

namespace WorkBridge.Scenario.World

/-! ### Feeds -/

/-- Whether a feed can go on. -/
def feedReady (w : World) (t : FeedTask) : Bool :=
  match t.feed.point with
  | .ready => true
  | .handling => true
  | .stopped => false
  | .failed => false
  | .registering _ => t.feed.cancelled || w.arrived t.pending
  | .checking => t.feed.cancelled || w.arrived t.pending
  | .resting wakeAt => t.feed.cancelled || wakeAt ≤ w.now
  | .degraded wakeAt => t.feed.cancelled || wakeAt ≤ w.now
  | .reconnecting => t.feed.cancelled || w.canSupervise t.supervisor t.ticket t.pending
  | .awaiting =>
    t.feed.cancelled || t.feed.signal.isWoken || t.feed.ticker.any (·.ready w.now)

/-- What a feed has been waiting for, if it has come. -/
def feedAnswer (w : World) (i : Nat) (t : FeedTask) : World × Option Feed.Answer :=
  let clear (w : World) : World := w.modifyFeed i fun t => { t with pending := none }
  match t.feed.point with
  | .handling =>
    let (w, returned) := w.handle
    (w, some (if returned then .handled else .crashed))
  | .registering _ =>
    if t.feed.cancelled || !w.arrived t.pending then (w, none)
    else
      match t.pending with
      | none => (w, none)
      | some p =>
        let (w, r) := (clear w).receive p
        match r with
        | none => (w, some .crashed)
        | some (.error e) => (w, some (.registered (.error e)))
        | some (.ok _) =>
          let (w, g) := w.grant i (!p.reply.dead)
          (w, some (.registered (.ok g)))
  | .checking =>
    if t.feed.cancelled || !w.arrived t.pending then (w, none)
    else
      match t.pending with
      | none => (w, none)
      | some p =>
        let (w, r) := (clear w).receive p
        match r with
        | none => (w, some .crashed)
        | some r => (w, some (.info (r.map Payload.asInfo)))
  | .reconnecting =>
    if t.feed.cancelled || !w.canSupervise t.supervisor t.ticket t.pending then (w, none)
    else
      let (w, progress) := (clear w).goOn t.supervisor t.ticket t.pending
      match progress with
      | .waiting pending => (w.modifyFeed i fun t => { t with pending }, none)
      | .finished (.reconnected r) => (w, some (.reconnected r))
      | .finished .closed => (w, none)
      | .crashed => (w, some .crashed)
  | _ => (w, none)

def feedRequest (w : World) (i : Nat) (r : Node.Request) : World :=
  let (w, p) := w.place r
  w.modifyFeed i fun t => { t with pending := some p }

/-- Does what a feed does. -/
def feedOutput (i s : Nat) (w : World) : Feed.Output → World
  | .log e => w.log e
  | .update u => w.update u
  | .register c => w.feedRequest i (.register c)
  | .query c => w.feedRequest i (.getInfo c)
  | .reconnect =>
    let (w, ticket) := w.ask s .reconnect
    w.modifyFeed i fun t => { t with ticket }
  | .abandon =>
    match w.feeds[i]? with
    | some t => (w.dropTicket s t.ticket).modifyFeed i fun t => { t with pending := none }
    | none => w
  | .release r => w.release r
  | .work _ =>
    let w := { w with works := w.works + 1 }
    w.emit (.work w.works)

/-- Lets a feed act, and does what it does. -/
def stepFeed (w : World) (i : Nat) (stimulus : Feed.Stimulus) : World :=
  match w.feeds[i]? with
  | none => w
  | some t =>
    let (feed, out) := t.feed.step stimulus
    out.foldl (feedOutput i t.supervisor) (w.modifyFeed i fun t => { t with feed })

def feedTurn (w : World) (i : Nat) : World :=
  match w.feeds[i]? with
  | none => w
  | some t =>
    let (w, answer) := w.feedAnswer i t
    w.stepFeed i (.turn w.now (w.slot t.supervisor) answer)

/-! ### Pollers -/

def pollerReady (w : World) (t : PollerTask) : Bool :=
  match t.poller.point with
  | .ready => true
  | .recording => true
  | .stopped => false
  | .failed => false
  | .ticking => t.poller.cancelled || t.poller.ticker.any (·.ready w.now)
  | .sampling _ => t.poller.cancelled || w.arrived t.pending

def pollerAnswer (w : World) (i : Nat) (t : PollerTask) : World × Option Stats.Poller.Answer :=
  match t.poller.point with
  | .recording => (w, some .recorded)
  | .sampling s =>
    if t.poller.cancelled || !w.arrived t.pending then (w, none)
    else
      match t.pending with
      | none => (w, none)
      | some p =>
        let (w, r) := (w.modifyPoller i fun t => { t with pending := none }).receive p
        match r, s with
        | none, _ => (w, some .crashed)
        | some r, .askDag _ => (w, some (.dag (r.map Payload.asDag)))
        | some r, _ => (w, some (.estimate (r.map Payload.asRate)))
  | _ => (w, none)

def pollerOutput (i : Nat) (published : Bool) (w : World) : Stats.Poller.Output → World
  | .log e => w.log e
  | .request r =>
    let (w, p) := w.place r
    w.modifyPoller i fun t => { t with pending := some p }
  | .abandon => w.modifyPoller i fun t => { t with pending := none }
  | .record s =>
    let w := w.emit (.record s)
    if published then w.update (.network s.hashesPerSecond s.blockCount s.difficulty) else w

def stepPoller (w : World) (i : Nat) (stimulus : Stats.Poller.Stimulus) : World :=
  match w.pollers[i]? with
  | none => w
  | some t =>
    let (poller, out) := t.poller.step stimulus
    out.foldl (pollerOutput i t.published) (w.modifyPoller i fun t => { t with poller })

def pollerTurn (w : World) (i : Nat) : World :=
  match w.pollers[i]? with
  | none => w
  | some t =>
    let (w, answer) := w.pollerAnswer i t
    w.stepPoller i (.turn w.now (w.slot t.supervisor) answer)

/-! ### Tasks of either kind -/

def taskReady (w : World) : TaskId → Bool
  | .feed i => w.feeds[i]?.any w.feedReady
  | .poller i => w.pollers[i]?.any w.pollerReady

def taskTurn (w : World) : TaskId → World
  | .feed i => w.feedTurn i
  | .poller i => w.pollerTurn i

/-- Gives a task turns while it can go on, at most `fuel` of them. -/
def runTask : Nat → World → TaskId → World
  | 0, w, _ => w
  | fuel + 1, w, t => if w.taskReady t then runTask fuel (w.taskTurn t) t else w

/-- How a task has ended: whether it broke off. -/
def ended? (w : World) : TaskId → Option Bool
  | .feed i =>
    match w.feeds[i]? with
    | some { feed := { point := .stopped, .. }, .. } => some false
    | some { feed := { point := .failed, .. }, .. } => some true
    | _ => none
  | .poller i =>
    match w.pollers[i]? with
    | some { poller := { point := .stopped, .. }, .. } => some false
    | some { poller := { point := .failed, .. }, .. } => some true
    | _ => none

/-- Throws a task away. -/
def abortTask (w : World) : TaskId → World
  | .feed i => w.stepFeed i .abort
  | .poller i => w.stepPoller i .abort

/-- Starts a feed on a connection. -/
def spawnFeed (w : World) (s : Nat) (settings : Feed.Settings) : World × Nat :=
  ({ w with feeds := w.feeds ++
    [{ feed := { settings, cancelled := w.cancelled }, supervisor := s }] }, w.feeds.length)

/-- Starts a poller on a connection. -/
def spawnPoller (w : World) (s : Nat) (settings : Stats.Poller.Settings) (published : Bool) :
    World × Nat :=
  ({ w with pollers := w.pollers ++
    [{ poller := { settings, cancelled := w.cancelled }, supervisor := s, published }] },
    w.pollers.length)

end WorkBridge.Scenario.World
