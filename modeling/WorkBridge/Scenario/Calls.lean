import WorkBridge.Scenario.Tasks

/-!
The caller's own calls: connecting, and everything that is done with a connection or a
manager.

A call is begun at once and then goes on whenever it can.
-/

namespace WorkBridge.Scenario.World

def finish (w : World) (r : StepResult) : World := { w with call := .done r, pending := none }

/-- Makes a request for the caller. -/
def placeOwn (w : World) (call : Call) (r : Node.Request) : World :=
  let (w, p) := w.place r
  { w with call, pending := some p }

/-! ### Connecting -/

/-- Takes a client that was made into a new supervisor. -/
def addSupervisor (w : World) (address : Node.Address) : World × Nat :=
  let (w, client) := w.newClient
  let (x, effects) := Connection.Supervisor.new address client
  let index := w.supervisors.length
  let w := { w with supervisors := w.supervisors ++ [x] }
  ((w.applyEffects (.waiting none) effects).1, index)

/-- Throws the manager away with its tasks. -/
def dropManager (w : World) : World :=
  match w.manager with
  | none => w
  | some m => { m.tasks.foldl abortTask w with manager := none }

def beginManager (w : World) (config : Config) (published : Bool) : World :=
  match config.check with
  | .error e => w.finish (.managed (.error (.invalidConfig e)))
  | .ok config =>
    (w.update .serviceZero).placeOwn (.manager config published) (.connect config.address)

/-! ### Waiting for sync -/

/-- Gives a wait its turn. -/
def waitTurn (w : World) (s : Nat) (wait : Sync.Wait)
    (answer : Option (Except Node.ClientError Node.Info)) : World × Sync.Wait :=
  let (wait, out) :=
    wait.step { now := w.now, cancelled := w.cancelled, slot := w.slot s, answer }
  let apply (w : World) : Sync.Wait.Output → World
    | .log e => w.log e
    | .ask c =>
      let (w, p) := w.place (.getInfo c)
      { w with pending := some p }
  (out.foldl apply w, wait)

/-- Whether a wait can go on. -/
def waitReady (w : World) (wait : Sync.Wait) : Bool :=
  match wait.point with
  | .ready => true
  | .asking _ => w.arrived w.pending
  | .resting wakeAt => w.cancelled || wakeAt ≤ w.now
  | .done _ => true

/-- The answer that a wait waits for, if it has come. -/
def waitAnswer (w : World) (wait : Sync.Wait) :
    World × Option (Except Node.ClientError Node.Info) :=
  match wait.point, w.pending with
  | .asking _, some p =>
    let (w, r) := { w with pending := none }.receive p
    (w, r.map fun r => r.map Payload.asInfo)
  | _, _ => (w, none)

/-! ### The manager -/

def modifyManaged (w : World) (f : Managed → Managed) : World :=
  { w with manager := w.manager.map f }

/-- Does what a manager does. -/
def managerOutput (m : Managed) (w : World) : Manager.Output → World
  | .log e => w.log e
  | .query c =>
    let (w, p) := w.place (.getInfo c)
    { w with pending := some p }
  | .spawnFeed _ s =>
    let (w, i) := w.spawnFeed m.supervisor s
    w.modifyManaged fun m => { m with feed := some i }
  | .spawnPoller _ s =>
    let (w, i) := w.spawnPoller m.supervisor s m.published
    w.modifyManaged fun m => { m with poller := some i }
  | .cancel _ => w.cancel
  | .close =>
    let (w, ticket) := w.ask m.supervisor .close
    { w with call := .shutdown ticket }
  | .started r => w.finish (.started r)
  | .stopped => w.finish .closed

/-- Lets an event happen to a manager, and does what it does. -/
def stepManager (w : World) (m : Managed) (e : Manager.Event) : World :=
  let (manager, out) := m.manager.step e
  out.foldl (managerOutput m) (w.modifyManaged fun m => { m with manager })

/-- Begins a call on the manager. -/
def onManager (w : World) (call : Call) (e : Manager.Event) : World :=
  match w.manager with
  | none => w.finish .noManager
  | some m => { w with call }.stepManager m e

/-- All tasks of a world have one token, which is the only one. -/
def onlyToken : Manager.Token := 0

def beginStart (w : World) : World := w.onManager .start (.start onlyToken)

def beginShutdown (w : World) : World := w.onManager .join .shutDown

def beginTemplate (w : World) (session : Session) : World :=
  match w.manager with
  | none => w.finish .noManager
  | some m =>
    match Manager.templateRequest session (w.slot m.supervisor) with
    | .error e => w.finish (.template (.error e))
    | .ok r => w.placeOwn .template r

/-- The wait of a start that is under way. -/
def startWait? (w : World) : Option Sync.Wait :=
  match w.manager with
  | some { manager := { call := .starting _ wait, .. }, .. } => some wait
  | _ => none

/-- Gives the start of a manager its turn. -/
def startTurn (w : World) (m : Managed) (wait : Sync.Wait) : World :=
  let (w, answer) := w.waitAnswer wait
  w.stepManager m
    (.turn { now := w.now, cancelled := w.cancelled, slot := w.slot m.supervisor, answer })

/-- The ends of tasks that a manager has not seen. -/
def ends (w : World) (m : Managed) : List (Manager.Task × Bool) :=
  m.manager.tasks.filterMap fun t => ((m.taskId? t).bind w.ended?).map fun broken => (t, broken)

/-- Lets a manager see the ends of tasks. -/
def joinTurn (w : World) (m : Managed) : World :=
  (w.ends m).foldl
    (fun w (t, broken) =>
      match w.manager with
      | some m => w.stepManager m (.joined t broken)
      | none => w) w

/-! ### Calls on a connection -/

/-- Goes on with a sample. -/
def sampleTurn (w : World) (s window : Nat) (p : Stats.Progress) : World :=
  match p.request? window with
  | some r => w.placeOwn (.sample s window p) r
  | none =>
    match p with
    | .done r => w.finish (.sample r)
    | _ => w

/-- The results of attempts that are all over. -/
def results? (attempts : List Attempt) :
    Option (List (Except Node.Error Connection.Outcome)) :=
  attempts.mapM (·.result)

/-- Lets the attempts that can go on do so, in their order. -/
def attemptsTurn (s : Nat) (several : Bool) :
    World → List Attempt → List Attempt → World
  | w, done, [] =>
    let attempts := done.reverse
    match results? attempts with
    | none => { w with call := .reconnects s several attempts }
    | some rs =>
      if several then w.finish (.reconnectedAll rs)
      else
        match rs with
        | r :: _ => w.finish (.reconnected r)
        | [] => w.finish (.reconnectedAll [])
  | w, done, a :: rest =>
    if a.result.isNone ∧ w.canSupervise s a.ticket w.pending then
      let (w, progress) := { w with pending := none }.goOn s a.ticket w.pending
      match progress with
      | .waiting pending => attemptsTurn s several { w with pending } (a :: done) rest
      | .finished (.reconnected r) =>
        attemptsTurn s several w ({ a with result := some r } :: done) rest
      | _ => attemptsTurn s several w (a :: done) rest
    else attemptsTurn s several w (a :: done) rest

/-- Gets several reconnects in line. -/
def lineUp (w : World) (s : Nat) : Nat → World × List Attempt
  | 0 => (w, [])
  | n + 1 =>
    let (w, ticket) := w.ask s .reconnect
    let (w, rest) := w.lineUp s n
    (w, { ticket } :: rest)

/-! ### Turns -/

/-- Whether the caller's call can go on. -/
def callReady (w : World) : Bool :=
  match w.call with
  | .sleep wakeAt => wakeAt ≤ w.now
  | .connect _ => w.arrived w.pending
  | .manager _ _ => w.arrived w.pending
  | .start => w.startWait?.any w.waitReady
  | .template => w.arrived w.pending
  | .join => w.manager.any fun m => !(w.ends m).isEmpty
  | .shutdown ticket =>
    match w.manager with
    | some m => w.canSupervise m.supervisor ticket w.pending
    | none => false
  | .sample _ _ _ => w.arrived w.pending
  | .sync _ wait => w.waitReady wait
  | .reconnects s _ attempts =>
    attempts.any fun a => a.result.isNone && w.canSupervise s a.ticket w.pending
  | .close s ticket => w.canSupervise s ticket w.pending
  | .done _ => false

/-- Takes the reply that the caller waits for. -/
def ownReply (w : World) : World × Option (Except Node.ClientError Payload) :=
  match w.pending with
  | none => (w, none)
  | some p => { w with pending := none }.receive p

/-- Gives the caller's call its turn. -/
def callTurn (w : World) : World :=
  match w.call with
  | .sleep _ => w.finish .nothing
  | .connect address =>
    let (w, r) := w.ownReply
    match r with
    | none => w
    | some (.error e) => w.finish (.connected (.error (.connection address e)))
    | some (.ok _) =>
      let (w, s) := w.addSupervisor address
      { w with connection := some s }.finish (.connected (.ok address))
  | .manager config published =>
    let (w, r) := w.ownReply
    match r with
    | none => w
    | some (.error e) => w.finish (.managed (.error (.node (.connection config.address e))))
    | some (.ok _) =>
      let (w, s) := w.addSupervisor config.address
      let w := w.dropManager
      { w with
        connection := some s
        manager := some { manager := { config }, supervisor := s, published }
      }.finish (.managed (.ok config))
  | .start =>
    match w.manager, w.startWait? with
    | some m, some wait => w.startTurn m wait
    | _, _ => w
  | .template =>
    let (w, r) := w.ownReply
    match r with
    | none => w
    | some (.error e) => w.finish (.template (.error (.blockTemplate e)))
    | some (.ok p) => w.finish (.template (.ok p.asTemplate))
  | .join =>
    match w.manager with
    | none => w
    | some m => w.joinTurn m
  | .shutdown ticket =>
    match w.manager with
    | none => w
    | some m =>
      let (w, progress) := { w with pending := none }.goOn m.supervisor ticket w.pending
      match progress with
      | .waiting pending => { w with pending }
      | .finished _ => w.stepManager m .closed
      | .crashed => w
  | .sample s window p =>
    let (w, r) := w.ownReply
    match r with
    | none => w
    | some r =>
      match p with
      | .askDag c => w.sampleTurn s window (.onDag c (r.map Payload.asDag))
      | .askEstimate _ info _ => w.sampleTurn s window (.onEstimate info (r.map Payload.asRate))
      | .done _ => w
  | .sync s wait =>
    let (w, answer) := w.waitAnswer wait
    let (w, wait) := w.waitTurn s wait answer
    match wait.point with
    | .done r => w.finish (.synced r)
    | _ => { w with call := .sync s wait }
  | .reconnects s several attempts => attemptsTurn s several w [] attempts
  | .close s ticket =>
    let (w, progress) := { w with pending := none }.goOn s ticket w.pending
    match progress with
    | .waiting pending => { w with pending }
    | .finished _ => w.finish .closed
    | .crashed => w
  | .done _ => w

/-- The manager's call is given up. -/
def giveUp (w : World) : World :=
  match w.manager with
  | some m => w.stepManager m .giveUp
  | none => w

/-- Gives up the call that is under way. -/
def dropCall (w : World) : World :=
  let w := { w with pending := none }
  match w.call with
  | .start => w.giveUp
  | .join => w.giveUp
  | .shutdown ticket =>
    match w.manager with
    | some m => (w.dropTicket m.supervisor ticket).giveUp
    | none => w
  | .reconnects s _ attempts => attempts.foldl (fun w a => w.dropTicket s a.ticket) w
  | .close s ticket => w.dropTicket s ticket
  | _ => w

end WorkBridge.Scenario.World
