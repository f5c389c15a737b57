import WorkBridge.Feed.State

/-!
How a feed acts.

After its first attempt to register, which may fail, a feed goes round: it checks that the
node is synced, waits for a notification or for the ticker, and calls the handler.  When a
check fails it reconnects and checks again; when that fails too, or the reconnect does, it
pauses before the next check.  The handler is only ever called after a check that succeeded.

In every wait cancellation is looked at first, then the notification, then the ticker.
-/

namespace WorkBridge.Feed

open Node (ClientId)

/-- Gives up the registration that the feed holds. -/
def releaseHeld (f : Feed) : List Output :=
  match f.held with
  | some g => [.release g.id]
  | none => []

/-- Ends the task in good order. -/
def stop (f : Feed) : Feed × List Output :=
  ({ f with point := .stopped, held := none, signal := f.signal.leave },
    f.releaseHeld ++ [.log (entry .info "Block template feed stopped" [])])

/-- Ends the task where it is. -/
def fail (f : Feed) : Feed × List Output :=
  ({ f with point := .failed, held := none, signal := f.signal.leave }, f.releaseHeld)

/-- Pauses before the next sync check. -/
def backOff (f : Feed) (now : Nat) : Feed × List Output :=
  if f.cancelled then f.stop
  else
    ({ f with point := .degraded (now + f.settings.reconnectRetryInterval.toMillis) }, [])

def startReconnect (f : Feed) : Feed × List Output :=
  if f.cancelled then f.stop else ({ f with point := .reconnecting }, [.reconnect])

/-- New work: the handler is called. -/
def announce (f : Feed) (t : Trigger) : Feed × List Output :=
  ({ f with point := .handling }, [
    .log (entry .debug "New work available" [("trigger", t.text)]),
    .update (.workReady t),
    .work t])

/-- New work because of a notification, which lets a full period pass before the next tick. -/
def announcePush (f : Feed) (now : Nat) : Feed × List Output :=
  let f := { f with signal := f.signal.take }
  match f.ticker.bind (·.reset? now) with
  | some ticker => { f with ticker := some ticker }.announce .push
  | none => f.fail

/-- New work because the ticker was due. -/
def announceTick (f : Feed) (now : Nat) : Feed × List Output :=
  let f := { f with signal := f.signal.leave }
  match f.ticker.bind (·.tick? now) with
  | some ticker => { f with ticker := some ticker }.announce .timer
  | none => f.fail

/-- Looks for the first of the events that are waited for. -/
def lookForEvent (f : Feed) (now : Nat) : Feed × List Output :=
  if f.cancelled then f.stop
  else if f.signal.isWoken then f.announcePush now
  else if f.ticker.any (·.ready now) then f.announceTick now
  else (f, [])

/-- Begins to wait for an event. -/
def awaitEvent (f : Feed) (now : Nat) : Feed × List Output :=
  if f.cancelled then f.stop
  else { f with point := .awaiting, signal := f.signal.listen }.lookForEvent now

def checkFailed (f : Feed) (now : Nat) (e : Node.Error) : Feed × List Output :=
  let retry := f.settings.reconnectRetryInterval.text
  if f.reconnected then
    let (f', out) := { f with reconnected := false }.backOff now
    (f', .log (entry .warn "Node sync check failed right after reconnecting"
      [("err", e.message), ("retry_in", retry)]) :: out)
  else
    let (f', out) := f.startReconnect
    (f', .log (entry .warn "Node sync check failed, reconnecting" [("err", e.message)]) :: out)

/-- Asks the client that is there whether the node is synced. -/
def query (f : Feed) (now : Nat) (slot : Option ClientId) : Feed × List Output :=
  match slot with
  | some c => ({ f with point := .checking }, [.query c])
  | none => f.checkFailed now .notConnected

/-- Begins a sync check. -/
def check (f : Feed) (now : Nat) (slot : Option ClientId) : Feed × List Output :=
  if f.cancelled then f.stop else f.query now slot

/-- Goes on after the node has answered a sync check. -/
def checked (f : Feed) (now : Nat) (r : Except Node.ClientError Node.Info) :
    Feed × List Output :=
  let m := f.settings.monitor
  match m.judge r with
  | .synced => { f with reconnected := false }.awaitEvent now
  | .failed e => f.checkFailed now e
  | .notSynced => ({ f with point := .resting (m.retryAt now) }, [.log m.notSyncedEntry])

/-- Makes the ticker and begins the first sync check. -/
def startTicking (f : Feed) (now : Nat) (slot : Option ClientId) : Feed × List Output :=
  match Ticker.start? now f.settings.maxWorkStaleness.toMillis with
  | some ticker => { f with ticker := some ticker }.check now slot
  | none => f.fail

/-- Goes on without the registration that was under way when the feed was cancelled. -/
def registrationCancelled (f : Feed) (now : Nat) : Purpose → Feed × List Output
  | .first =>
    match Ticker.start? now f.settings.maxWorkStaleness.toMillis with
    | some ticker => { f with ticker := some ticker }.stop
    | none => f.fail
  | .renewal => f.stop

/-- Takes a new registration in place of the one held before. -/
def hold (f : Feed) (r : Except Node.Error Grant) : Feed × List Output × Mode :=
  match r with
  | .ok g =>
    ({ f with held := some g }, f.releaseHeld ++ [
      .log (entry .info "Registered for new block template notifications" []),
      .update (.pushEnabled true)], .push)
  | .error e =>
    ({ f with held := none }, f.releaseHeld ++ [
      .log (entry .error
        "Failed to register for new block template notifications, running on the fallback ticker only"
        [("err", e.message), ("fallback_interval", f.settings.maxWorkStaleness.text)]),
      .update (.pushEnabled false)], .timerOnly)

/-- Goes on after an attempt to register has ended. -/
def registered (f : Feed) (now : Nat) (slot : Option ClientId) (p : Purpose)
    (r : Except Node.Error Grant) : Feed × List Output :=
  let (f, out, mode) := f.hold r
  match p with
  | .first =>
    let (f, rest) := f.startTicking now slot
    (f, out ++
      .log (entry .debug "Block template feed mode" [("mode", mode.text)]) :: rest)
  | .renewal =>
    let (f, rest) := f.check now slot
    (f, out ++ rest)

def register (f : Feed) (now : Nat) (slot : Option ClientId) (p : Purpose) :
    Feed × List Output :=
  if f.cancelled then f.registrationCancelled now p
  else
    match slot with
    | some c => ({ f with point := .registering p }, [.register c])
    | none => f.registered now slot p (.error .notConnected)

/-- Goes on after a reconnect has ended. -/
def reconnectEnded (f : Feed) (now : Nat) (slot : Option ClientId)
    (r : Except Node.Error Connection.Outcome) : Feed × List Output :=
  match r with
  | .ok o =>
    let f := { f with reconnected := true }
    if o = .replaced ∨ !f.pushActive then f.register now slot .renewal else f.check now slot
  | .error e =>
    let (f', out) := f.backOff now
    (f', .log (entry .warn "Failed to reconnect to node"
      [("err", e.message), ("retry_in", f.settings.reconnectRetryInterval.text)]) :: out)

/-- Stops waiting for an answer and goes on as `next` says. -/
def abandoning (next : Feed × List Output) : Feed × List Output := (next.1, .abandon :: next.2)

def turn (f : Feed) (now : Nat) (slot : Option ClientId) (answer : Option Answer) :
    Feed × List Output :=
  match f.point with
  | .ready =>
    let (f', out) := f.register now slot .first
    (f', .log (entry .info "Starting block template feed"
      [("max_work_staleness", f.settings.maxWorkStaleness.text)]) :: out)
  | .registering p =>
    if f.cancelled then abandoning (f.registrationCancelled now p)
    else
      match answer with
      | some (.registered r) => f.registered now slot p (r.mapError .registration)
      | some .crashed => abandoning f.fail
      | _ => (f, [])
  | .checking =>
    if f.cancelled then abandoning f.stop
    else
      match answer with
      | some (.info r) => f.checked now r
      | some .crashed => abandoning f.fail
      | _ => (f, [])
  | .resting wakeAt =>
    if f.cancelled then f.stop
    else if wakeAt ≤ now then f.query now slot
    else (f, [])
  | .reconnecting =>
    if f.cancelled then abandoning f.stop
    else
      match answer with
      | some (.reconnected r) => f.reconnectEnded now slot r
      | some .crashed => abandoning f.fail
      | _ => (f, [])
  | .awaiting => f.lookForEvent now
  | .handling =>
    match answer with
    | some .handled => f.check now slot
    | some .crashed => f.fail
    | _ => (f, [])
  | .degraded wakeAt =>
    if f.cancelled then f.stop
    else if wakeAt ≤ now then f.check now slot
    else (f, [])
  | .stopped => (f, [])
  | .failed => (f, [])

/-- Marks the registration that has ended. -/
def lapse (f : Feed) (id : Nat) : Feed :=
  match f.held with
  | some g => if g.id = id then { f with held := some { g with active := false } } else f
  | none => f

/-- Throws the task away: what it holds is given up, and nothing is said. -/
def abort (f : Feed) : Feed × List Output :=
  if f.isEnded then (f, []) else abandoning f.fail

def step (f : Feed) : Stimulus → Feed × List Output
  | .cancel => ({ f with cancelled := true }, [])
  | .notify => ({ f with signal := f.signal.notify }, [])
  | .lapse id => (f.lapse id, [])
  | .abort => f.abort
  | .turn now slot answer => f.turn now slot answer

end WorkBridge.Feed
