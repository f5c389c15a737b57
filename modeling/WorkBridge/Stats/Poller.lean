import WorkBridge.Binary64.Shortest
import WorkBridge.Clock.Span
import WorkBridge.Clock.Ticker
import WorkBridge.Log
import WorkBridge.Node.Client
import WorkBridge.Stats.Error

/-!
Sampling the network, once and again and again.

A sample is taken in two requests on one client: the state of the block graph, then an
estimate of the hash rate from its first tip.  The poller takes a sample whenever its ticker
is due and hands the good ones to a recorder; a failure is told and changes nothing.
-/

namespace WorkBridge.Stats

open Node (ClientId)

structure Sample where
  hashesPerSecond : Binary64
  blockCount : Nat
  difficulty : Binary64
deriving DecidableEq, Inhabited

/-- A sample as log entries show it. -/
def Sample.text (s : Sample) : String :=
  "NetworkStatsSample \x7b hashes_per_second: " ++ s.hashesPerSecond.shown ++ ", block_count: " ++
    toString s.blockCount ++ ", difficulty: " ++ s.difficulty.shown ++ " \x7d"

/-- What is left to do for a sample. -/
inductive Progress
  | askDag (client : ClientId)
  | askEstimate (client : ClientId) (info : Node.DagInfo) (tip : String)
  | done (r : Except Error Sample)

namespace Progress

/-- Begins a sample with the client that is there. -/
def start : Option ClientId → Progress
  | some c => .askDag c
  | none => .done (.error .notConnected)

/-- Goes on with the state of the block graph. -/
def onDag (client : ClientId) : Except Node.ClientError Node.DagInfo → Progress
  | .error e => .done (.error (.dagInfo e))
  | .ok info =>
    match info.tipHashes with
    | tip :: _ => .askEstimate client info tip
    | [] => .done (.error .noTipHashes)

/-- Ends with an estimate of the hash rate. -/
def onEstimate (info : Node.DagInfo) : Except Node.ClientError Nat → Progress
  | .error e => .done (.error (.hashRate e))
  | .ok rate => .done (.ok ⟨Binary64.ofNat rate, info.blockCount, info.difficulty⟩)

/-- The request that is to be made next. -/
def request? (window : Nat) : Progress → Option Node.Request
  | .askDag c => some (.getDagInfo c)
  | .askEstimate c _ tip => some (.estimateHashRate c tip window)
  | .done _ => none

end Progress

namespace Poller

structure Settings where
  interval : Span
  window : Nat
deriving DecidableEq, Inhabited

inductive Point
  | ready
  | ticking
  | sampling (p : Progress)
  /-- The recorder runs. -/
  | recording
  | stopped
  | failed

end Poller

structure Poller where
  settings : Poller.Settings
  point : Poller.Point := .ready
  ticker : Option Ticker := none
  cancelled : Bool := false

namespace Poller

inductive Answer
  | dag (r : Except Node.ClientError Node.DagInfo)
  | estimate (r : Except Node.ClientError Nat)
  /-- The recorder has returned. -/
  | recorded
  | crashed

inductive Stimulus
  | cancel
  | abort
  | turn (now : Nat) (slot : Option ClientId) (answer : Option Answer)

inductive Output
  | log (e : LogEntry)
  | request (r : Node.Request)
  | abandon
  | record (s : Sample)

def entry (level : Level) (message : String) (fields : List (String × String)) : LogEntry :=
  { level, target := "bridge::stats", message, fields }

def stop (p : Poller) : Poller × List Output :=
  ({ p with point := .stopped }, [.log (entry .info "Network stats poller stopped" [])])

def fail (p : Poller) : Poller × List Output := ({ p with point := .failed }, [])

/-- Waits for the next tick. -/
def awaitTick (p : Poller) : Poller × List Output :=
  if p.cancelled then p.stop else ({ p with point := .ticking }, [])

/-- Goes on with a sample. -/
def proceed (p : Poller) (s : Progress) : Poller × List Output :=
  match s with
  | .done (.ok sample) =>
    ({ p with point := .recording },
      [.log (entry .debug "Sampled network stats" [("sample", sample.text)]), .record sample])
  | .done (.error e) =>
    let (p', out) := p.awaitTick
    (p', .log (entry .warn "Failed to sample network stats" [("err", e.message)]) :: out)
  | s => ({ p with point := .sampling s }, ((s.request? p.settings.window).map .request).toList)

/-- Takes a tick, and a sample. -/
def sample (p : Poller) (now : Nat) (slot : Option ClientId) : Poller × List Output :=
  match p.ticker.bind (·.tick? now) with
  | some ticker => { p with ticker := some ticker }.proceed (.start slot)
  | none => p.fail

def abandoning (next : Poller × List Output) : Poller × List Output :=
  (next.1, .abandon :: next.2)

def turn (p : Poller) (now : Nat) (slot : Option ClientId) (answer : Option Answer) :
    Poller × List Output :=
  match p.point with
  | .ready =>
    let hello := Output.log
      (entry .info "Starting network stats poller" [("interval", p.settings.interval.text)])
    let (p', out) := match Ticker.start? now p.settings.interval.toMillis with
      | some ticker => { p with ticker := some ticker }.awaitTick
      | none => p.fail
    (p', hello :: out)
  | .ticking =>
    if p.cancelled then p.stop
    else if p.ticker.any (·.ready now) then p.sample now slot
    else (p, [])
  | .sampling s =>
    if p.cancelled then abandoning p.stop
    else
      match s, answer with
      | .askDag c, some (.dag r) => p.proceed (.onDag c r)
      | .askEstimate _ info _, some (.estimate r) => p.proceed (.onEstimate info r)
      | _, some .crashed => p.fail
      | _, _ => (p, [])
  | .recording =>
    match answer with
    | some .recorded => p.awaitTick
    | some .crashed => p.fail
    | _ => (p, [])
  | .stopped => (p, [])
  | .failed => (p, [])

def isEnded (p : Poller) : Bool :=
  match p.point with
  | .stopped => true
  | .failed => true
  | _ => false

def step (p : Poller) : Stimulus → Poller × List Output
  | .cancel => ({ p with cancelled := true }, [])
  | .abort => if p.isEnded then (p, []) else abandoning p.fail
  | .turn now slot answer => p.turn now slot answer

end Poller
end WorkBridge.Stats
