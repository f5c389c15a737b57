import WorkBridge.Log.Line
import WorkBridge.Log.Sink
import WorkBridge.Options.Arguments
import WorkBridge.Program.Failure
import WorkBridge.Scenario.Run

/-!
A run of the program, from its options to its end.

Metrics are served first, if they are wanted; then the configuration is looked at, the node is
connected to, and work begins once the node is synced.  An interruption ends the work in good
order; before it the run ends only with a failure.
-/

namespace WorkBridge.Program

open Scenario (Happening World)

/-- The program is interrupted when a text has been in so many lines of its output. -/
structure Interruption where
  text : String
  count : Nat
deriving DecidableEq, Inhabited

/-- What a run finds. -/
structure Surroundings where
  environment : String → Option String
  node : Dialogue.Server
  interruption : Option Interruption := none

/-- What is left of a run. -/
structure Outcome where
  exitCode : Nat
  /-- The lines of the output. -/
  output : List String := []
  /-- What is told of a failure. -/
  complaint : String := ""
  received : List Dialogue.Received := []
  /-- The metrics just before the interruption. -/
  metrics : Option Metrics.Registry := none

/-! ### Output -/

/-- Where entries are shown, if they are. -/
structure Console where
  format : Option Log.Format
  filter : Log.Filter

def programEntry (message : String) : LogEntry :=
  { level := .info, target := "bridge", message }

/-- The entry of a happening. -/
def entry? : Happening → Option LogEntry
  | .log e => some e
  | .work _ => some (programEntry "New block template available")
  | .request _ => none
  | .record _ => none

namespace Console

def line? (c : Console) (h : Happening) : Option String := do
  let format ← c.format
  let e ← entry? h
  if c.filter.allows e.target e.level then some (format.line e) else none

def lines (c : Console) (w : World) : List String :=
  w.events.reverse.filterMap fun e => c.line? e.what

/-- Whether a text stands somewhere in another. -/
def isWithin (text : List Char) : List Char → Bool
  | [] => text.isEmpty
  | c :: cs => text.isPrefixOf (c :: cs) || isWithin text cs

/-- Whether it is time for the interruption. -/
def isTime (c : Console) (w : World) (i : Interruption) : Bool :=
  i.count ≤ (c.lines w).countP fun line => isWithin i.text.toList line.toList

end Console

/-! ### Phases -/

/-- More points in time than a run is followed over. -/
def points : Nat := 1000

def result (w : World) : Scenario.StepResult :=
  match w.call with
  | .done r => r
  | _ => .unfinished

/-- Serves metrics, if they are wanted. -/
def serve (e : Metrics.Endpoint) (w : World) : Except Failure World :=
  if !e.enabled then .ok w
  else if !e.isOwn then .error .metrics
  else
    let w := w.log {
      level := .info
      target := "bridge::cli"
      message := "Serving Prometheus metrics"
      fields := [("addr", e.text)] }
    .ok ((w.update .serviceZero).update .version)

/-- Connects to the node. -/
def connect (config : Config) (w : World) : World × Option Failure :=
  let w := (w.beginManager config true).follow (·.isDone) points
  match result w with
  | .managed (.error e) => (w, some (.manager e))
  | _ => (w, none)

/-- Begins the work, and goes on with it until it is interrupted. -/
def work (isTime : World → Bool) (w : World) : World × Option Failure :=
  let w := w.beginStart.follow (fun w => w.isDone || isTime w) points
  match result w with
  | .started (.error e) => (w, some (.manager e))
  | .started (.ok ()) => (w.follow isTime points, none)
  | _ => (w.dropCall, none)

/-- Ends the work in good order. -/
def shutDown (w : World) : World :=
  let w := (w.log (programEntry "Ctrl+C received, initiating shutdown...")).beginShutdown
  (w.follow (·.isDone) points).log (programEntry "Bridge shut down gracefully.")

/-! ### The run -/

/-- The world before anything happens. -/
def world (node : Dialogue.Server) (requestTimeout : Nat) : World :=
  { wire := some { dialogue := { server := node }, requestTimeout } }

/-- What is left after a world has come to its end. -/
def outcome (c : Console) (w : World) (failure : Option Failure)
    (metrics : Option Metrics.Registry) : Outcome where
  exitCode := if failure.isSome then 1 else 0
  output := c.lines w
  complaint := (failure.map (·.text)).getD ""
  received := (w.wire.map (·.dialogue.received.reverse)).getD []
  metrics := metrics

/-- A run with options that are known. -/
def runWith (s : Surroundings) (a : Options.Arguments) : Outcome :=
  let console : Console := ⟨a.log.stdout, a.log.filter (s.environment "RUST_LOG")⟩
  let w := world s.node (Span.ofSeconds (a.value .requestTimeout)).toMillis
  match serve a.metrics w with
  | .error e => outcome console w (some e) none
  | .ok w =>
    match a.config with
    | .error e => outcome console w (some (.config e)) none
    | .ok config =>
      match connect config w with
      | (w, some e) => outcome console w (some e) none
      | (w, none) =>
        match work (fun w => s.interruption.any (console.isTime w)) w with
        | (w, some e) => outcome console w (some e) none
        | (w, none) => outcome console (shutDown w) none (some w.metrics)

/-- What a run leaves that does not follow its options. -/
def divert (u : Options.Usage) : Outcome :=
  if u.message?.isSome then { exitCode := u.exitCode, complaint := u.text }
  else { exitCode := u.exitCode, output := [u.text] }

/-- A run of the program. -/
def run (s : Surroundings) (args : List String) : Outcome :=
  match Options.Arguments.parse args s.environment with
  | .error u => divert u
  | .ok a => runWith s a

end WorkBridge.Program
