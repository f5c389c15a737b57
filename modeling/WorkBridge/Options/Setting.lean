import WorkBridge.Log.Config
import WorkBridge.Node.Address
import WorkBridge.Options.Number

/-!
The options of the program.

A `Flag` is given or not.  A `Setting` has a value of a type of its own, which is read from a
text, and a value that holds when none is given.  Both may be given by name on the command
line, and most of them in the environment.
-/

namespace WorkBridge.Options

inductive Flag
  /-- No log entries on the standard output. -/
  | quiet
  /-- Metrics are served. -/
  | metrics
deriving DecidableEq, Inhabited

inductive Setting
  | stdoutFormat
  | fileDirectory
  | fileFormat
  | fileRotation
  | metricsAddress
  | metricsPort
  | nodeAddress
  | blockWaitTime
  | statsInterval
  | syncRetryInterval
  | reconnectRetryInterval
  | hashrateWindow
  | requestTimeout
deriving DecidableEq, Inhabited

/-- Whatever can be given by a long name. -/
inductive Name
  | help
  | version
  | flag (f : Flag)
  | setting (s : Setting)
deriving DecidableEq, Inhabited

/-- What is wrong with a text as a value. -/
inductive ValueFault
  /-- The text is empty where that is no value. -/
  | absent
  | unlisted
  | number (f : Number.Fault)
  | notAddress
deriving DecidableEq, Inhabited

namespace Flag

def long : Flag → String
  | .quiet => "logs.stdout.quiet"
  | .metrics => "metrics.enabled"

def envName? : Flag → Option String
  | .quiet => none
  | .metrics => some "METRICS_ENABLED"

/-- A flag's value in the environment. -/
def read (text : String) : Except ValueFault Bool :=
  if text = "true" then .ok true
  else if text = "false" then .ok false
  else if text.isEmpty then .error .absent
  else .error .unlisted

end Flag

namespace Setting

def long : Setting → String
  | .stdoutFormat => "logs.stdout.format"
  | .fileDirectory => "logs.file.directory"
  | .fileFormat => "logs.file.format"
  | .fileRotation => "logs.file.rotation"
  | .metricsAddress => "metrics.addr"
  | .metricsPort => "metrics.port"
  | .nodeAddress => "node.address"
  | .blockWaitTime => "block-wait-time"
  | .statsInterval => "stats.interval"
  | .syncRetryInterval => "sync.retry-interval"
  | .reconnectRetryInterval => "reconnect.retry-interval"
  | .hashrateWindow => "hashrate.window"
  | .requestTimeout => "node.request-timeout"

/-- What a setting's value is called in messages. -/
def valueName : Setting → String
  | .stdoutFormat => "STDOUT_FORMAT"
  | .fileDirectory => "FILE_DIRECTORY"
  | .fileFormat => "FILE_FORMAT"
  | .fileRotation => "FILE_ROTATION"
  | .metricsAddress => "ADDR"
  | .metricsPort => "PORT"
  | .nodeAddress => "NODE_ADDRESS"
  | .blockWaitTime => "BLOCK_WAIT_TIME_MS"
  | .statsInterval => "STATS_INTERVAL_SECS"
  | .syncRetryInterval => "SYNC_RETRY_INTERVAL_SECS"
  | .reconnectRetryInterval => "RECONNECT_RETRY_INTERVAL_SECS"
  | .hashrateWindow => "HASHRATE_WINDOW"
  | .requestTimeout => "REQUEST_TIMEOUT_SECS"

def envName : Setting → String
  | .stdoutFormat => "LOGS_STDOUT_FORMAT"
  | .fileDirectory => "LOGS_FILE_DIRECTORY"
  | .fileFormat => "LOGS_FILE_FORMAT"
  | .fileRotation => "LOGS_FILE_ROTATION"
  | .metricsAddress => "METRICS_ADDR"
  | .metricsPort => "METRICS_PORT"
  | .nodeAddress => "NODE_ADDRESS"
  | .blockWaitTime => "BLOCK_WAIT_TIME"
  | .statsInterval => "STATS_INTERVAL"
  | .syncRetryInterval => "SYNC_RETRY_INTERVAL"
  | .reconnectRetryInterval => "RECONNECT_RETRY_INTERVAL"
  | .hashrateWindow => "HASHRATE_WINDOW"
  | .requestTimeout => "NODE_REQUEST_TIMEOUT"

/-- The type of a setting's value. -/
abbrev Value : Setting → Type
  | .stdoutFormat => Log.Format
  | .fileDirectory => Option String
  | .fileFormat => Log.Format
  | .fileRotation => Log.Rotation
  | .metricsAddress => IpAddress
  | .metricsPort => Nat
  | .nodeAddress => String
  | .blockWaitTime => Nat
  | .statsInterval => Nat
  | .syncRetryInterval => Nat
  | .reconnectRetryInterval => Nat
  | .hashrateWindow => Nat
  | .requestTimeout => Nat

/-- The value of a setting that is not given. -/
def usual : (s : Setting) → s.Value
  | .stdoutFormat => .full
  | .fileDirectory => none
  | .fileFormat => .full
  | .fileRotation => .never
  | .metricsAddress => .v4 0
  | .metricsPort => (9090 : Nat)
  | .nodeAddress => Node.Address.standard.text
  | .blockWaitTime => (3000 : Nat)
  | .statsInterval => (30 : Nat)
  | .syncRetryInterval => (5 : Nat)
  | .reconnectRetryInterval => (5 : Nat)
  | .hashrateWindow => (1000 : Nat)
  | .requestTimeout => (30 : Nat)

/-- The value of a name in a list. -/
def listed {α : Type} (names : List (String × α)) (text : String) : Except ValueFault α :=
  match names.lookup text with
  | some v => .ok v
  | none => if text.isEmpty then .error .absent else .error .unlisted

/-- A directory may have any name but the empty one. -/
def directory (text : String) : Except ValueFault (Option String) :=
  if text.isEmpty then .error .absent else .ok (some text)

def ipAddress (text : String) : Except ValueFault IpAddress :=
  match IpAddress.parse? text with
  | some a => .ok a
  | none => .error .notAddress

def natural (text : String) : Except ValueFault Nat :=
  (Number.unsigned (UInt64.size - 1) text.toList).mapError .number

def naturalUpTo (max : Nat) (text : String) : Except ValueFault Nat :=
  (Number.ranged max text.toList).mapError .number

/-- Reads a setting's value. -/
def read : (s : Setting) → String → Except ValueFault s.Value
  | .stdoutFormat, text => listed Log.Format.choice.names text
  | .fileDirectory, text => directory text
  | .fileFormat, text => listed Log.Format.choice.names text
  | .fileRotation, text => listed Log.Rotation.choice.names text
  | .metricsAddress, text => ipAddress text
  | .metricsPort, text => naturalUpTo (UInt16.size - 1) text
  | .nodeAddress, text => .ok text
  | .blockWaitTime, text => natural text
  | .statsInterval, text => natural text
  | .syncRetryInterval, text => natural text
  | .reconnectRetryInterval, text => natural text
  | .hashrateWindow, text => naturalUpTo (UInt32.size - 1) text
  | .requestTimeout, text => natural text

end Setting

namespace Name

/-- All flags and settings, in the order in which the environment is looked at. -/
def inOrder : List Name := [
  .flag .quiet, .setting .stdoutFormat, .setting .fileDirectory, .setting .fileFormat,
  .setting .fileRotation, .flag .metrics, .setting .metricsAddress, .setting .metricsPort,
  .setting .nodeAddress, .setting .blockWaitTime, .setting .statsInterval,
  .setting .syncRetryInterval, .setting .reconnectRetryInterval, .setting .hashrateWindow,
  .setting .requestTimeout]

def all : List Name := inOrder ++ [.help, .version]

def long : Name → String
  | .help => "help"
  | .version => "version"
  | .flag f => f.long
  | .setting s => s.long

def ofLong? (text : String) : Option Name := all.find? (·.long = text)

/-- How a name is written in messages. -/
def text : Name → String
  | .setting s => "--" ++ s.long ++ " <" ++ s.valueName ++ ">"
  | n => "--" ++ n.long

end Name
end WorkBridge.Options
