import WorkBridge.Manager.Config
import WorkBridge.Metrics.Endpoint
import WorkBridge.Options.Reader

/-!
What the options of a run come to.

Each option has the value of the command line, or else that of the environment, or else its
usual one.
-/

namespace WorkBridge.Options

structure Arguments where
  verbosity : Nat
  flag : Flag → Bool
  value : (s : Setting) → s.Value

namespace Arguments

/-- Fills in what is not given. -/
def ofReading (r : Reading) : Arguments where
  verbosity := r.verbosity
  flag := fun f => (r.flags f).getD false
  value := fun s => (r.given s).getD s.usual

/-- The options of a run, from its arguments and its environment. -/
def parse (args : List String) (environment : String → Option String) :
    Except Usage Arguments := do
  let r ← Reading.arguments {} args
  let r ← Name.inOrder.foldlM (Reading.fromEnvironment environment) r
  pure (ofReading r)

def level (a : Arguments) : Level :=
  if a.verbosity = 0 then .info else if a.verbosity = 1 then .debug else .trace

def log (a : Arguments) : Log.Config where
  level := a.level
  stdout := if a.flag .quiet then none else some (a.value .stdoutFormat)
  file := (a.value .fileDirectory).map fun directory =>
    { directory, format := a.value .fileFormat, rotation := a.value .fileRotation }

def metrics (a : Arguments) : Metrics.Endpoint where
  enabled := a.flag .metrics
  address := a.value .metricsAddress
  port := a.value .metricsPort

/-- How the node is to be watched; the time that a block may wait is told in milliseconds. -/
def config (a : Arguments) : Except Config.Error Config :=
  Config.check {
    address := ⟨a.value .nodeAddress⟩
    maxWorkStaleness := .ofMillis (a.value .blockWaitTime)
    statsInterval := .ofSeconds (a.value .statsInterval)
    syncRetryInterval := .ofSeconds (a.value .syncRetryInterval)
    reconnectRetryInterval := .ofSeconds (a.value .reconnectRetryInterval)
    hashrateWindow := a.value .hashrateWindow
    requestTimeout := .ofSeconds (a.value .requestTimeout) }

end Arguments
end WorkBridge.Options
