import WorkBridge.Clock.Span
import WorkBridge.Node.Address

/-!
How a node is watched: its address and the spans of time that the work is governed by.

`Config.check` refuses a configuration with a span or window of zero, and names the first.
-/

namespace WorkBridge

structure Config where
  address : Node.Address := Node.Address.standard
  /-- How long miners may work on one template while the node is silent. -/
  maxWorkStaleness : Span := .ofSeconds 30
  statsInterval : Span := .ofSeconds 30
  /-- The pause between two sync checks of a node that is not synced. -/
  syncRetryInterval : Span := .ofSeconds 5
  /-- The pause after a failed reconnect. -/
  reconnectRetryInterval : Span := .ofSeconds 5
  /-- The number of blocks that the hash rate is estimated over. -/
  hashrateWindow : Nat := 1000
  requestTimeout : Span := .ofSeconds 30
deriving DecidableEq, Inhabited

namespace Config

inductive Error
  | zeroWorkStaleness
  | zeroInterval (name : String)
  | zeroHashrateWindow
deriving DecidableEq, Inhabited

namespace Error

def message : Error → String
  | .zeroWorkStaleness => "max work staleness must be greater than zero"
  | .zeroInterval name => name ++ " must be greater than zero"
  | .zeroHashrateWindow => "hashrate window must be greater than zero"

end Error

/-- The intervals that drive a loop, with their names. -/
def intervals (c : Config) : List (String × Span) := [
  ("stats interval", c.statsInterval),
  ("sync retry interval", c.syncRetryInterval),
  ("reconnect retry interval", c.reconnectRetryInterval),
  ("request timeout", c.requestTimeout)]

/-- The first fault of a configuration. -/
def fault? (c : Config) : Option Error :=
  if c.maxWorkStaleness.isZero then some .zeroWorkStaleness
  else
    match c.intervals.find? (·.2.isZero) with
    | some (name, _) => some (.zeroInterval name)
    | none => if c.hashrateWindow = 0 then some .zeroHashrateWindow else none

def check (c : Config) : Except Error Config :=
  match c.fault? with
  | some e => .error e
  | none => .ok c

end Config
end WorkBridge
