/-!
Log entries, as they are handed to whoever shows them.
-/

namespace WorkBridge

inductive Level
  | error
  | warn
  | info
  | debug
  | trace
deriving DecidableEq, Inhabited

namespace Level

def text : Level → String
  | .error => "ERROR"
  | .warn => "WARN"
  | .info => "INFO"
  | .debug => "DEBUG"
  | .trace => "TRACE"

/-- From the gravest to the most talkative. -/
def rank : Level → Nat
  | .error => 1
  | .warn => 2
  | .info => 3
  | .debug => 4
  | .trace => 5

def all : List Level := [.error, .warn, .info, .debug, .trace]

end Level

structure LogEntry where
  level : Level
  target : String
  message : String
  fields : List (String × String) := []
deriving DecidableEq, Inhabited

end WorkBridge
