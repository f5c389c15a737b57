/-!
A miner's session, as far as a block template depends on it: the wallet that is paid, and
the mining software that asks.
-/

namespace WorkBridge

/-- The version of the program. -/
def version : String := "0.1.0"

structure Session where
  wallet : String
  app : String
deriving DecidableEq, Inhabited

namespace Session

def text (s : Session) : String := s.app ++ "@" ++ s.wallet

/-- What is written into the templates made for a session. -/
def description (s : Session) : String :=
  "'" ++ s.app ++ "' via stratum-bridge_" ++ version

end Session
end WorkBridge
