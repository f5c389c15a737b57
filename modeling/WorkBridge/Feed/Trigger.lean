/-!
What a work-ready signal comes from: a notification of the node, or the time that passed
without one.
-/

namespace WorkBridge

inductive Trigger
  | push
  | timer
deriving DecidableEq, Inhabited

def Trigger.text : Trigger → String
  | .push => "push"
  | .timer => "timer"

end WorkBridge
