/-!
A ticker that is due again and again.

Time is counted in whole milliseconds.  A tick that is taken up to `tolerance` after it was
due keeps the rhythm; one that is taken later starts the period anew.  An instant past
`instantLimit` cannot be computed, so a ticker or a tick may have no next due time, which its
owner does not survive.  A due time that is only carried over never fails: it is just never
reached.
-/

namespace WorkBridge

/-- Instants are whole seconds below `2 ^ 63` and a fraction. -/
def instantLimit : Nat := UInt64.size / 2 * 1000

structure Ticker where
  period : Nat
  due : Nat
deriving DecidableEq, Inhabited

namespace Ticker

/-- How late a tick may be taken without a change of rhythm. -/
def tolerance : Nat := 5

/-- The instant `period` after `now`, where it can be computed. -/
def after? (now period : Nat) : Option Nat :=
  if now + period < instantLimit then some (now + period) else none

/-- A ticker that is first due one period from now.  There is none with a period of zero. -/
def start? (now period : Nat) : Option Ticker :=
  if period = 0 then none
  else (after? now period).map fun due => { period, due }

def ready (t : Ticker) (now : Nat) : Bool := t.due ≤ now

/-- Takes a tick that is due. -/
def tick? (t : Ticker) (now : Nat) : Option Ticker :=
  if t.due + tolerance < now then (after? now t.period).map fun due => { t with due }
  else some { t with due := t.due + t.period }

/-- Lets a full period pass before the next tick. -/
def reset? (t : Ticker) (now : Nat) : Option Ticker :=
  (after? now t.period).map fun due => { t with due }

end Ticker
end WorkBridge
