/-!
A wake-up that is kept for one waiter.

Waking the waiter uses a wake-up at once; without one it is kept, and any number that come
while one is kept are kept as one.  A waiter that gives up after it was woken leaves its
wake-up behind.
-/

namespace WorkBridge

inductive Waiter
  | absent
  | waiting
  | woken
deriving DecidableEq, Inhabited

structure Signal where
  stored : Bool := false
  waiter : Waiter := .absent
deriving DecidableEq, Inhabited

namespace Signal

def notify (s : Signal) : Signal :=
  match s.waiter with
  | .waiting => { s with waiter := .woken }
  | _ => { s with stored := true }

/-- Begins to wait.  A stored wake-up is there at once. -/
def listen (s : Signal) : Signal :=
  if s.stored then { stored := false, waiter := .woken } else { s with waiter := .waiting }

def isWoken (s : Signal) : Bool := s.waiter = .woken

/-- Takes the wake-up that the waiter got. -/
def take (s : Signal) : Signal := { s with waiter := .absent }

/-- Gives up waiting. -/
def leave (s : Signal) : Signal :=
  match s.waiter with
  | .woken => { stored := true, waiter := .absent }
  | _ => { s with waiter := .absent }

end Signal
end WorkBridge
