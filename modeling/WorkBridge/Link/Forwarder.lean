/-!
Handing the items of a subscription to a handler.

A forwarder runs until it is cancelled or its stream ends.  When it is cancelled while items
wait, it may take either first: `Branch` is the choice, and `turn` what comes of it.
-/

namespace WorkBridge.Link

/-- An item of a stream; one that cannot be read as a notification is still an item. -/
inductive Item
  | notification
  | undecodable
deriving DecidableEq, Inhabited

structure Forwarder where
  /-- The items that wait, first come first. -/
  queue : List Item := []
  /-- No item comes after those that wait. -/
  ended : Bool := false
  cancelled : Bool := false
  running : Bool := true
deriving DecidableEq, Inhabited

namespace Forwarder

/-- What a forwarder looks at. -/
inductive Branch
  | cancellation
  | stream
deriving DecidableEq, Inhabited

inductive Output
  /-- The handler is called. -/
  | handle
  /-- An item could not be read. -/
  | undecodable
  /-- The stream has ended. -/
  | closed
  /-- The subscription is given up. -/
  | unsubscribe
deriving DecidableEq, Inhabited

/-- What is done with an item: the handler is called in any case. -/
def dispatch : Item → List Output
  | .notification => [.handle]
  | .undecodable => [.undecodable, .handle]

def stop (f : Forwarder) : Forwarder := { f with running := false }

/-- Takes a branch, if it is ready. -/
def turn (f : Forwarder) (b : Branch) : Forwarder × List Output :=
  if !f.running then (f, [])
  else
    match b with
    | .cancellation => if f.cancelled then (f.stop, [.unsubscribe]) else (f, [])
    | .stream =>
      match f.queue with
      | item :: rest => ({ f with queue := rest }, dispatch item)
      | [] => if f.ended then (f.stop, [.closed]) else (f, [])

def push (f : Forwarder) (item : Item) : Forwarder :=
  if f.ended then f else { f with queue := f.queue ++ [item] }

/-- Takes branches until none is ready, cancellation first. -/
def settle (f : Forwarder) : Forwarder × List Output :=
  if f.cancelled then f.turn .cancellation
  else
    let (g, out) := { f with queue := [] }.turn .stream
    if f.running then (g, f.queue.flatMap dispatch ++ out) else (f, [])

end Forwarder
end WorkBridge.Link
