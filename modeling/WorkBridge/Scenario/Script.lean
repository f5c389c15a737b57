import WorkBridge.Node.Client

/-!
A node that answers by a script.

For each kind of request there is a queue of replies.  A request takes the first; the last
one stays for all requests after it.  Without any, the node is synced, knows one block and
agrees to everything.
-/

namespace WorkBridge.Scenario

open Node

inductive Method
  | connect
  | getInfo
  | dag
  | estimate
  | template
  | register
  | reconnect
  | disconnect
deriving DecidableEq, Inhabited

def Method.ofRequest : Request → Method
  | .connect _ => .connect
  | .getInfo _ => .getInfo
  | .getDagInfo _ => .dag
  | .estimateHashRate _ _ _ => .estimate
  | .getTemplate _ _ _ => .template
  | .register _ => .register
  | .reconnect _ => .reconnect
  | .disconnect _ => .disconnect

/-- What a request that succeeds is answered with. -/
inductive Payload
  | none
  | info (i : Info)
  | dag (d : DagInfo)
  | rate (n : Nat)
  | template (t : Template)
deriving Inhabited

namespace Payload

/-- The answer to a request that the script says nothing about. -/
def usual : Method → Payload
  | .getInfo => .info { isSynced := true }
  | .dag => .dag { blockCount := 1, difficulty := Binary64.one, tipHashes := ["aa"] }
  | .estimate => .rate 1
  | .template => .template { block := .null, isSynced := true }
  | _ => .none

def asInfo : Payload → Info
  | .info i => i
  | _ => {}

def asDag : Payload → DagInfo
  | .dag d => d
  | _ => {}

def asRate : Payload → Nat
  | .rate n => n
  | _ => 0

def asTemplate : Payload → Template
  | .template t => t
  | _ => { block := .null }

end Payload

/-- A reply.  Its parts show in this order: silence, delay, end of all registrations,
breaking off, failure or success. -/
structure Reply where
  silent : Bool := false
  delay : Nat := 0
  endsRegistrations : Bool := false
  crashes : Bool := false
  result : Except ClientError Payload
  /-- A registration is granted that has already ended. -/
  dead : Bool := false
deriving Inhabited

structure Script where
  queue : Method → List Reply := fun _ => []

namespace Script

def set (s : Script) (m : Method) (replies : List Reply) : Script :=
  { queue := fun m' => if m' = m then replies else s.queue m' }

/-- Takes the next reply of a kind. -/
def take (s : Script) (m : Method) : Reply × Script :=
  match s.queue m with
  | [] => ({ result := .ok (.usual m) }, s)
  | [r] => (r, s)
  | r :: rest => (r, s.set m rest)

end Script

/-- A reply that is on its way; without a due time it never comes. -/
structure Pending where
  reply : Reply
  due : Option Nat

namespace Pending

def of (now : Nat) (r : Reply) : Pending :=
  { reply := r, due := if r.silent then none else some (now + r.delay) }

def ready (p : Pending) (now : Nat) : Bool := p.due.any (· ≤ now)

end Pending
end WorkBridge.Scenario
