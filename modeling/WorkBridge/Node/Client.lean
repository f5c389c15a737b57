import WorkBridge.Node.Error
import WorkBridge.Node.Wire

/-!
Clients of a node, and what is asked of a node through them.

Clients are told apart by a number.  Connecting makes a client; every other request goes
through one.
-/

namespace WorkBridge.Node

abbrev ClientId := Nat

inductive Request
  | connect (address : Address)
  | getInfo (client : ClientId)
  | getDagInfo (client : ClientId)
  | estimateHashRate (client : ClientId) (startHash : String) (window : Nat)
  | getTemplate (client : ClientId) (payAddress extraData : String)
  | register (client : ClientId)
  | reconnect (client : ClientId)
  | disconnect (client : ClientId)
deriving DecidableEq

end WorkBridge.Node
