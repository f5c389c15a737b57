import WorkBridge.Json.Writer
import WorkBridge.Link.Dial
import WorkBridge.Rpc.Message

/-!
A node at the other end of a connection, which answers by a script.

For each method there is a queue of replies.  A request takes the first; the last one stays
for all requests after it.  Without any, the node grants every subscription, lets every one be
given up, and knows no other method.
-/

namespace WorkBridge.Dialogue

inductive Reply
  | result (v : Json)
  | refusal (error : Json)
  /-- A text, with the request's number in the place of `$ID`. -/
  | text (t : String)
  /-- The connection is closed. -/
  | close
  | silent
  /-- A subscription is granted, under the given key or one of the node's own. -/
  | grant (key : Option Json)
deriving Inhabited

structure Server where
  port : Nat
  listening : Bool := true
  script : List (String × List Reply) := []
  /-- What is done with new connections: each is made, or refused with a status. -/
  refusals : List (Option Nat) := []
  /-- The number of subscriptions that were granted. -/
  grants : Nat := 0
deriving Inhabited

/-- What the server does about a request. -/
inductive Reaction
  | send (text : String)
  | close
  | nothing

namespace Server

def host : String := "127.0.0.1"

def subscribeMethod : String := "subscribeNewBlockTemplate"

def unsubscribeMethod : String := "unsubscribeNewBlockTemplate"

def setScript (s : Server) (method : String) (replies : List Reply) : Server :=
  { s with script := (method, replies) :: s.script.filter (·.1 ≠ method) }

/-- What is replied where the script says nothing. -/
def usual (method : String) : Reply :=
  if method = subscribeMethod then .grant none
  else if method = unsubscribeMethod then .result (.bool true)
  else .refusal (.object [("code", .int (-32601)), ("message", .string "Method not found")])

/-- Takes the next of a queue, of which the last stays. -/
def next {α : Type} : List α → Option (α × List α)
  | [] => none
  | [a] => some (a, [a])
  | a :: rest => some (a, rest)

/-- Takes the next reply for a method. -/
def reply (s : Server) (method : String) : Server × Reply :=
  match next ((s.script.lookup method).getD []) with
  | none => (s, usual method)
  | some (r, rest) => (s.setScript method rest, r)

/-- Decides about a new connection: the status with which it is refused, if it is. -/
def accept (s : Server) : Server × Option Nat :=
  match next s.refusals with
  | none => (s, none)
  | some (status, rest) => ({ s with refusals := rest }, status)

/-- Whether a URL leads to the server. -/
def isAt (s : Server) (u : Url) : Bool :=
  u.scheme = "ws" && u.host = some host && u.portOrUsual = some s.port

/-- An attempt to connect: why it fails, if it does. -/
def welcome (s : Server) (u : Url) : Server × Option Link.DialError :=
  if u.scheme ≠ "ws" ∧ u.scheme ≠ "wss" then (s, some (.badScheme u.scheme))
  else if u.host.isNone then (s, some .noHost)
  else if s.listening && s.isAt u then
    let (s, status) := s.accept
    (s, status.map .rejected)
  else (s, some .refused)

/-- A text with a number in the place of every `$ID`. -/
def fill (id : String) : List Char → List Char
  | '$' :: 'I' :: 'D' :: rest => id.toList ++ fill id rest
  | c :: rest => c :: fill id rest
  | [] => []

def answerText (id : Nat) (name : String) (v : Json) : String :=
  Json.text (.object [("jsonrpc", .string "2.0"), ("id", .int id), (name, v)])

/-- A notification for a subscription. -/
def noticeText (key : Json) (name : String) (v : Json) : String :=
  Json.text (.object [
    ("jsonrpc", .string "2.0"), ("method", .string "newBlockTemplate"),
    ("params", .object [("subscription", key), (name, v)])])

/-- Reacts to a request; a granted subscription is told by its key. -/
def react (s : Server) (method : String) (id : Nat) : Server × Reaction × Option Json :=
  let (s, r) := s.reply method
  match r with
  | .result v => (s, .send (answerText id "result" v), none)
  | .refusal e => (s, .send (answerText id "error" e), none)
  | .text t => (s, .send (String.ofList (fill (toString id) t.toList)), none)
  | .close => (s, .close, none)
  | .silent => (s, .nothing, none)
  | .grant key =>
    let grants := s.grants + 1
    let key := key.getD (.string ("sub-" ++ toString grants))
    ({ s with grants }, .send (answerText id "result" key), some key)

end Server
end WorkBridge.Dialogue
