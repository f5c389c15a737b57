import WorkBridge.Proofs.Connection.Record
import WorkBridge.Proofs.Feed.Ending
import WorkBridge.Proofs.Manager.Step
import WorkBridge.Proofs.Stats.Ending

/-!
A manager at work, with its connection and the tasks that it has started.

The machines of the manager, the connection, the feed and the poller are wired as their outputs
say: what the manager spawns becomes a task, what it cancels is cancelled in the tasks that have
the token, and the calls of the feed and of the manager get in the line of the connection, where
others, the guests, may have calls as well.  What the node answers, and when, and who gets a turn
is left to the run.

The caller of the manager makes one call at a time: a start or a shutdown is only made while none
is under way, and one that is may be given up.
-/

namespace WorkBridge

open Connection (Supervisor)
open Manager (Token)
open Node (ClientId)
open Stats (Poller)

structure Service where
  manager : Manager
  connection : Supervisor
  cancelled : List Token := []
  /-- The feed and the poller, each with its token. -/
  feed : Option (Token × Feed) := none
  poller : Option (Token × Poller) := none

namespace Service

def feedTicket : Nat := 0
def closeTicket : Nat := 1
def guestTicket (n : Nat) : Nat := n + 2

/-- How a call of the connection that has the lock goes on. -/
inductive Wake
  | proceed
  | connected (r : Except Node.ClientError ClientId)
  | reconnected (r : Except Node.ClientError Unit)
  | disconnected

def Wake.event (ticket : Nat) : Wake → Supervisor.Event
  | .proceed => .proceed ticket
  | .connected r => .connected ticket r
  | .reconnected r => .reconnected ticket r
  | .disconnected => .disconnected ticket

inductive Event
  | start (token : Token)
  | shutDown
  | giveUp
  /-- The start gets its turn. -/
  | wait (now : Nat) (answer : Option (Except Node.ClientError Node.Info))
  | joined (t : Manager.Task)
  /-- The close of the manager goes on. -/
  | close (w : Wake)
  | cancel (token : Token)
  | notify
  | lapse (id : Nat)
  | feed (now : Nat) (answer : Option Feed.Answer)
  /-- The feed gets its turn as its reconnect goes on. -/
  | reconnect (now : Nat) (w : Wake)
  | poller (now : Nat) (answer : Option Poller.Answer)
  | guestAsks (n : Nat) (kind : Connection.Kind)
  | guest (n : Nat) (w : Wake)
  | guestLeaves (n : Nat)

inductive Output
  | manager (o : Manager.Output)
  | connection (e : Supervisor.Effect)
  | feed (o : Feed.Output)
  | poller (o : Poller.Output)

/-! ### What the machines do to each other -/

def tell (s : Service) (e : Supervisor.Event) : Service :=
  { s with connection := (s.connection.step e).1 }

def cancel (s : Service) (token : Token) : Service :=
  { s with
    cancelled := s.cancelled.insert token
    feed := s.feed.map fun t => if t.1 = token then (t.1, (t.2.step .cancel).1) else t
    poller := s.poller.map fun t => if t.1 = token then (t.1, (t.2.step .cancel).1) else t }

/-- Does what the manager does. -/
def obey (s : Service) : Manager.Output → Service
  | .spawnFeed token settings =>
    { s with feed := some (token, { settings, cancelled := s.cancelled.contains token }) }
  | .spawnPoller token settings =>
    { s with poller := some (token, { settings, cancelled := s.cancelled.contains token }) }
  | .cancel token => s.cancel token
  | .close => s.tell (.ask closeTicket .close)
  | _ => s

def manage (s : Service) (e : Manager.Event) : Service × List Output :=
  let (manager, out) := s.manager.step e
  (out.foldl obey { s with manager }, out.map .manager)

/-- Does what the feed does. -/
def heed (s : Service) : Feed.Output → Service
  | .reconnect => s.tell (.ask feedTicket .reconnect)
  | .abandon => s.tell (.drop feedTicket)
  | _ => s

def feedTurn (s : Service) (token : Token) (f : Feed) (now : Nat) (answer : Option Feed.Answer) :
    Service × List Output :=
  let (f, out) := f.step (.turn now s.connection.slot answer)
  (out.foldl heed { s with feed := some (token, f) }, out.map .feed)

/-- How a reconnect has ended, if it has. -/
def outcome? (out : List Supervisor.Effect) : Option Feed.Answer :=
  match Supervisor.results out with
  | [.reconnected r] => some (.reconnected r)
  | _ => none

def pollerTurn (s : Service) (token : Token) (p : Poller) (now : Nat)
    (answer : Option Poller.Answer) : Service × List Output :=
  let (p, out) := p.step (.turn now s.connection.slot answer)
  ({ s with poller := some (token, p) }, out.map .poller)

/-- Whether a task has ended, and then whether it broke off. -/
def ended? (s : Service) : Manager.Task → Option Bool
  | .feed =>
    match s.feed with
    | some (_, f) => if f.isEnded then some (f.point = .failed) else none
    | none => none
  | .poller =>
    match s.poller with
    | some (_, p) => if p.isEnded then some (p.point matches .failed) else none
    | none => none

def isIdle (s : Service) : Bool :=
  match s.manager.call with
  | .idle => true
  | _ => false

def step (s : Service) : Event → Service × List Output
  | .start token => if s.isIdle then s.manage (.start token) else (s, [])
  | .shutDown => if s.isIdle then s.manage .shutDown else (s, [])
  | .giveUp => (s.tell (.drop closeTicket)).manage .giveUp
  | .wait now answer =>
    match s.manager.call with
    | .starting token _ =>
      let cancelled := s.cancelled.contains token
      s.manage (.turn { now, cancelled, slot := s.connection.slot, answer })
    | _ => (s, [])
  | .joined t =>
    match s.ended? t with
    | some broken => if t ∈ s.manager.tasks then s.manage (.joined t broken) else (s, [])
    | none => (s, [])
  | .close w =>
    let (connection, out) := s.connection.step (w.event closeTicket)
    let s := { s with connection }
    let (s, rest) := if Supervisor.results out = [] then (s, []) else s.manage .closed
    (s, out.map .connection ++ rest)
  | .cancel token => (s.cancel token, [])
  | .notify => ({ s with feed := s.feed.map fun t => (t.1, (t.2.step .notify).1) }, [])
  | .lapse id => ({ s with feed := s.feed.map fun t => (t.1, (t.2.step (.lapse id)).1) }, [])
  | .feed now answer =>
    -- Only the connection says how a reconnect has ended.
    match s.feed, answer with
    | none, _ => (s, [])
    | some _, some (.reconnected _) => (s, [])
    | some (token, f), answer => s.feedTurn token f now answer
  | .reconnect now w =>
    match s.feed with
    | some (token, f) =>
      if f.point = .reconnecting ∧ f.cancelled = false then
        let (connection, out) := s.connection.step (w.event feedTicket)
        let (s, rest) := { s with connection }.feedTurn token f now (outcome? out)
        (s, out.map .connection ++ rest)
      else (s, [])
    | none => (s, [])
  | .poller now answer =>
    match s.poller with
    | some (token, p) => s.pollerTurn token p now answer
    | none => (s, [])
  | .guestAsks n kind => (s.tell (.ask (guestTicket n) kind), [])
  | .guest n w =>
    let (connection, out) := s.connection.step (w.event (guestTicket n))
    ({ s with connection }, out.map .connection)
  | .guestLeaves n => (s.tell (.drop (guestTicket n)), [])

/-! ### Runs -/

/-- A manager that has not been started, around its first client. -/
def opened (config : Config) (first : ClientId) : Service where
  manager := { config }
  connection := Supervisor.opened config.address first

def after (s : Service) (es : List Event) : Service := es.foldl (fun s e => (s.step e).1) s

/-- All that is done in a run. -/
def outputs (s : Service) : List Event → List Output
  | [] => []
  | e :: es => (s.step e).2 ++ (s.step e).1.outputs es

theorem after_append (s : Service) (es fs : List Event) :
    s.after (es ++ fs) = (s.after es).after fs := List.foldl_append

theorem after_snoc (s : Service) (es : List Event) (e : Event) :
    s.after (es ++ [e]) = ((s.after es).step e).1 := after_append s es [e]

theorem outputs_append (s : Service) (es fs : List Event) :
    s.outputs (es ++ fs) = s.outputs es ++ (s.after es).outputs fs := by
  induction es generalizing s with
  | nil => rfl
  | cons e es ih =>
    rw [List.cons_append, outputs, outputs, ih, List.append_assoc]
    rfl

theorem outputs_snoc (s : Service) (es : List Event) (e : Event) :
    s.outputs (es ++ [e]) = s.outputs es ++ ((s.after es).step e).2 := by
  rw [outputs_append, outputs, outputs, List.append_nil]

/-- What every step keeps holds after every run. -/
theorem run_induction {P : Service → Prop} (hs : ∀ s e, P s → P (s.step e).1) {s : Service}
    (h : P s) (es : List Event) : P (s.after es) := by
  induction es generalizing s with
  | nil => exact h
  | cons e es ih => exact ih (hs s e h)

end Service
end WorkBridge
