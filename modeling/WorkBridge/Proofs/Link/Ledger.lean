import WorkBridge.Proofs.Link.Calls

/-!
Runs of a client and the ledger of its registrations.

The ledger of a run says for every registration on which connections it should have a
subscription, and why: the call that made it had subscribed there, or a call found it on the
list as it began to renew there.  It also says which of these subscriptions the node has ended.

An event comes to a handful of moves, one after another: `step_moves`.  What every move keeps
holds all the time.
-/

namespace WorkBridge.Link

structure Ledger where
  /-- All connections that there have been. -/
  known : List ConnectionId
  /-- Each registration, with the connection on which the call that made it had subscribed. -/
  enlisted : List (RegistrationId × ConnectionId) := []
  /-- Each registration on the list as a call began to renew, with the call's connection. -/
  renewed : List (RegistrationId × ConnectionId) := []
  /-- Each registration whose subscription the node has ended, with its connection. -/
  closed : List (RegistrationId × ConnectionId) := []
  /-- The connections on which the node has ended a subscription. -/
  troubled : List ConnectionId := []
  lost : List ConnectionId := []

/-- Whether items that come on a stream get to the handler. -/
def Forwarder.isOpen (f : Forwarder) : Bool := f.running && !f.ended && !f.cancelled

namespace Stream

/-- Whether a stream brings a registration the items of a connection. -/
def serves (r : RegistrationId) (k : ConnectionId) (s : Stream) : Bool :=
  s.registration = some r && s.connection = k && s.forwarder.isOpen

/-- Whether a stream is that of a subscription and belongs to no registration yet. -/
def isSpare (k : ConnectionId) (key : Rpc.SubscriptionKey) (s : Stream) : Bool :=
  s.connection = k && s.key = key && s.registration.isNone

end Stream

namespace Client

/-- The subscriptions that bring a registration the items of a connection. -/
def live (c : Client) (r : RegistrationId) (k : ConnectionId) : Nat :=
  c.streams.countP (Stream.serves r k)

/-- What a call finds on the list as it begins to renew on a connection. -/
def toRenew (c : Client) (k : ConnectionId) : List (RegistrationId × ConnectionId) :=
  (c.listed.filter c.isActive).map (·, k)

/-- The next registration, where the node has already ended the subscription meant for it. -/
def closedBefore (c : Client) (k : ConnectionId) (key : Rpc.SubscriptionKey) :
    List (RegistrationId × ConnectionId) :=
  if c.streams.any fun s => s.isSpare k key && s.forwarder.ended then
    [(c.active.length, k)]
  else []

/-- What a call enters that has got the lock. -/
def enters (c : Client) (w : Ledger) (t : Nat) : Ledger :=
  match c.stage? t with
  | some (.enlisting k key) =>
    { w with
      enlisted := w.enlisted ++ [(c.active.length, k)]
      closed := w.closed ++ c.closedBefore k key }
  | some (.queued k) => { w with renewed := w.renewed ++ c.toRenew k }
  | _ => w

/-- The registrations whose subscription is ended. -/
def closes (c : Client) (k : ConnectionId) (key : Rpc.SubscriptionKey) :
    List (RegistrationId × ConnectionId) :=
  (c.streams.filter fun s => s.connection = k && s.key = key && s.forwarder.isOpen).filterMap
    fun s => s.registration.map (·, k)

/-- The ledger after an event. -/
def book (c : Client) (w : Ledger) : Event → Ledger
  | .subscribed t (.ok _) =>
    match c.stage? t with
    | some (.subscribing k) =>
      if c.lock = [] then { w with enlisted := w.enlisted ++ [(c.active.length, k)] } else w
    | _ => w
  | .dialed t (.ok k) =>
    match c.stage? t with
    | some .dialing =>
      let w := { w with known := w.known ++ [k] }
      if c.lock = [] then { w with renewed := w.renewed ++ c.toRenew k } else w
    | _ => w
  | .proceed t => if c.holdsLock t then c.enters w t else w
  | .ended k key =>
    { w with closed := w.closed ++ c.closes k key, troubled := w.troubled ++ [k] }
  | .lost k => { w with lost := w.lost ++ [k] }
  | _ => w

/-! ### Runs -/

/-- What can happen: tickets and connections are new, the key of a subscription is not in use
on its connection, only what has been registered is given up, and calls run to their end. -/
def Allows (c : Client) (w : Ledger) : Event → Prop
  | .begin t _ => c.stage? t = none
  | .dialed _ (.ok k) => k ∉ w.known
  | .subscribed t (.ok key) =>
    ∀ s k, c.stage? t = some s → s.connection? = some k →
      ∀ stream ∈ c.streams, stream.connection = k → stream.key ≠ key
  | .release r => r < c.active.length
  | .drop _ => False
  | .discard => False
  | _ => True

def Lawful (c : Client) (w : Ledger) : List Event → Prop
  | [] => True
  | e :: es => c.Allows w e ∧ (c.step e).1.Lawful (c.book w e) es

/-- Whether each call begins when the one before has ended. -/
def Sequential (c : Client) : List Event → Prop
  | [] => True
  | e :: es => (∀ t task, e = .begin t task → c.calls = []) ∧ (c.step e).1.Sequential es

def after (c : Client) (es : List Event) : Client := es.foldl (fun c e => (c.step e).1) c

def ledger (c : Client) (w : Ledger) : List Event → Ledger
  | [] => w
  | e :: es => (c.step e).1.ledger (c.book w e) es

/-! ### Moves -/

/-- Gets in line for the lock. -/
def enqueue (c : Client) (t : Nat) (s : Stage) : Client :=
  { c with lock := c.lock ++ [t] }.wait t s

/-- What a client and its ledger go through at an event.  Where `alone` holds, no call begins
before the others have ended. -/
inductive Move (alone : Prop) (c : Client) (w : Ledger) : Client → Ledger → Prop
  | enter (t : Nat) (s : Stage) (hs : c.stage? t = none) (hl : s.inLine = false)
      (hc : ∀ k, s.connection? = some k → c.slot = some k) (ha : alone → c.calls = []) :
      Move alone c w (c.wait t s) w
  | shut (t : Nat) (hs : c.stage? t = none) (ha : alone → c.calls = []) :
      Move alone c w (c.enqueue t .draining) w
  | leave (t : Nat) (s : Stage) (hs : c.stage? t = some s) (hl : s.inLine = false) :
      Move alone c w (c.finish t) w
  | grant (t : Nat) (k : ConnectionId) (key : Rpc.SubscriptionKey)
      (hs : c.stage? t = some (.subscribing k))
      (hk : ∀ s ∈ c.streams, s.connection = k → s.key ≠ key) :
      Move alone c w ((c.addStream k key none).enqueue t (.enlisting k key)) w
  | dial (t : Nat) (k : ConnectionId) (hs : c.stage? t = some .dialing) (hk : k ∉ w.known) :
      Move alone c w
        ({ c with slot := some k, connections := c.connections ++ [k] }.enqueue t (.queued k))
        { w with known := w.known ++ [k] }
  | enlist (t : Nat) (k : ConnectionId) (key : Rpc.SubscriptionKey)
      (hs : c.stage? t = some (.enlisting k key)) (hl : c.holdsLock t = true) :
      Move alone c w (c.enlist t k key).1
        { w with
          enlisted := w.enlisted ++ [(c.active.length, k)]
          closed := w.closed ++ c.closedBefore k key }
  | renewal (t : Nat) (k : ConnectionId) (hs : c.stage? t = some (.queued k))
      (hl : c.holdsLock t = true) :
      Move alone c w (c.startRenewal t k).1 { w with renewed := w.renewed ++ c.toRenew k }
  | drain (t : Nat) (hs : c.stage? t = some .draining) : Move alone c w (c.drain t).1 w
  | renewed (t : Nat) (k : ConnectionId) (r : RegistrationId) (rest : List RegistrationId)
      (key : Rpc.SubscriptionKey) (hs : c.stage? t = some (.renewing k r rest))
      (hk : ∀ s ∈ c.streams, s.connection = k → s.key ≠ key) :
      Move alone c w ((c.addStream k key (some r)).renew t k rest).1 w
  | refused (t : Nat) (k : ConnectionId) (r : RegistrationId) (rest : List RegistrationId)
      (hs : c.stage? t = some (.renewing k r rest)) :
      Move alone c w ((c.cancel r).renew t k rest).1 w
  | release (r : RegistrationId) : Move alone c w (c.cancel r) w
  | item (k : ConnectionId) (key : Rpc.SubscriptionKey) (i : Item) :
      Move alone c w (c.onStream k key (·.push i)) w
  | ended (k : ConnectionId) (key : Rpc.SubscriptionKey) :
      Move alone c w (c.onStream k key fun f => { f with ended := true })
        { w with closed := w.closed ++ c.closes k key, troubled := w.troubled ++ [k] }
  | lost (k : ConnectionId) :
      Move alone c w (c.endStreams k) { w with lost := w.lost ++ [k] }
  | close : Move alone c w c.closeUnheld.1 w
  | forward : Move alone c w c.runStreams.1 w

/-- Some moves, one after another. -/
inductive Moves (alone : Prop) (c : Client) (w : Ledger) : Client → Ledger → Prop
  | none : Moves alone c w c w
  | snoc {c' c'' : Client} {w' w'' : Ledger} (h : Moves alone c w c' w')
      (hm : Move alone c' w' c'' w'') : Moves alone c w c'' w''

namespace Moves

variable {alone : Prop} {c c' c'' : Client} {w w' w'' : Ledger}

theorem of_move (h : Move alone c w c' w') : Moves alone c w c' w' := .snoc .none h

/-- What every move keeps is kept by all. -/
theorem keep {P : Client → Ledger → Prop}
    (hp : ∀ {c c' w w'}, Move alone c w c' w' → P c w → P c' w') (h : Moves alone c w c' w')
    (h₀ : P c w) : P c' w' := by
  induction h with
  | none => exact h₀
  | snoc h hm ih => exact hp hm ih

end Moves

section
variable {alone : Prop} {c c₀ : Client} {w w₀ : Ledger} {t : Nat}

theorem holdsLock_enqueue (hn : t ∉ c.lock) (s : Stage) :
    (c.enqueue t s).holdsLock t = decide (c.lock = []) := by
  have hl : (c.enqueue t s).lock = c.lock ++ [t] := rfl
  unfold holdsLock
  rw [hl]
  cases hc : c.lock with
  | nil => simp
  | cons u us =>
    have hu : u ≠ t := by
      intro hu
      exact hn (by simp [hc, hu])
    simp [hu]

theorem lead_moves (h : Moves alone c₀ w₀ c w) (hl : c.holdsLock t = true) :
    Moves alone c₀ w₀ (c.underLock t).1 (c.enters w t) := by
  unfold underLock enters
  split
  · rename_i k key hs
    simp only [hs]
    exact .snoc h (.enlist t k key hs hl)
  · rename_i k hs
    simp only [hs]
    exact .snoc h (.renewal t k hs hl)
  · rename_i hs
    simp only [hs]
    exact .snoc h (.drain t hs)
  · rename_i hn hq _
    split
    · rename_i k key hs
      exact absurd hs (hn k key)
    · rename_i k hs
      exact absurd hs (hq k)
    · exact h

/-- To take the lock is to get in line and, where nobody stands there, to go on. -/
theorem takeLock_moves {s : Stage} (hn : t ∉ c.lock) (h : Moves alone c₀ w₀ (c.enqueue t s) w) :
    Moves alone c₀ w₀ (c.takeLock t s).1
      (if c.lock = [] then (c.enqueue t s).enters w t else w) := by
  have hl := holdsLock_enqueue hn s
  have ht : c.takeLock t s =
      if (c.enqueue t s).holdsLock t then (c.enqueue t s).underLock t else (c.enqueue t s, []) :=
    rfl
  rw [ht]
  by_cases hc : c.lock = []
  · rw [hl, if_pos hc, if_pos (decide_eq_true hc)]
    exact lead_moves h (by simp [hl, hc])
  · rw [hl, if_neg hc, if_neg (by simpa using hc)]
    exact h

theorem stage?_enqueue (c : Client) (t : Nat) (s : Stage) :
    (c.enqueue t s).stage? t = some s := by
  unfold enqueue
  rw [stage?_wait, if_pos rfl]

theorem not_inLine (h : Orderly c) {s : Stage} (hs : c.stage? t = some s)
    (hl : s.inLine = false) : t ∉ c.lock :=
  h.not_mem_lock fun s' hs' => by
    rw [hs] at hs'
    rw [← Option.some.inj hs', hl]

theorem begin_moves (h : Orderly c) (hs : c.stage? t = none) (ha : alone → c.calls = [])
    (task : Task) : Moves alone c w (c.begin t task).1 w := by
  cases task with
  | query q =>
    unfold begin
    dsimp only
    split
    · exact .none
    · rename_i k hk
      exact .of_move (.enter t _ hs rfl (fun k' hk' => by cases hk'; exact hk) ha)
  | register =>
    unfold begin
    dsimp only
    split
    · exact .none
    · rename_i k hk
      exact .of_move (.enter t _ hs rfl (fun k' hk' => by cases hk'; exact hk) ha)
  | reconnect => exact .of_move (.enter t .dialing hs rfl nofun ha)
  | disconnect =>
    have hn : t ∉ c.lock := h.not_mem_lock fun s hs' => by rw [hs] at hs'; cases hs'
    have hm := takeLock_moves (s := .draining) hn (.of_move (.shut (w := w) t hs ha))
    have he : (c.enqueue t .draining).enters w t = w := by
      unfold enters
      rw [stage?_enqueue]
    rw [he, ite_self] at hm
    exact hm

theorem subscribed_moves (h : Orderly c) {r : Except Node.ClientError Rpc.SubscriptionKey}
    (ha : c.Allows w (.subscribed t r)) :
    Moves alone c w (c.subscribed t r).1 (c.book w (.subscribed t r)) := by
  unfold subscribed
  split
  · rename_i k hs
    cases r with
    | error e => exact .of_move (.leave t _ hs rfl)
    | ok key =>
      have hk := ha _ k hs rfl
      have hn : t ∉ c.lock := not_inLine h hs rfl
      have hg : Moves alone c w ((c.addStream k key none).enqueue t (.enlisting k key)) w :=
        .of_move (.grant t k key hs hk)
      have hm := takeLock_moves (c := c.addStream k key none) hn hg
      have hb : c.book w (.subscribed t (.ok key)) =
          if c.lock = [] then ((c.addStream k key none).enqueue t (.enlisting k key)).enters w t
          else w := by
        have hg : c.streams.any (fun s => s.isSpare k key && s.forwarder.ended) = false := by
          rw [List.any_eq_false]
          intro s hs'
          have := hk s hs'
          simp only [Stream.isSpare, Bool.and_eq_true, decide_eq_true_eq]
          tauto
        unfold book enters
        rw [stage?_enqueue]
        simp only [hs]
        simp [closedBefore, hg, enqueue, addStream, wait]
      rw [hb]
      exact hm
  · rename_i k current rest hs
    cases r with
    | error e =>
      exact .of_move (.refused t k current rest hs)
    | ok key =>
      have hb : c.book w (.subscribed t (.ok key)) = w := by simp [book, hs]
      rw [hb]
      exact .of_move (.renewed t k current rest key hs (ha _ k hs rfl))
  · rename_i hs hr
    cases r with
    | error e => exact .none
    | ok key =>
      have hb : c.book w (.subscribed t (.ok key)) = w := by
        unfold book
        dsimp only
        split
        · rename_i k hk
          exact absurd hk (hs k)
        · rfl
      rw [hb]
      exact .none

theorem dialed_moves (h : Orderly c) {r : Except Node.ClientError ConnectionId}
    (ha : c.Allows w (.dialed t r)) :
    Moves alone c w (c.dialed t r).1 (c.book w (.dialed t r)) := by
  unfold dialed
  split
  · rename_i hs
    cases r with
    | error e => exact .of_move (.leave t _ hs rfl)
    | ok k =>
      have hn : t ∉ c.lock := not_inLine h hs rfl
      have hd : Moves alone c w
          ({ c with slot := some k, connections := c.connections ++ [k] }.enqueue t (.queued k))
          { w with known := w.known ++ [k] } := .of_move (.dial t k hs ha)
      have hm := takeLock_moves
        (c := { c with slot := some k, connections := c.connections ++ [k] }) hn hd
      have hb : c.book w (.dialed t (.ok k)) = if c.lock = [] then
          ({ c with slot := some k, connections := c.connections ++ [k] }.enqueue t
            (.queued k)).enters { w with known := w.known ++ [k] } t
          else { w with known := w.known ++ [k] } := by
        unfold book enters
        rw [stage?_enqueue]
        simp only [hs]
        rfl
      rw [hb]
      exact hm
  · rename_i hs
    cases r with
    | error e => exact .none
    | ok k =>
      have hb : c.book w (.dialed t (.ok k)) = w := by
        unfold book
        dsimp only
        split
        · rename_i hk
          exact absurd hk hs
        · rfl
      rw [hb]
      exact .none

theorem react_moves (h : Orderly c) {e : Event} (ha : c.Allows w e)
    (hq : alone → ∀ t task, e = .begin t task → c.calls = []) :
    Moves alone c w (c.react e).1 (c.book w e) := by
  cases e with
  | begin t task => exact begin_moves h ha (fun h => hq h t task rfl) task
  | answered t r =>
    unfold react answered
    dsimp only
    split
    · rename_i q k hs
      split <;> exact .of_move (.leave t _ hs rfl)
    · exact .none
  | subscribed t r => exact subscribed_moves h ha
  | dialed t r => exact dialed_moves h ha
  | proceed t =>
    unfold react book
    dsimp only
    split
    · rename_i hl
      exact lead_moves .none hl
    · exact .none
  | drop t => exact ha.elim
  | release r => exact .of_move (.release r)
  | item k key i => exact .of_move (.item k key i)
  | ended k key => exact .of_move (.ended k key)
  | lost k => exact .of_move (.lost k)
  | discard => exact ha.elim

theorem step_moves (h : Orderly c) {e : Event} (ha : c.Allows w e)
    (hq : alone → ∀ t task, e = .begin t task → c.calls = []) :
    Moves alone c w (c.step e).1 (c.book w e) :=
  .snoc (.snoc (react_moves h ha hq) .close) .forward

end

end Client
end WorkBridge.Link
