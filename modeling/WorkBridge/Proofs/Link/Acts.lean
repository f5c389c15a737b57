import WorkBridge.Proofs.Link.Rest

/-!
Events and turns in any order.

Forwarders take their turns when they come to it: anything may happen to the client between two of
them, and one that is cancelled while items wait may take either branch.  `Act` is what happens
next, without the forwarders or by one of them, and a run of acts is any order of these.  The
client lets all forwarders run after every event, which is one of the orders: `step_eq_perform`.
-/

namespace WorkBridge.Link

namespace Forwarder

theorem ended_turn (f : Forwarder) (b : Branch) : (f.turn b).1.ended = f.ended := by
  unfold turn
  repeat' split
  all_goals rfl

/-- Takes some branches, one after another. -/
def turns (f : Forwarder) : List Branch → Forwarder × List Output
  | [] => (f, [])
  | b :: bs => (((f.turn b).1.turns bs).1, (f.turn b).2 ++ ((f.turn b).1.turns bs).2)

/-- The branches that a forwarder takes that runs as far as it can. -/
def schedule (f : Forwarder) : List Branch :=
  if f.cancelled then [.cancellation] else List.replicate (f.queue.length + 1) .stream

theorem turns_stopped {f : Forwarder} (h : f.running = false) (bs : List Branch) :
    f.turns bs = (f, []) := by
  induction bs with
  | nil => rfl
  | cons b bs ih =>
    have hb : f.turn b = (f, []) := by simp [turn, h]
    rw [turns, hb, ih]
    rfl

theorem settle_eq_turns (f : Forwarder) : f.settle = f.turns f.schedule := by
  obtain ⟨queue, ended, cancelled, running⟩ := f
  cases cancelled with
  | true => simp [settle, schedule, turns]
  | false =>
    cases running with
    | false => rw [turns_stopped rfl]; rfl
    | true =>
      induction queue with
      | nil => simp [settle, schedule, turns]
      | cons item rest ih =>
        have ih : (⟨rest, ended, false, true⟩ : Forwarder).settle =
            turns ⟨rest, ended, false, true⟩ (List.replicate (rest.length + 1) .stream) := ih
        have hs : settle ⟨item :: rest, ended, false, true⟩ =
            ((settle ⟨rest, ended, false, true⟩).1,
              dispatch item ++ (settle ⟨rest, ended, false, true⟩).2) := by
          simp [settle, List.append_assoc]
        rw [hs, ih]
        rfl

end Forwarder

namespace Client

open Forwarder (Branch)

variable {c : Client} {r : RegistrationId} {i : Nat} {s : Stream}

/-! ### Acts -/

/-- What happens next. -/
inductive Act
  /-- An event, with nothing of what forwarders make of it. -/
  | happen (e : Event)
  /-- A turn of one of the forwarders, with the branch that it takes. -/
  | turn (i : Nat) (b : Branch)
  /-- The streams whose forwarders have stopped are gone. -/
  | sweep

/-- The client with another stream in the place of one. -/
def put (c : Client) (i : Nat) (s : Stream) : Client := { c with streams := c.streams.set i s }

theorem put_self (hs : c.streams[i]? = some s) : c.put i s = c := by
  obtain ⟨hi, rfl⟩ := List.getElem?_eq_some_iff.mp hs
  simp [put]

theorem put_put (c : Client) (i : Nat) (s s' : Stream) : (c.put i s).put i s' = c.put i s' := by
  simp [put]

theorem getElem?_put (hs : c.streams[i]? = some s) (s' : Stream) :
    (c.put i s').streams[i]? = some s' := by
  obtain ⟨hi, -⟩ := List.getElem?_eq_some_iff.mp hs
  exact List.getElem?_set_self hi

/-- Lets the forwarder of a stream take a turn. -/
def turnAt (c : Client) (i : Nat) (b : Branch) : Client × List Output :=
  match c.streams[i]? with
  | none => (c, [])
  | some s =>
    match s.registration with
    | none => (c, [])
    | some r =>
      (c.put i { s with forwarder := (s.forwarder.turn b).1 },
        (s.forwarder.turn b).2.flatMap (c.streamOutput s r))

def act (c : Client) : Act → Client × List Output
  | .happen e => ((c.react e).1.closeUnheld.1, (c.react e).2 ++ (c.react e).1.closeUnheld.2)
  | .turn i b => c.turnAt i b
  | .sweep => ({ c with streams := c.streams.filter (·.forwarder.running) }, [])

def perform (c : Client) : List Act → Client × List Output
  | [] => (c, [])
  | a :: acts => (((c.act a).1.perform acts).1, (c.act a).2 ++ ((c.act a).1.perform acts).2)

theorem perform_append (c : Client) (as bs : List Act) :
    c.perform (as ++ bs) =
      (((c.perform as).1.perform bs).1, (c.perform as).2 ++ ((c.perform as).1.perform bs).2) := by
  induction as generalizing c with
  | nil => rfl
  | cons a as ih => simp [perform, ih, List.append_assoc]

/-! ### The client's own order -/

theorem turnAt_spare (hs : c.streams[i]? = some s) (hr : s.registration = none) (b : Branch) :
    c.turnAt i b = (c, []) := by
  simp [turnAt, hs, hr]

theorem turnAt_eq (hs : c.streams[i]? = some s) (hr : s.registration = some r) (b : Branch) :
    c.turnAt i b =
      (c.put i { s with forwarder := (s.forwarder.turn b).1 },
        (s.forwarder.turn b).2.flatMap (c.streamOutput s r)) := by
  simp [turnAt, hs, hr]

/-- What a forwarder puts out comes to the same before and after a turn. -/
theorem streamOutput_turn (c : Client) (i : Nat) (s s' : Stream) (b : Branch)
    (r : RegistrationId) :
    (c.put i s').streamOutput { s with forwarder := (s.forwarder.turn b).1 } r =
      c.streamOutput s r := by
  funext o
  cases o with
  | unsubscribe => simp [streamOutput, Forwarder.ended_turn, put]
  | _ => rfl

theorem perform_turns (hs : c.streams[i]? = some s) (hr : s.registration = some r)
    (bs : List Branch) :
    c.perform (bs.map (.turn i)) =
      (c.put i { s with forwarder := (s.forwarder.turns bs).1 },
        (s.forwarder.turns bs).2.flatMap (c.streamOutput s r)) := by
  induction bs generalizing c s with
  | nil => rw [show { s with forwarder := (s.forwarder.turns []).1 } = s from rfl, put_self hs]; rfl
  | cons b bs ih =>
    let s' : Stream := { s with forwarder := (s.forwarder.turn b).1 }
    have hrest := ih (getElem?_put hs s') hr
    rw [put_put, streamOutput_turn] at hrest
    rw [List.map_cons, perform, act, turnAt_eq hs hr, hrest, ← List.flatMap_append]
    rfl

theorem perform_schedule (hs : c.streams[i]? = some s) :
    c.perform (s.forwarder.schedule.map (.turn i)) =
      (c.put i (c.runStream s).1, (c.runStream s).2) := by
  cases hr : s.registration with
  | none =>
    have hstay (bs : List Branch) : c.perform (bs.map (.turn i)) = (c, []) := by
      induction bs with
      | nil => rfl
      | cons b bs ih => rw [List.map_cons, perform, act, turnAt_spare hs hr, ih]; rfl
    have hrun : c.runStream s = (s, []) := by simp [runStream, hr]
    rw [hstay, hrun, put_self hs]
  | some r =>
    rw [perform_turns hs hr, ← Forwarder.settle_eq_turns]
    simp [runStream, hr]

/-- One stream after another, each as far as it goes. -/
def forwarding : Nat → List Stream → List Act
  | _, [] => []
  | i, s :: ss => s.forwarder.schedule.map (.turn i) ++ forwarding (i + 1) ss

/-- The induction is on the streams that have not run yet. -/
theorem perform_forwarding (c : Client) (pre post : List Stream) (h : c.streams = pre ++ post) :
    c.perform (forwarding pre.length post) =
      ({ c with streams := pre ++ (post.map c.runStream).map (·.1) },
        (post.map c.runStream).flatMap (·.2)) := by
  induction post generalizing c pre with
  | nil =>
    rw [List.append_nil] at h
    simp [forwarding, perform, ← h]
  | cons s ss ih =>
    have hs : c.streams[pre.length]? = some s := by simp [h]
    have hput : (c.put pre.length (c.runStream s).1).streams =
        (pre ++ [(c.runStream s).1]) ++ ss := by simp [put, h]
    have hrest := ih _ _ hput
    rw [List.length_append, List.length_singleton] at hrest
    rw [forwarding, perform_append, perform_schedule hs, hrest]
    have hrun : (c.put pre.length (c.runStream s).1).runStream = c.runStream := rfl
    rw [hrun, List.append_assoc]
    rfl

/-- What the client does at an event: it happens, and then the forwarders have their turns. -/
theorem step_eq_perform (c : Client) (e : Event) :
    c.step e = c.perform
      (.happen e :: (forwarding 0 (c.react e).1.closeUnheld.1.streams ++ [.sweep])) := by
  have hrun := perform_forwarding (c.react e).1.closeUnheld.1 [] _ rfl
  rw [List.length_nil] at hrun
  rw [perform, act, perform_append, hrun]
  simp [step, runStreams, perform, act, List.append_assoc]

end Client
end WorkBridge.Link
