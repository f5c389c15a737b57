import Mathlib.Logic.Function.Basic
import WorkBridge.Proofs.Feed.History
import WorkBridge.Proofs.Link.Items
import WorkBridge.Proofs.Link.Payloads

/-!
From the notifications of a node to new work.

The handlers of a feed's registrations, on whichever client, wake the feed.  A notification that
cannot be read wakes it like any other, so what the notifications carry makes no difference to the
calls of the handlers, nor to the feed: `every_item_signals_once`.
-/

namespace WorkBridge

open Node (ClientId)
open Link (Client ConnectionId Forwarder RegistrationId)

/-- A feed, and the clients on which it has registered. -/
structure Relay where
  clients : ClientId → Client
  feed : Feed

namespace Relay

inductive Occurrence
  /-- A notification comes for a subscription, with a payload. -/
  | notification (client : ClientId) (connection : ConnectionId) (key : Rpc.SubscriptionKey)
      (payload : Json.Draft)
  /-- Anything else that happens to a client, and the turns of its forwarders. -/
  | act (client : ClientId) (a : Client.Act)
  | feed (s : Feed.Stimulus)

/-- What the clients and the feed do. -/
structure Deeds where
  client : List Client.Output := []
  feed : List Feed.Output := []

/-- The registrations whose handlers are called, call by call. -/
def handled (out : List Client.Output) : List RegistrationId :=
  out.filterMap fun o => match o with
    | .handle r => some r
    | _ => none

/-- Every call of a handler wakes the feed. -/
def act (r : Relay) (i : ClientId) (a : Client.Act) : Relay × Deeds :=
  let done := (r.clients i).act a
  ({ clients := Function.update r.clients i done.1
     feed := r.feed.after ((handled done.2).map fun _ => .notify) },
    { client := done.2 })

def step (r : Relay) : Occurrence → Relay × Deeds
  | .notification i k key payload =>
    r.act i (.happen (.item k key (Dialogue.World.itemOf payload)))
  | .act i a => r.act i a
  | .feed s => ({ r with feed := (r.feed.step s).1 }, { feed := (r.feed.step s).2 })

def after (r : Relay) (os : List Occurrence) : Relay := os.foldl (fun r o => (r.step o).1) r

def deeds (r : Relay) : List Occurrence → List Deeds
  | [] => []
  | o :: os => (r.step o).2 :: deeds (r.step o).1 os

/-- The same but for the payload of a notification. -/
inductive Alike : Occurrence → Occurrence → Prop
  | same (o : Occurrence) : Alike o o
  | payload (i : ClientId) (k : ConnectionId) (key : Rpc.SubscriptionKey) (p p' : Json.Draft) :
      Alike (.notification i k key p) (.notification i k key p')

variable {r r' : Relay} {o o' : Occurrence} {os os' : List Occurrence}

/-! ### Two runs -/

/-- The same but for the items that wait. -/
structure Same (r r' : Relay) : Prop where
  clients : ∀ i, (r.clients i).blank = (r'.clients i).blank
  feed : r.feed = r'.feed

/-- What is done, but for complaints. -/
def Deeds.plain (d : Deeds) : Deeds := { d with client := Client.plain d.client }

theorem handled_plain (out : List Client.Output) : handled (Client.plain out) = handled out := by
  unfold handled Client.plain
  rw [List.filterMap_filter]
  congr 1
  funext o
  cases o with
  | log e => exact ite_self _
  | _ => rfl

theorem Same.act (h : Same r r') (i : ClientId) {a a' : Client.Act} (ha : a.blank = a'.blank) :
    Same (r.act i a).1 (r'.act i a').1 ∧ (r.act i a).2.plain = (r'.act i a').2.plain := by
  obtain ⟨hc, hout⟩ := Client.act_blank (r.clients i) a
  obtain ⟨hc', hout'⟩ := Client.act_blank (r'.clients i) a'
  rw [h.clients i, ha] at hc hout
  have hcalls : handled ((r.clients i).act a).2 = handled ((r'.clients i).act a').2 := by
    rw [← handled_plain, ← hout, hout', handled_plain]
  refine ⟨⟨fun j => ?_, ?_⟩, ?_⟩
  · show (Function.update r.clients i _ j).blank = (Function.update r'.clients i _ j).blank
    by_cases hj : j = i
    · subst hj
      rw [Function.update_self, Function.update_self]
      exact hc.symm.trans hc'
    · rw [Function.update_of_ne hj, Function.update_of_ne hj]
      exact h.clients j
  · show r.feed.after ((handled ((r.clients i).act a).2).map fun _ => .notify) = _
    rw [hcalls, h.feed]
    rfl
  · exact congrArg (fun out => ({ client := out } : Deeds)) (hout.symm.trans hout')

theorem Same.step (h : Same r r') (ho : Alike o o') :
    Same (r.step o).1 (r'.step o').1 ∧ (r.step o).2.plain = (r'.step o').2.plain := by
  cases ho with
  | payload i k key p p' => exact h.act i rfl
  | same o =>
    cases o with
    | notification i k key p => exact h.act i rfl
    | act i a => exact h.act i rfl
    | feed s =>
      refine ⟨⟨h.clients, ?_⟩, ?_⟩
      · show (r.feed.step s).1 = (r'.feed.step s).1
        rw [h.feed]
      · show Deeds.plain { feed := (r.feed.step s).2 } = Deeds.plain { feed := (r'.feed.step s).2 }
        rw [h.feed]

theorem Same.run (h : Same r r') (ho : List.Forall₂ Alike os os') :
    Same (r.after os) (r'.after os') ∧
      (r.deeds os).map Deeds.plain = (r'.deeds os').map Deeds.plain := by
  induction ho generalizing r r' with
  | nil => exact ⟨h, rfl⟩
  | cons ho hos ih =>
    obtain ⟨hstep, hdeeds⟩ := h.step ho
    obtain ⟨hafter, hrest⟩ := ih hstep
    refine ⟨hafter, ?_⟩
    rw [deeds, deeds, List.map_cons, List.map_cons, hdeeds, hrest]

/-- What is seen of plain deeds does not tell the runs apart. -/
theorem map_plain {α : Type} {g : Deeds → α} (hg : ∀ d : Deeds, g d.plain = g d)
    (ds : List Deeds) : (ds.map Deeds.plain).map g = ds.map g := by
  rw [List.map_map]
  exact List.map_congr_left fun d _ => hg d

/-- Every notification signals exactly once, whatever its payload.  A forwarder whose registration
is not ended takes the items that come before the end of its stream one after another, each with one
call of the handler; it takes all of them if it gets turns enough, and calls the handler no more
when the stream has ended.  And however the payloads of notifications are replaced, readable or
not, the handlers of the same registrations are called in the same places of a run, and the feed
does the same, with the same calls of the handler of new work. -/
theorem every_item_signals_once :
    (∀ ss : List Forwarder.Stimulus,
      let f := ({} : Forwarder).after ss
      (∃ taken, Forwarder.items ss = taken ++ f.queue ∧
        Forwarder.outputs {} ss =
          taken.flatMap Forwarder.dispatch ++ (if f.running then [] else [.closed]) ∧
        (Forwarder.outputs {} ss).count .handle = taken.length ∧
        (f.running = false → f.queue = [] ∧ ss.any Forwarder.Stimulus.isEnd = true)) ∧
      let enough := ss ++ List.replicate (f.queue.length + 1) (.turn .stream)
      Forwarder.outputs {} enough = (Forwarder.items ss).flatMap Forwarder.dispatch ++
          (if ss.any Forwarder.Stimulus.isEnd then [.closed] else []) ∧
        (Forwarder.outputs {} enough).count .handle = (Forwarder.items ss).length) ∧
    ∀ (r : Relay) (os os' : List Occurrence), List.Forall₂ Alike os os' →
      (r.deeds os).map (handled ·.client) = (r.deeds os').map (handled ·.client) ∧
      (r.deeds os).map (·.feed) = (r.deeds os').map (·.feed) ∧
      (r.after os).feed = (r.after os').feed := by
  refine ⟨fun ss => ?_, fun r os os' ho => ?_⟩
  · intro f
    have hended : f.ended = ss.any Forwarder.Stimulus.isEnd := Forwarder.ended_after {} ss
    obtain ⟨taken, hitems, hout, hstop⟩ := Forwarder.takes (f := {}) rfl rfl ss
    have hall := Forwarder.takes_all ss
    refine ⟨⟨taken, hitems, hout, ?_, fun hr => ?_⟩, hall, ?_⟩
    · rw [hout]
      refine Forwarder.count_handle taken ?_
      split <;> simp
    · obtain ⟨hqueue, he⟩ := hstop hr
      exact ⟨hqueue, hended.symm.trans he⟩
    · rw [hall]
      refine Forwarder.count_handle (Forwarder.items ss) ?_
      split <;> simp
  · have hsame : Same r r := ⟨fun _ => rfl, rfl⟩
    obtain ⟨hafter, hdeeds⟩ := hsame.run ho
    refine ⟨?_, ?_, hafter.feed⟩
    · have := congrArg (List.map (handled ·.client)) hdeeds
      rwa [map_plain fun d => handled_plain d.client, map_plain fun d => handled_plain d.client]
        at this
    · have := congrArg (List.map (·.feed)) hdeeds
      rwa [map_plain fun d => rfl, map_plain fun d => rfl] at this

/-- A feed that waits, registered on a client. -/
def listening : Relay where
  clients := fun _ =>
    { Client.new default default 0 with
      active := [true], listed := [0]
      streams := [{ connection := 0, key := .number 7, registration := some 0 }] }
  feed := (Feed.start ⟨default, .ofSeconds 30, .ofSeconds 5, .ofSeconds 5⟩).after [
    .turn 0 (some 0) none, .turn 10 (some 0) (some (.registered (.ok ⟨0, true⟩))),
    .turn 20 (some 0) (some (.info (.ok { isSynced := true })))]

def notified (payload : Json.Draft) : List Occurrence := [
  .notification 0 0 (.number 7) payload, .act 0 (.turn 0 .stream), .feed (.turn 90 (some 0) none)]

/-- A payload that is no object is work all the same. -/
theorem unreadable_signals :
    Dialogue.World.itemOf (.object [] none) = .notification ∧
      Dialogue.World.itemOf (.bool true) = .undecodable ∧
      (listening.deeds (notified (.bool true))).map (handled ·.client) = [[], [0], []] ∧
      ∃ out, (listening.deeds (notified (.bool true))).map (·.feed) = [[], [], out] ∧
        .work .push ∈ out := by
  have halike : List.Forall₂ Alike (notified (.object [] none)) (notified (.bool true)) :=
    .cons (.payload 0 0 (.number 7) _ _) (.cons (.same _) (.cons (.same _) .nil))
  obtain ⟨hcalls, hfeed, -⟩ := every_item_signals_once.2 listening _ _ halike
  rw [← hcalls, ← hfeed]
  exact ⟨rfl, rfl, rfl, _, rfl, .tail _ (.tail _ (.head _))⟩

end Relay
end WorkBridge
