import WorkBridge.Proofs.Connection.Calls
import WorkBridge.Proofs.Metrics.Reading

/-!
What is recorded of a connection: the state of the supervisor, the gauge and the counters.

Only the end of a call is recorded, and each end is recorded in full (`Move.told`), so state,
gauge and counters are those of the calls that have ended.  The state can be "connected" around
an empty slot only while a close that has the lock disconnects the client (`Backed`).
-/

namespace WorkBridge.Metrics

/-- Whether an update is one of those that tell about the connection. -/
def Update.isConnection : Update → Bool
  | .connected _ => true
  | .reconnect _ => true
  | _ => false

theorem flag_eq_one {b : Bool} : flag b = .one ↔ b = true := by
  cases b <;> decide

theorem flag_eq_zero {b : Bool} : flag b = .zero ↔ b = false := by
  cases b <;> decide

theorem filterMap_shown?_filter (us : List Update) :
    (us.filter Update.isConnection).filterMap Update.shown? = us.filterMap Update.shown? := by
  rw [List.filterMap_filter]
  congr 1
  funext u
  cases u <;> rfl

end WorkBridge.Metrics

namespace WorkBridge.Connection

open Node (ClientId)
open Metrics (Update connectedKey reconnectsKey flag)

namespace Result

/-- Whether a reconnect succeeded, if it was one. -/
def reconnect? : Result → Option Bool
  | .reconnected (.ok _) => some true
  | .reconnected (.error _) => some false
  | .closed => none

def connects (r : Result) : Bool := r.reconnect? = some true

/-- What is told to the metrics about a call that has ended. -/
def updates (r : Result) : List Update :=
  .connected r.connects :: r.reconnect?.toList.map .reconnect

theorem shown?_updates (rs : List Result) :
    (rs.flatMap updates).filterMap Update.shown? = rs.map connects := by
  induction rs with
  | nil => rfl
  | cons r rs ih =>
    rw [List.flatMap_cons, List.filterMap_append, ih]
    cases h : r.reconnect? <;> simp [updates, h, Update.shown?]

theorem count_updates (rs : List Result) (b : Bool) :
    (rs.flatMap updates).count (.reconnect b) = (rs.filterMap reconnect?).count b := by
  induction rs with
  | nil => rfl
  | cons r rs ih =>
    rw [List.flatMap_cons, List.count_append, ih]
    cases h : r.reconnect? with
    | none => simp [updates, h]
    | some b' => cases b <;> cases b' <;> simp [updates, h, Nat.add_comm]

end Result

namespace Supervisor

def results (out : List Effect) : List Result :=
  out.filterMap fun
    | .done _ r => some r
    | _ => none

def updates (out : List Effect) : List Update :=
  out.filterMap fun
    | .update u => some u
    | _ => none

variable {s : Supervisor} {e : Event} {r : Supervisor × List Effect}

theorem results_append (out out' : List Effect) :
    results (out ++ out') = results out ++ results out' := List.filterMap_append

theorem updates_append (out out' : List Effect) :
    updates (out ++ out') = updates out ++ updates out' := List.filterMap_append

/-! ### What is told at the end of a call -/

theorem Move.told (hm : Move s e r) :
    updates r.2 = (results r.2).flatMap Result.updates ∧
      r.1.connected = ((results r.2).getLast?.map Result.connects).getD s.connected := by
  cases hm <;> exact ⟨rfl, rfl⟩

theorem updates_effects (s : Supervisor) (es : List Event) :
    updates (s.effects es) = (results (s.effects es)).flatMap Result.updates := by
  induction es generalizing s with
  | nil => rfl
  | cons e es ih =>
    rw [effects, updates_append, results_append, List.flatMap_append, ih, (step_move s e).told.1]

theorem connected_after (s : Supervisor) (es : List Event) :
    (s.after es).connected =
      ((results (s.effects es)).getLast?.map Result.connects).getD s.connected := by
  induction es using List.reverseRecOn with
  | nil => rfl
  | append_singleton es e ih =>
    rw [after_snoc, effects_snoc, results_append, (step_move (s.after es) e).told.2, ih,
      List.getLast?_append]
    cases (results ((s.after es).step e).2).getLast? <;> rfl

/-- Where no call ends, nothing is told, and the client stays unless a close takes it. -/
theorem Move.untold (hm : Move s e r) (hr : results r.2 = []) :
    r.1.connected = s.connected ∧ updates r.2 = [] ∧
      (r.1.client? = s.client? ∨ ∃ t, e = .proceed t ∧ s.isNext t .close = true) := by
  refine ⟨by simpa [hr] using hm.told.2, by simpa [hr] using hm.told.1, ?_⟩
  cases hm with
  | shut t client rest hc hs => exact .inr ⟨t, rfl, isNext_of_calls hc⟩
  | shutEmpty t rest hc hs => exact .inr ⟨t, rfl, isNext_of_calls hc⟩
  | replaced t k client rest hc => simp [results, succeed] at hr
  | _ => exact .inl rfl

/-! ### A connected supervisor has a client -/

/-- Whether an event drops no close. -/
def spares (s : Supervisor) : Event → Bool
  | .drop t => s.calls.all fun c => c.ticket ≠ t || c.kind = .reconnect
  | _ => true

/-- Whether no close is dropped in a run. -/
def sparesCloses (s : Supervisor) : List Event → Bool
  | [] => true
  | e :: es => s.spares e && (s.step e).1.sparesCloses es

/-- A supervisor that is connected has a client, or a close has just taken it. -/
def Backed (s : Supervisor) : Prop :=
  s.connected = true → s.slot = none →
    ∃ c rest client, s.calls = c :: rest ∧ c.stage = .disconnecting client

theorem Backed.drop (h : Backed s) (ho : Orderly s) {t : Nat} (hk : s.spares (.drop t) = true) :
    Backed (s.step (.drop t)).1 := by
  intro hs hn
  obtain ⟨c, rest, client, hc, hd⟩ := h hs hn
  have hclose : c.kind = .close := by
    have ha := ho.holder c rest hc
    rw [hd] at ha
    exact ha.1
  have ht : c.ticket ≠ t := by
    intro ht
    simp only [spares, List.all_eq_true] at hk
    simpa [ht, hclose] using hk c (by simp [hc])
  exact ⟨c, rest.filter (·.ticket ≠ t), client, by simp [step, hc, ht], hd⟩

theorem Move.backed (hm : Move s e r) (h : Backed s) (ho : Orderly s)
    (hk : s.spares e = true) : Backed r.1 := by
  -- A call that has not begun is at the head where none disconnects.
  have unconnected : ∀ t k rest, s.calls = ⟨t, k, .queued⟩ :: rest → s.slot = none →
      s.connected ≠ true := by
    intro t k rest hc hn hs
    obtain ⟨c, rest', client, hc', hd⟩ := h hs hn
    rw [hc] at hc'
    cases hc'
    cases hd
  cases hm with
  | idle e hd => exact h
  | ask t k =>
    intro hs hn
    obtain ⟨c, rest, client, hc, hd⟩ := h hs hn
    exact ⟨c, rest ++ [{ ticket := t, kind := k }], client, by simp [hc], hd⟩
  | drop t => exact h.drop ho hk
  | renew t client rest hc hs => exact fun _ hn => by simp [hs] at hn
  | dial t rest hc hs => exact fun hs' _ => absurd hs' (unconnected t _ rest hc hs)
  | shut t client rest hc hs => exact fun _ _ => ⟨_, _, client, rfl, rfl⟩
  | replaced t k client rest hc => exact fun _ hn => nomatch hn
  | reestablished t k client rest hc =>
    have hs : s.slot = some client := (ho.holder _ _ hc).2
    exact fun _ hn => absurd (hs.symm.trans hn) (by simp)
  | _ => exact fun hs => nomatch hs

theorem Backed.after (h : Backed s) (ho : Orderly s) (es : List Event)
    (hk : s.sparesCloses es = true) : Backed (s.after es) := by
  induction es generalizing s with
  | nil => exact h
  | cons e es ih =>
    obtain ⟨he, hes⟩ := Bool.and_eq_true_iff.mp hk
    have hm := step_move s e
    exact ih (hm.backed h ho he) (hm.orderly ho) hes

theorem Backed.client_of_unlocked (h : Backed s) (hl : ∀ t, s.hasLock t = false)
    (hs : s.connected = true) : ∃ client, s.client? = .ok client := by
  cases hn : s.slot with
  | some client => exact ⟨client, by simp [client?, hn]⟩
  | none =>
    obtain ⟨c, rest, client, hc, hd⟩ := h hs hn
    have ht : s.hasLock c.ticket = true := hasLock_iff.mpr ⟨c, rest, hc, rfl, by simp [hd]⟩
    rw [hl] at ht
    cases ht

theorem backed_opened (address : Node.Address) (first : ClientId) :
    Backed (opened address first) := fun _ hn => nomatch hn

/-! ### State, gauge and counters -/

/-- Metrics are told of what the supervisor does, and between that of other things; `earlier` is
what they were told before.  However calls of the supervisor overlap, and whichever reconnects
are dropped:

* its state is "connected" exactly if the last call that ended was a connect or reconnect that
  succeeded;
* while no call has the lock, there is a client in that state;
* the gauge shows one exactly in that state and zero otherwise;
* the counters have grown by the reconnects that ended in success and in failure;
* nothing of that changes where no call ends, and only a close takes the client away, so a
  reconnect that is dropped before its end leaves everything as it was. -/
theorem record_matches_last_call (address : Node.Address) (first : ClientId) (es : List Event)
    (earlier us : List Update) (hc : (opened address first).sparesCloses es = true)
    (hu : us.filter Update.isConnection =
      updates ((new address first).2 ++ (opened address first).effects es)) :
    let s := (opened address first).after es
    let ended := results ((opened address first).effects es)
    let metrics := (earlier ++ us).foldl Update.apply []
    (s.connected = true ↔ ∀ r, ended.getLast? = some r → r.connects = true) ∧
    ((∀ t, s.hasLock t = false) → s.connected = true → ∃ client, s.client? = .ok client) ∧
    (metrics.reading? connectedKey = some (.gauge .one) ↔ s.connected = true) ∧
    (metrics.reading? connectedKey = some (.gauge .zero) ↔ s.connected = false) ∧
    (∀ b, metrics.total (reconnectsKey b) =
      Metrics.Registry.total (earlier.foldl Update.apply []) (reconnectsKey b) +
        (ended.filterMap Result.reconnect?).count b) ∧
    (∀ e, results (s.step e).2 = [] →
      (s.step e).1.connected = s.connected ∧ updates (s.step e).2 = [] ∧
        ((s.step e).1.client? = s.client? ∨ ∃ t, e = .proceed t ∧ s.isNext t .close = true)) := by
  intro s ended metrics
  have hs : s.connected = (ended.getLast?.map Result.connects).getD true :=
    connected_after (opened address first) es
  have htold : us.filter Update.isConnection = .connected true :: ended.flatMap Result.updates := by
    rw [hu, updates_append, updates_effects]
    rfl
  have hgauge : metrics.reading? connectedKey = some (.gauge (flag s.connected)) := by
    have hshown : us.filterMap Update.shown? = true :: ended.map Result.connects := by
      rw [← Metrics.filterMap_shown?_filter, htold, List.filterMap_cons, Result.shown?_updates]
      rfl
    have hlast : (us.filterMap Update.shown?).getLast? = some s.connected := by
      rw [hshown, hs, List.getLast?_cons, List.getLast?_map]
    unfold metrics
    rw [List.foldl_append, Update.connected_reading, hlast]
  have hcount : ∀ b, us.count (.reconnect b) = (ended.filterMap Result.reconnect?).count b := by
    intro b
    rw [← List.count_filter (p := Update.isConnection) rfl, htold,
      List.count_cons_of_ne (by simp), Result.count_updates]
  refine ⟨?_, fun hl => ?_, ?_, ?_, fun b => ?_, fun e => (step_move s e).untold⟩
  · rw [hs]
    cases ended.getLast? <;> simp
  · exact ((backed_opened address first).after (orderly_opened address first) es
      hc).client_of_unlocked hl
  · rw [hgauge, ← Metrics.flag_eq_one]
    simp
  · rw [hgauge, ← Metrics.flag_eq_zero]
    simp
  · unfold metrics
    rw [Update.reconnects_total, Update.reconnects_total, List.count_append, hcount]

/-- A reconnect that fails, one that is dropped, a close and a reconnect that makes a client. -/
def reconnecting : List Event := [
  .ask 0 .reconnect, .proceed 0, .reconnected 0 (.error .disconnected), .ask 1 .reconnect,
  .proceed 1, .ask 2 .close, .drop 1, .proceed 2, .disconnected 2, .ask 3 .reconnect, .proceed 3,
  .connected 3 (.ok 8)]

/-- What is told meanwhile, with a request to the node in between. -/
def reconnectingUpdates : List Update := [
  .connected true, .connected false, .reconnect false, .request .getInfo "" true,
  .connected false, .connected true, .reconnect true]

theorem record_after_reconnecting :
    ((opened default 7).sparesCloses reconnecting = true ∧
      reconnectingUpdates.filter Update.isConnection =
        updates ((new default 7).2 ++ (opened default 7).effects reconnecting)) ∧
    (∃ client, ((opened default 7).after reconnecting).client? = .ok client) ∧
    Metrics.Registry.reading? connectedKey
      (([Update.clientZero ""] ++ reconnectingUpdates).foldl Update.apply []) =
        some (.gauge .one) := by
  have hc : (opened default 7).sparesCloses reconnecting = true := by decide
  have hu : reconnectingUpdates.filter Update.isConnection =
      updates ((new default 7).2 ++ (opened default 7).effects reconnecting) := by decide
  have h := record_matches_last_call default 7 reconnecting [.clientZero ""] reconnectingUpdates
    hc hu
  have hs : ((opened default 7).after reconnecting).connected = true := by decide
  exact ⟨⟨hc, hu⟩, h.2.1 (fun t => rfl) hs, h.2.2.1.mpr hs⟩

end Supervisor
end WorkBridge.Connection
