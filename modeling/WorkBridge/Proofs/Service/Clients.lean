import WorkBridge.Proofs.Connection.Clients
import WorkBridge.Proofs.Service.Launch

/-!
What a service does to the slot of its connection.

Asking for a call and dropping one change the line only.  So the slot is changed by calls that go
on and by nothing else (`step_woken`), and what holds of the clients of a connection holds of those
of a service (`made_accounted`).
-/

namespace WorkBridge.Service

open Connection (Supervisor)
open Manager (Token)
open Node (ClientId)

variable {s : Service} {e : Event}

/-! ### What is seen of the connection -/

def Output.effect? : Output → Option Supervisor.Effect
  | .connection e => some e
  | _ => none

/-- What is done on the connection. -/
def effects (out : List Output) : List Supervisor.Effect := out.filterMap Output.effect?

theorem effects_append (out rest : List Output) :
    effects (out ++ rest) = effects out ++ effects rest := List.filterMap_append

theorem effects_connection (out : List Supervisor.Effect) :
    effects (out.map .connection) = out := by
  unfold effects
  rw [List.filterMap_map]
  exact List.filterMap_some

theorem effects_map {α : Type} {g : α → Output} (h : ∀ o, (g o).effect? = none) (out : List α) :
    effects (out.map g) = [] := by
  unfold effects
  rw [List.filterMap_map]
  exact List.filterMap_eq_nil_iff.mpr fun o _ => h o

/-- The same slot, and the same record of it. -/
structure SameSlot (c c' : Supervisor) : Prop where
  slot : c'.slot = c.slot
  connected : c'.connected = c.connected

theorem SameSlot.shut {c c' : Supervisor} (h : SameSlot c c') (hc : c.Shut) : c'.Shut :=
  ⟨h.slot.trans hc.slot, h.connected.trans hc.connected⟩

/-! ### Who changes it -/

theorem heed_sameSlot (s : Service) (out : List Feed.Output) :
    SameSlot s.connection (out.foldl heed s).connection := by
  induction out generalizing s with
  | nil => exact ⟨rfl, rfl⟩
  | cons o out ih =>
    have h := ih (heed s o)
    cases o <;> exact ⟨h.slot, h.connected⟩

theorem manage_sameSlot (s : Service) (e : Manager.Event) :
    SameSlot s.connection (s.manage e).1.connection := by
  have hm := s.manage_cases e
  generalize s.manage e = r at hm ⊢
  cases hm with
  | joining ht =>
    show SameSlot _ (cancelStart _).connection
    rw [Crew.cancelStart_connection]
    exact ⟨rfl, rfl⟩
  | closing ht =>
    show SameSlot _ ((cancelStart _).connection.step _).1
    rw [Crew.cancelStart_connection]
    exact ⟨rfl, rfl⟩
  | _ => exact ⟨rfl, rfl⟩

/-- What becomes of the connection as an event lets a call go on. -/
def woken (s : Service) (e : Event) : Supervisor × List Supervisor.Effect :=
  match s.woken? e with
  | some e' => s.connection.step e'
  | none => (s.connection, [])

theorem woken_of_some {e' : Supervisor.Event} (h : s.woken? e = some e') :
    s.woken e = s.connection.step e' := by
  unfold woken
  rw [h]

theorem woken_of_none (h : s.woken? e = none) : s.woken e = (s.connection, []) := by
  unfold woken
  rw [h]

/-- The slot changes as calls go on, and all that is done on the connection is done then. -/
theorem step_woken (s : Service) (e : Event) :
    effects (s.step e).2 = (s.woken e).2 ∧
      SameSlot (s.woken e).1 (s.step e).1.connection := by
  have managed (s' : Service) (e' : Manager.Event) : effects (s'.manage e').2 = [] :=
    effects_map (fun _ => rfl) _
  have hs := s.step_cases e
  generalize s.step e = r at hs ⊢
  cases hs with
  | idle e he =>
    have hn : s.woken? e = none := by
      cases e <;> first | exact he | exact he.elim | rfl
    rw [woken_of_none hn]
    exact ⟨rfl, ⟨rfl, rfl⟩⟩
  | start k hi => exact ⟨managed s _, manage_sameSlot s _⟩
  | shutDown hi => exact ⟨managed s _, manage_sameSlot s _⟩
  | giveUp =>
    have h := manage_sameSlot (s.tell (.drop closeTicket)) .giveUp
    exact ⟨managed _ _, h.slot, h.connected⟩
  | wait now answer k wait hc => exact ⟨managed s _, manage_sameSlot s _⟩
  | joined t broken hb => exact ⟨managed s _, manage_sameSlot s _⟩
  | close w hr => exact ⟨effects_connection _, ⟨rfl, rfl⟩⟩
  | closed w hr =>
    refine ⟨?_, manage_sameSlot (s.tell (w.event closeTicket)) .closed⟩
    rw [effects_append, effects_connection, managed, List.append_nil]
    rfl
  | cancel k => exact ⟨rfl, ⟨rfl, rfl⟩⟩
  | noted e n hn hq hw =>
    rw [woken_of_none hw]
    exact ⟨rfl, ⟨rfl, rfl⟩⟩
  | feed now answer k f hs ha =>
    have h := heed_sameSlot
      { s with feed := some (k, (f.step (.turn now s.connection.slot answer)).1) }
      (f.step (.turn now s.connection.slot answer)).2
    exact ⟨effects_map (fun _ => rfl) _, h.slot, h.connected⟩
  | reconnect now w k f hs hp hc =>
    -- What the feed does behind its call only changes the line.
    have hw : s.woken? (.reconnect now w) = some (w.event feedTicket) := by
      simp [woken?, hs, hp, hc]
    rw [woken_of_some hw, effects_append, effects_connection]
    refine ⟨?_, heed_sameSlot { s.tell (w.event feedTicket) with feed := some (k, _) } _⟩
    rw [show effects (feedTurn _ k f now _).2 = [] from effects_map (fun _ => rfl) _,
      List.append_nil]
    rfl
  | poller now answer k p hs => exact ⟨effects_map (fun _ => rfl) _, ⟨rfl, rfl⟩⟩
  | guestAsks n kind => exact ⟨rfl, ⟨rfl, rfl⟩⟩
  | guest n w => exact ⟨effects_connection _, ⟨rfl, rfl⟩⟩
  | guestLeaves n => exact ⟨rfl, ⟨rfl, rfl⟩⟩

/-! ### The clients -/

/-- The client that a call gets from the connector. -/
def delivered (s : Service) (e : Event) : List ClientId :=
  match s.woken? e with
  | some e' => s.connection.delivered e'
  | none => []

/-- The clients that calls get from the connector in a run, in order. -/
def made (s : Service) : List Event → List ClientId
  | [] => []
  | e :: es => s.delivered e ++ (s.step e).1.made es

/-- The clients that are disconnected, in order. -/
def disconnected (out : List Output) : List ClientId := Supervisor.disconnected (effects out)

theorem disconnected_append (out rest : List Output) :
    disconnected (out ++ rest) = disconnected out ++ disconnected rest := by
  unfold disconnected
  rw [effects_append, Supervisor.disconnected_append]

theorem step_accounted (h : s.connection.Orderly) (e : Event) :
    s.connection.slot.toList ++ s.delivered e =
      disconnected (s.step e).2 ++ (s.step e).1.connection.slot.toList := by
  obtain ⟨heffects, hslot⟩ := s.step_woken e
  rw [disconnected, heffects, hslot.slot]
  cases hw : s.woken? e with
  | none => simp [delivered, woken, hw, Supervisor.disconnected]
  | some e' =>
    have hm := (s.connection.step_move e').accounted h
    simpa [delivered, woken, hw] using hm

/-- The clients of a run are those that were disconnected and the one in the slot. -/
theorem made_accounted (hs : Sound s) (es : List Event) :
    s.connection.slot.toList ++ s.made es =
      disconnected (s.outputs es) ++ (s.after es).connection.slot.toList := by
  induction es generalizing s with
  | nil => exact (List.append_nil _).trans (List.nil_append _).symm
  | cons e es ih =>
    have hrest := ih (hs.step e)
    show _ ++ (s.delivered e ++ (s.step e).1.made es) = disconnected (_ ++ _) ++ _
    rw [disconnected_append, List.append_assoc, ← List.append_assoc,
      step_accounted hs.lined.orderly, List.append_assoc, hrest]
    rfl

/-! ### An empty slot -/

/-- Whether a reconnect made a client for an empty slot. -/
def Refilled (out : List Output) : Prop :=
  ∃ t, .connection (.done t (.reconnected (.ok .replaced))) ∈ out

theorem Refilled.append {out rest : List Output} :
    Refilled (out ++ rest) ↔ Refilled out ∨ Refilled rest := by
  unfold Refilled
  simp only [List.mem_append, exists_or]

theorem mem_effects {x : Supervisor.Effect} {out : List Output} :
    x ∈ effects out ↔ .connection x ∈ out := by
  unfold effects
  rw [List.mem_filterMap]
  constructor
  · rintro ⟨o, ho, hx⟩
    cases o with
    | connection e =>
      cases hx
      exact ho
    | _ => cases hx
  · intro hx
    exact ⟨_, hx, rfl⟩

theorem step_shut (h : s.connection.Orderly) (hs : s.connection.Shut) (e : Event)
    (hn : ¬Refilled (s.step e).2) : (s.step e).1.connection.Shut := by
  obtain ⟨heffects, hslot⟩ := s.step_woken e
  refine hslot.shut ?_
  cases hw : s.woken? e with
  | none =>
    rw [woken_of_none hw]
    exact hs
  | some e' =>
    rw [woken_of_some hw] at heffects ⊢
    rcases (s.connection.step_move e').shut_or_replaced h hs with hc | ⟨t, ht⟩
    · exact hc
    · exact absurd ⟨t, mem_effects.mp (heffects ▸ ht)⟩ hn

end WorkBridge.Service
