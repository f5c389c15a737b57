import WorkBridge.Proofs.Link.Effects

/-!
What follows every event, and what is left of it.

Connections that nothing holds are closed and forwarders run (`tidy`), so between two events a
client is at rest (`AtRest`): every connection is held, and a stream that belongs to a registration
has a forwarder that waits for items, with nothing in its queue.

Some events come from outside of all calls (`Event.isAmbient`).  They leave calls and the list
alone.
-/

namespace WorkBridge.Link

/-- A forwarder that has run and goes on has nothing more to do. -/
theorem Forwarder.settle_running {f : Forwarder} (h : f.settle.1.running = true) :
    f.settle.1 = {} := by
  obtain ⟨queue, ended, cancelled, running⟩ := f
  cases running with
  | false => cases cancelled <;> simp [settle, turn] at h
  | true =>
    cases cancelled with
    | true => cases h
    | false =>
      cases ended with
      | true => cases h
      | false => rfl

namespace Client

variable {c c' : Client} {e : Event} {es : List Event} {t : Nat} {k : ConnectionId}
  {r : RegistrationId}

/-! ### At rest -/

/-- What follows an event. -/
def tidy (c : Client) : Client × List Output :=
  (c.closeUnheld.1.runStreams.1, c.closeUnheld.2 ++ c.closeUnheld.1.runStreams.2)

theorem step_eq (c : Client) (e : Event) :
    c.step e = ((c.react e).1.tidy.1, (c.react e).2 ++ (c.react e).1.tidy.2) :=
  congrArg (Prod.mk _) (List.append_assoc _ _ _)

theorem tidy_eq (c : Client) :
    c.tidy.1 = { c with
      connections := c.connections.filter c.isHeld
      streams := ((c.streams.map (endingAll c.unheld)).map forwarded).filter
        (·.forwarder.running) } := by
  rw [tidy, runStreams_eq, closeUnheld_eq]

structure AtRest (c : Client) : Prop where
  held : ∀ k ∈ c.connections, c.isHeld k = true
  running : ∀ s ∈ c.streams, s.forwarder.running = true
  idle : ∀ s ∈ c.streams, s.registration ≠ none → s.forwarder = {}

theorem closeUnheld_of_held (h : ∀ k ∈ c.connections, c.isHeld k = true) :
    c.closeUnheld = (c, []) := by
  have hn : c.connections.filter (!c.isHeld ·) = [] :=
    List.filter_eq_nil_iff.mpr fun k hk => by simp [h k hk]
  have hf : c.connections.filter c.isHeld = c.connections := List.filter_eq_self.mpr h
  unfold closeUnheld
  rw [hn, hf]
  rfl

theorem AtRest.tidy (h : c.AtRest) : c.tidy = (c, []) := by
  have hs : ∀ s ∈ c.streams, c.runStream s = (s, []) := by
    intro s hs
    obtain ⟨connection, key, registration, forwarder⟩ := s
    cases registration with
    | none => rfl
    | some r =>
      cases h.idle _ hs nofun
      rfl
  have hr : c.runStreams = (c, []) := by
    have hm : c.streams.map c.runStream = c.streams.map (·, []) := List.map_congr_left hs
    have hf : c.streams.filter (·.forwarder.running) = c.streams :=
      List.filter_eq_self.mpr h.running
    unfold runStreams
    rw [hm]
    simp [List.map_map, Function.comp_def, hf]
  rw [Client.tidy, closeUnheld_of_held h.held, hr]
  rfl

theorem atRest_tidy (c : Client) : c.tidy.1.AtRest := by
  rw [tidy_eq]
  refine ⟨fun k hk => (List.mem_filter.mp hk).2, fun s hs => (List.mem_filter.mp hs).2, ?_⟩
  intro s hs hn
  obtain ⟨hm, hr⟩ := List.mem_filter.mp hs
  obtain ⟨s₀, -, rfl⟩ := List.mem_map.mp hm
  rw [registration_forwarded] at hn
  unfold forwarded at hr ⊢
  split at hr
  · rename_i hs₀
    exact absurd hs₀ hn
  · rename_i hs₀
    exact Forwarder.settle_running hr

theorem atRest_step (c : Client) (e : Event) : (c.step e).1.AtRest := by
  rw [step_eq]
  exact atRest_tidy _

theorem AtRest.after (h : c.AtRest) (es : List Event) : (c.after es).AtRest := by
  induction es generalizing c with
  | nil => exact h
  | cons e es ih => exact ih (atRest_step c e)

theorem atRest_new (address : Node.Address) (url : Url) (k : ConnectionId) :
    (new address url k).AtRest where
  held := fun k' hk => by
    rw [List.mem_singleton.mp hk]
    simp [isHeld, new]
  running := List.forall_mem_nil _
  idle := List.forall_mem_nil _

/-- With no call under way only the connection in the slot is held. -/
theorem AtRest.slot (h : c.AtRest) (hc : c.calls = []) (hk : k ∈ c.connections) :
    c.slot = some k := by
  have := h.held k hk
  simpa [isHeld, hc] using this

/-! ### Events from outside -/

/-- A registration is given up, or the node does something of its own accord. -/
def Event.isAmbient : Event → Bool
  | .release _ => true
  | .item _ _ _ => true
  | .ended _ _ => true
  | .lost _ => true
  | _ => false

/-- The registration that is given up. -/
def Event.released? : Event → Option RegistrationId
  | .release r => some r
  | _ => none

def released (es : List Event) : List RegistrationId := es.filterMap Event.released?

theorem react_ambient (c : Client) (he : e.isAmbient = true) :
    ∃ f, Stream.Steady f ∧ c.react e =
      ({ c with active := (c.react e).1.active, streams := c.streams.map f }, []) := by
  cases e with
  | release r => exact ⟨_, steady_cancel r, rfl⟩
  | item k key i => exact ⟨_, steady_item k key i, rfl⟩
  | ended k key => exact ⟨_, steady_ended k key, rfl⟩
  | lost k => exact ⟨_, steady_endStreams k, rfl⟩
  | _ => cases he

theorem isActive_tidy (c : Client) (r : RegistrationId) : c.tidy.1.isActive r = c.isActive r := by
  rw [tidy_eq]
  rfl

theorem isActive_ambient (c : Client) (he : e.isAmbient = true) (r : RegistrationId) :
    (c.step e).1.isActive r = (c.isActive r && decide (r ∉ e.released?)) := by
  rw [step_eq, isActive_tidy]
  cases e with
  | release r' =>
    refine (isActive_cancel c r r').trans ?_
    simp [Event.released?, eq_comm]
  | item | ended | lost => simp [Event.released?, react, onStream, endStreams, isActive]
  | _ => cases he

theorem released_cons (e : Event) (es : List Event) :
    released (e :: es) = e.released?.toList ++ released es := by
  cases h : e.released? <;> simp [released, h]

theorem released_append (es fs : List Event) : released (es ++ fs) = released es ++ released fs :=
  List.filterMap_append

/-- What events from outside leave alone. -/
structure Undisturbed (c c' : Client) : Prop where
  calls : c'.calls = c.calls
  lock : c'.lock = c.lock
  slot : c'.slot = c.slot
  listed : c'.listed = c.listed

theorem Undisturbed.stage? (h : Undisturbed c c') (t : Nat) : c'.stage? t = c.stage? t := by
  rw [Client.stage?, Client.stage?, h.calls]

theorem undisturbed_tidy (c : Client) : Undisturbed c c.tidy.1 := by
  rw [tidy_eq]
  exact ⟨rfl, rfl, rfl, rfl⟩

theorem undisturbed_step (c : Client) (he : e.isAmbient = true) : Undisturbed c (c.step e).1 := by
  obtain ⟨f, -, hr⟩ := react_ambient c he
  have h := undisturbed_tidy (c.react e).1
  rw [← show (c.step e).1 = (c.react e).1.tidy.1 by rw [step_eq]] at h
  rw [hr] at h
  exact ⟨h.calls, h.lock, h.slot, h.listed⟩

/-- Events from outside change of a registration at most that it is given up. -/
theorem ambient_after (c : Client) (hes : ∀ e ∈ es, e.isAmbient = true) :
    Undisturbed c (c.after es) ∧
      ∀ r, (c.after es).isActive r = (c.isActive r && decide (r ∉ released es)) := by
  induction es generalizing c with
  | nil => exact ⟨⟨rfl, rfl, rfl, rfl⟩, fun r => by simp [after, released]⟩
  | cons e es ih =>
    have he := hes e List.mem_cons_self
    have hstep := undisturbed_step c he
    obtain ⟨hrest, hactive⟩ := ih (c.step e).1 fun e he => hes e (List.mem_cons_of_mem _ he)
    refine ⟨⟨hrest.calls.trans hstep.calls, hrest.lock.trans hstep.lock,
      hrest.slot.trans hstep.slot, hrest.listed.trans hstep.listed⟩, fun r => ?_⟩
    have ha := hactive r
    rw [isActive_ambient c he] at ha
    rw [after, List.foldl_cons, ← after, ha, released_cons]
    simp [Bool.and_assoc]

/-! ### What is observed of a run -/

/-- What events bring, one after another. -/
def gather {α : Type} (g : Client → Event → List α) (c : Client) : List Event → List α
  | [] => []
  | e :: es => g c e ++ gather g (c.step e).1 es

theorem gather_append {α : Type} (g : Client → Event → List α) (c : Client) (es fs : List Event) :
    gather g c (es ++ fs) = gather g c es ++ gather g (c.after es) fs := by
  induction es generalizing c with
  | nil => rfl
  | cons e es ih =>
    rw [List.cons_append, gather, gather, ih, List.append_assoc]
    rfl

/-! ### What a client puts out on the side -/

/-- What connections and forwarders put out, and not calls. -/
def Output.isAside : Output → Bool
  | .unsubscribe _ _ => true
  | .close _ => true
  | .handle _ => true
  | .log _ => true
  | _ => false

theorem aside_streamOutput (c : Client) (s : Stream) (r : RegistrationId) (o : Forwarder.Output) :
    ∀ o' ∈ c.streamOutput s r o, o'.isAside = true := by
  intro o' ho
  cases o with
  | unsubscribe =>
    unfold streamOutput at ho
    dsimp only at ho
    split at ho
    · cases List.mem_singleton.mp ho
      rfl
    · cases ho
  | _ =>
    cases List.mem_singleton.mp ho
    rfl

theorem aside_tidy (c : Client) : ∀ o ∈ c.tidy.2, o.isAside = true := by
  intro o ho
  rcases List.mem_append.mp ho with ho | ho
  · obtain ⟨k, -, rfl⟩ := List.mem_map.mp ho
    rfl
  · obtain ⟨x, hx, ho⟩ := List.mem_flatMap.mp ho
    obtain ⟨s, -, rfl⟩ := List.mem_map.mp hx
    unfold runStream at ho
    split at ho
    · cases ho
    · obtain ⟨o', -, ho⟩ := List.mem_flatMap.mp ho
      exact aside_streamOutput _ s _ o' o ho

end Client
end WorkBridge.Link
