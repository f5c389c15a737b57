import WorkBridge.Proofs.Link.Ledger

/-!
What the parts of an event change.

Every part touches few fields of a client, and streams only one by one: each stays in its place
with its connection, its key and, once it has one, its registration (`Stream.Becomes`).
-/

namespace WorkBridge.Link

namespace Client

variable {c : Client} {r : RegistrationId} {t : Nat}

/-! ### Ending registrations -/

theorem isActive_lt (h : c.isActive r = true) : r < c.active.length := by
  by_contra hn
  have hg : c.active[r]? = none := List.getElem?_eq_none (Nat.le_of_not_lt hn)
  simp [isActive, hg] at h

theorem isActive_cancel (c : Client) (r r' : RegistrationId) :
    (c.cancel r').isActive r = (c.isActive r && decide (r ≠ r')) := by
  unfold isActive cancel
  by_cases h : r' = r
  · subst h
    rw [List.getElem?_set_self']
    cases c.active[r']? <;> simp
  · rw [List.getElem?_set_ne h]
    simp [Ne.symm h]

theorem of_isActive_cancel {c : Client} {r r' : RegistrationId}
    (h : (c.cancel r').isActive r = true) : c.isActive r = true ∧ r ≠ r' := by
  rwa [isActive_cancel, Bool.and_eq_true, decide_eq_true_eq] at h

theorem length_cancel (c : Client) (r : RegistrationId) :
    (c.cancel r).active.length = c.active.length := List.length_set

/-- A new registration is not ended, and the others are as before. -/
theorem isActive_enlist (c : Client) (t : Nat) (k : ConnectionId) (key : Rpc.SubscriptionKey)
    (r : RegistrationId) :
    (c.enlist t k key).1.isActive r = true ↔ c.isActive r = true ∨ r = c.active.length := by
  show (c.active ++ [true])[r]?.getD false = true ↔ _
  rcases Nat.lt_trichotomy r c.active.length with hr | hr | hr
  · rw [List.getElem?_append_left hr]
    simp [isActive, Nat.ne_of_lt hr]
  · simp [hr]
  · have hn : ¬c.isActive r = true := fun h => Nat.lt_asymm hr (isActive_lt h)
    rw [List.getElem?_eq_none (by simpa using Nat.succ_le_of_lt hr)]
    simp [hn, Nat.ne_of_gt hr]

/-- Ending some registrations, one after another. -/
def cancelAll (c : Client) (rs : List RegistrationId) : Client := rs.foldl cancel c

theorem isActive_cancelAll (c : Client) (rs : List RegistrationId) (r : RegistrationId) :
    (c.cancelAll rs).isActive r = (c.isActive r && decide (r ∉ rs)) := by
  unfold cancelAll
  induction rs generalizing c with
  | nil => simp
  | cons r' rs ih =>
    rw [List.foldl_cons, ih, isActive_cancel]
    by_cases h : r = r' <;> simp [h]

theorem length_cancelAll (c : Client) (rs : List RegistrationId) :
    (c.cancelAll rs).active.length = c.active.length := by
  unfold cancelAll
  induction rs generalizing c with
  | nil => rfl
  | cons r' rs ih => rw [List.foldl_cons, ih, length_cancel]

/-! ### Streams that stay what they are -/

end Client

/-- What changes a stream in its forwarder only, and lets it run. -/
structure Stream.Steady (f : Stream → Stream) : Prop where
  connection : ∀ s, (f s).connection = s.connection
  key : ∀ s, (f s).key = s.key
  registration : ∀ s, (f s).registration = s.registration
  running : ∀ s, (f s).forwarder.running = s.forwarder.running

namespace Client

variable {c : Client} {f g : Stream → Stream}

theorem steady_id : Stream.Steady id := ⟨fun _ => rfl, fun _ => rfl, fun _ => rfl, fun _ => rfl⟩

theorem steady_comp (hf : Stream.Steady f) (hg : Stream.Steady g) : Stream.Steady (g ∘ f) where
  connection := fun s => (hg.connection (f s)).trans (hf.connection s)
  key := fun s => (hg.key (f s)).trans (hf.key s)
  registration := fun s => (hg.registration (f s)).trans (hf.registration s)
  running := fun s => (hg.running (f s)).trans (hf.running s)

/-- Changing the forwarders of some streams. -/
theorem steady_ite (p : Stream → Prop) [DecidablePred p] (f : Forwarder → Forwarder)
    (hf : ∀ g, (f g).running = g.running) :
    Stream.Steady fun s => if p s then { s with forwarder := f s.forwarder } else s where
  connection := fun s => by split <;> rfl
  key := fun s => by split <;> rfl
  registration := fun s => by split <;> rfl
  running := fun s => by
    split
    · exact hf _
    · rfl

theorem steady_cancel (r : RegistrationId) : Stream.Steady fun s =>
    if s.registration = some r then
      { s with forwarder := { s.forwarder with cancelled := true } }
    else s :=
  steady_ite (·.registration = some r) (fun g => { g with cancelled := true }) fun _ => rfl

/-- An item is only put in the queue. -/
theorem push_eq (f : Forwarder) (i : Item) : ∃ queue, f.push i = { f with queue } := by
  unfold Forwarder.push
  split
  · exact ⟨f.queue, rfl⟩
  · exact ⟨f.queue ++ [i], rfl⟩

theorem steady_item (k : ConnectionId) (key : Rpc.SubscriptionKey) (i : Item) :
    Stream.Steady fun s =>
      if s.connection = k ∧ s.key = key then { s with forwarder := s.forwarder.push i } else s :=
  steady_ite (fun s => s.connection = k ∧ s.key = key) (·.push i) fun g => by
    obtain ⟨queue, hq⟩ := push_eq g i
    rw [hq]

theorem steady_ended (k : ConnectionId) (key : Rpc.SubscriptionKey) : Stream.Steady fun s =>
    if s.connection = k ∧ s.key = key then
      { s with forwarder := { s.forwarder with ended := true } }
    else s :=
  steady_ite (fun s => s.connection = k ∧ s.key = key) (fun g => { g with ended := true })
    fun _ => rfl

theorem steady_endStreams (k : ConnectionId) : Stream.Steady fun s =>
    if s.connection = k then { s with forwarder := { s.forwarder with ended := true } } else s :=
  steady_ite (·.connection = k) (fun g => { g with ended := true }) fun _ => rfl

/-- Ending registrations leaves spare streams alone. -/
theorem cancelAll_eq (c : Client) (rs : List RegistrationId) :
    ∃ f, Stream.Steady f ∧ (∀ s : Stream, s.registration = none → f s = s) ∧
      c.cancelAll rs = { c with
        active := (c.cancelAll rs).active
        streams := c.streams.map f } := by
  unfold cancelAll
  induction rs generalizing c with
  | nil => exact ⟨id, steady_id, fun _ _ => rfl, by simp⟩
  | cons r rs ih =>
    obtain ⟨f, hf, hn, he⟩ := ih (c.cancel r)
    refine ⟨_, steady_comp (steady_cancel r) hf, fun s hs => ?_, ?_⟩
    · simp [hs, hn s hs]
    · rw [List.foldl_cons, he]
      simp [cancel]

theorem drain_eq (c : Client) (t : Nat) :
    ∃ f, Stream.Steady f ∧ (∀ s : Stream, s.registration = none → f s = s) ∧
      (c.drain t).1 = { c with
        active := (c.cancelAll c.listed).active
        streams := c.streams.map f
        listed := []
        slot := none }.finish t := by
  obtain ⟨f, hf, hn, he⟩ := cancelAll_eq c c.listed
  refine ⟨f, hf, hn, ?_⟩
  have hd : (c.drain t).1 = { c.cancelAll c.listed with listed := [], slot := none }.finish t :=
    rfl
  rw [hd, he]

/-! ### Closing connections -/

/-- The end of the streams of some connections. -/
def endingAll (ks : List ConnectionId) (s : Stream) : Stream :=
  if s.connection ∈ ks then { s with forwarder := { s.forwarder with ended := true } } else s

theorem steady_endingAll (ks : List ConnectionId) : Stream.Steady (endingAll ks) :=
  steady_ite (·.connection ∈ ks) (fun g => { g with ended := true }) fun _ => rfl

theorem foldl_endStreams (c : Client) (ks : List ConnectionId) :
    ks.foldl endStreams c = { c with streams := c.streams.map (endingAll ks) } := by
  induction ks generalizing c with
  | nil =>
    have he : endingAll [] = id := by
      funext s
      simp [endingAll]
    simp [he]
  | cons k ks ih =>
    rw [List.foldl_cons, ih]
    simp only [endStreams, List.map_map]
    congr 1
    refine List.map_congr_left fun s _ => ?_
    unfold endingAll
    by_cases h₁ : s.connection = k <;> by_cases h₂ : s.connection ∈ ks <;> simp [h₁, h₂]

/-- The connections that nothing holds. -/
def unheld (c : Client) : List ConnectionId := c.connections.filter (!c.isHeld ·)

theorem closeUnheld_eq (c : Client) :
    c.closeUnheld.1 = { c with
      connections := c.connections.filter c.isHeld
      streams := c.streams.map (endingAll c.unheld) } :=
  foldl_endStreams { c with connections := c.connections.filter c.isHeld } c.unheld

/-! ### Running forwarders -/

/-- A stream after its forwarder has run. -/
def forwarded (s : Stream) : Stream :=
  match s.registration with
  | none => s
  | some _ => { s with forwarder := s.forwarder.settle.1 }

theorem connection_forwarded (s : Stream) : (forwarded s).connection = s.connection := by
  unfold forwarded
  split <;> rfl

theorem key_forwarded (s : Stream) : (forwarded s).key = s.key := by
  unfold forwarded
  split <;> rfl

theorem registration_forwarded (s : Stream) : (forwarded s).registration = s.registration := by
  unfold forwarded
  split <;> rfl

theorem runStreams_eq (c : Client) :
    c.runStreams.1 = { c with
      streams := (c.streams.map forwarded).filter (·.forwarder.running) } := by
  have hf : ∀ s, (c.runStream s).1 = forwarded s := by
    intro s
    unfold runStream forwarded
    cases s.registration <;> rfl
  unfold runStreams
  simp [List.map_map, Function.comp_def, hf]

theorem settle_of_open {f : Forwarder} (h : f.isOpen = true) :
    f.settle = ({ f with queue := [] }, f.queue.flatMap Forwarder.dispatch) := by
  obtain ⟨queue, ended, cancelled, running⟩ := f
  simp only [Forwarder.isOpen, Bool.and_eq_true, Bool.not_eq_true'] at h
  obtain ⟨⟨rfl, rfl⟩, rfl⟩ := h
  simp [Forwarder.settle, Forwarder.turn]

theorem settle_of_not_open {f : Forwarder} (hr : f.running = true) (h : f.isOpen = false) :
    f.settle.1.running = false := by
  obtain ⟨queue, ended, cancelled, running⟩ := f
  subst hr
  cases cancelled with
  | true => rfl
  | false =>
    cases ended with
    | true => rfl
    | false => cases h

/-! ### Renewing -/

/-- A call that goes on to renew has the lock still, or it has ended. -/
theorem renew_cases (c : Client) (t : Nat) (k : ConnectionId) (rs : List RegistrationId) :
    (∃ r rest, rs = r :: rest ∧ (c.renew t k rs).1 = c.wait t (.renewing k r rest)) ∨
      rs = [] ∧ (c.renew t k rs).1 = { c with listed := c.listed.filter c.isActive }.finish t := by
  cases rs with
  | nil => exact .inr ⟨rfl, rfl⟩
  | cons r rest => exact .inl ⟨r, rest, rfl, rfl⟩

end Client
end WorkBridge.Link
