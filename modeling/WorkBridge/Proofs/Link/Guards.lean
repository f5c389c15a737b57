import WorkBridge.Proofs.Link.Sound

/-!
Registrations and calls one after another.

When no call begins before the last has ended, each registration that is not ended has an entry
for the connection in the slot.  So it has a forwarder there that hands on what comes, unless
the node has ended that subscription: `served_iff_not_closed`.  The registration does not learn
of that, and stays as if it were served: `closed_but_active`.
-/

namespace WorkBridge.Link

namespace Client

variable {c c' : Client} {w w' : Ledger} {t : Nat} {s : Stage} {e : Event}

/-- At most one call is under way, and it is about the connection in the slot; and what is not
ended has an entry for that connection, or will have one as soon as the call renews. -/
structure Settled (c : Client) (w : Ledger) : Prop where
  single : ∀ t u s s', c.stage? t = some s → c.stage? u = some s' → t = u
  here : ∀ t s k, c.stage? t = some s → s.connection? = some k → c.slot = some k
  entered : ∀ k, c.slot = some k → (∀ t, c.stage? t ≠ some (.queued k)) →
    ∀ r, c.isActive r = true → (r, k) ∈ w.enlisted ∨ (r, k) ∈ w.renewed

namespace Settled

theorem stage?_of_calls (h : c.calls = []) (t : Nat) : c.stage? t = none := by
  rw [stage?, h]
  rfl

theorem finish (h : Settled c w) (hs : c.stage? t = some s) (u : Nat) :
    (c.finish t).stage? u = none := by
  rw [stage?_finish]
  split
  · rfl
  · rename_i hu
    cases hc : c.stage? u with
    | none => rfl
    | some s' => exact absurd (h.single u t s' s hc hs) hu

/-- A call that ends leaves none. -/
theorem of_finish (h : ∀ u, c.stage? u = none)
    (he : ∀ k, c.slot = some k → ∀ r, c.isActive r = true →
      (r, k) ∈ w.enlisted ∨ (r, k) ∈ w.renewed) : Settled c w where
  single := fun t _ _ _ ht => by rw [h t] at ht; cases ht
  here := fun t _ _ ht => by rw [h t] at ht; cases ht
  entered := fun k hk _ => he k hk

/-- A call that is the only one. -/
theorem of_wait (h : ∀ u, c.stage? u = if u = t then some s else none)
    (hk : ∀ k, s.connection? = some k → c.slot = some k)
    (he : ∀ k, c.slot = some k → s ≠ .queued k → ∀ r, c.isActive r = true →
      (r, k) ∈ w.enlisted ∨ (r, k) ∈ w.renewed) : Settled c w where
  single := by
    intro u v s₁ s₂ hu hv
    rw [h] at hu hv
    split at hu
    · split at hv
      · rename_i h₁ h₂
        rw [h₁, h₂]
      · cases hv
    · cases hu
  here := by
    intro u s' k hu hs
    rw [h] at hu
    split at hu
    · cases hu
      exact hk k hs
    · cases hu
  entered := by
    intro k hs hn
    refine he k hs fun hq => hn t ?_
    rw [h, if_pos rfl, hq]

theorem wait (h : Settled c w) (hs : c.stage? t = some s) (s' : Stage) (u : Nat) :
    (c.wait t s').stage? u = if u = t then some s' else none := by
  rw [stage?_wait]
  split
  · rfl
  · rename_i hu
    cases hc : c.stage? u with
    | none => rfl
    | some s'' => exact absurd (h.single u t s'' s hc hs) hu

/-- Only entries are added and only registrations are ended. -/
theorem weaken (h : Settled c w) (hc : c'.calls = c.calls) (hs : c'.slot = c.slot)
    (ha : ∀ r, c'.isActive r = true → c.isActive r = true)
    (he : w.enlisted ⊆ w'.enlisted) (hr : w.renewed ⊆ w'.renewed) : Settled c' w' := by
  have hst : ∀ t, c'.stage? t = c.stage? t := fun t => by rw [stage?, stage?, hc]
  refine ⟨fun t u s s' ht hu => ?_, fun t s k ht hk => ?_, fun k hk hn r hr' => ?_⟩
  · rw [hst] at ht hu
    exact h.single t u s s' ht hu
  · rw [hst] at ht
    rw [hs]
    exact h.here t s k ht hk
  · rw [hs] at hk
    exact (h.entered k hk (fun t => hst t ▸ hn t) r (ha r hr')).imp (he ·) (hr ·)

theorem renew (h : Settled c w) (hs : c.stage? t = some s) {k : ConnectionId}
    (hk : c.slot = some k) (rs : List RegistrationId)
    (he : ∀ r, c.isActive r = true → (r, k) ∈ w'.enlisted ∨ (r, k) ∈ w'.renewed) :
    Settled (c.renew t k rs).1 w' := by
  have he' : ∀ k', c.slot = some k' → ∀ r, c.isActive r = true →
      (r, k') ∈ w'.enlisted ∨ (r, k') ∈ w'.renewed := by
    intro k' hk'
    rw [hk] at hk'
    cases hk'
    exact he
  rcases renew_cases c t k rs with ⟨r, rest, -, hr⟩ | ⟨-, hr⟩
  · rw [hr]
    exact of_wait (h.wait hs _) (fun k' hk' => by cases hk'; exact hk) fun k' hk' _ => he' k' hk'
  · rw [hr]
    exact of_finish (h.finish hs) he'

/-- What is entered while a call waits that does not wait to renew. -/
theorem entered_of (h : Settled c w) (hs : c.stage? t = some s) (hn : ∀ k, s ≠ .queued k)
    {k : ConnectionId} (hk : c.slot = some k) {r : RegistrationId} (hr : c.isActive r = true) :
    (r, k) ∈ w.enlisted ∨ (r, k) ∈ w.renewed := by
  refine h.entered k hk (fun u hu => ?_) r hr
  have ht := h.single t u s _ hs hu
  rw [← ht, hs] at hu
  exact hn k (Option.some.inj hu)

theorem entered_of_calls (h : Settled c w) (hc : c.calls = []) {k : ConnectionId}
    (hk : c.slot = some k) {r : RegistrationId} (hr : c.isActive r = true) :
    (r, k) ∈ w.enlisted ∨ (r, k) ∈ w.renewed :=
  h.entered k hk (fun u hu => by rw [stage?_of_calls hc] at hu; cases hu) r hr

theorem wait_of_calls (hc : c.calls = []) (t : Nat) (s : Stage) (u : Nat) :
    (c.wait t s).stage? u = if u = t then some s else none := by
  rw [stage?_wait, stage?_of_calls hc]

theorem move (h : Settled c w) (he : Enrolled c) (hm : Move True c w c' w') : Settled c' w' := by
  have hr := List.Subset.refl w.enlisted
  have hr' := List.Subset.refl w.renewed
  cases hm with
  | enter t s hs hl hc ha =>
    exact of_wait (wait_of_calls (ha trivial) t s) hc
      fun k hk _ r hr => h.entered_of_calls (ha trivial) hk hr
  | shut t hs ha =>
    exact of_wait (c := c.enqueue t .draining) (wait_of_calls (ha trivial) t .draining) nofun
      fun k hk _ r hr => h.entered_of_calls (ha trivial) hk hr
  | leave t s hs hl =>
    exact of_finish (h.finish hs)
      fun k hk r hr => h.entered_of hs (fun k hq => by rw [hq] at hl; cases hl) hk hr
  | grant t k key hs hk =>
    exact of_wait (c := (c.addStream k key none).enqueue t (.enlisting k key))
      (h.wait hs (.enlisting k key)) (fun k' hk' => by cases hk'; exact h.here t _ k hs rfl)
      fun k hk _ r hr => h.entered_of hs nofun hk hr
  | dial t k hs hk =>
    -- The slot has the new connection, and this call waits to renew on it.
    refine of_wait (t := t) (s := .queued k) (h.wait hs (.queued k)) (fun k' hk' => hk')
      fun k' hk' hn => ?_
    have hk' : some k = some k' := hk'
    exact absurd (congrArg Stage.queued (Option.some.inj hk')) hn
  | enlist t k key hs hl =>
    refine of_finish (c := (c.enlist t k key).1) (h.finish hs) fun k' hk' r hr => ?_
    have hk : c.slot = some k := h.here t _ k hs rfl
    rcases (isActive_enlist c t k key r).mp hr with hr | rfl
    · exact (h.entered_of hs nofun hk' hr).imp_left (List.mem_append_left _)
    · have hkk : some k = some k' := hk.symm.trans hk'
      cases hkk
      exact .inl (List.mem_append_right _ (List.mem_singleton_self _))
  | renewal t k hs hl =>
    have hk : c.slot = some k := h.here t _ k hs rfl
    have h₁ : Settled { c with listed := c.listed.filter c.isActive } w :=
      h.weaken rfl rfl (fun _ hr => hr) hr hr'
    refine h₁.renew hs hk _ fun r hr => .inr (List.mem_append_right _ ?_)
    exact List.mem_map_of_mem (List.mem_filter.mpr ⟨he.listed r hr, hr⟩)
  | drain t hs =>
    obtain ⟨f, -, -, hd⟩ := drain_eq c t
    rw [hd]
    exact of_finish (h.finish hs) nofun
  | renewed t k r rest key hs hk =>
    have h₁ : Settled (c.addStream k key (some r)) w := h.weaken rfl rfl (fun _ hr => hr) hr hr'
    have hk : c.slot = some k := h.here t _ k hs rfl
    exact h₁.renew hs hk rest fun r hr => h.entered_of hs nofun hk hr
  | refused t k r rest hs =>
    have ha : ∀ r', (c.cancel r).isActive r' = true → c.isActive r' = true :=
      fun r' hr => (of_isActive_cancel hr).1
    have h₁ : Settled (c.cancel r) w := h.weaken rfl rfl ha hr hr'
    have hk : c.slot = some k := h.here t _ k hs rfl
    exact h₁.renew hs hk rest fun r' hr => h.entered_of hs nofun hk (ha r' hr)
  | release r => exact h.weaken rfl rfl (fun r' hr => (of_isActive_cancel hr).1) hr hr'
  | close =>
    rw [closeUnheld_eq]
    exact h.weaken rfl rfl (fun _ hr => hr) hr hr'
  | forward =>
    rw [runStreams_eq]
    exact h.weaken rfl rfl (fun _ hr => hr) hr hr'
  | _ => exact h.weaken rfl rfl (fun _ hr => hr) hr hr'

theorem run (h : Settled c w) (hs : Sound c w) {es : List Event} (hl : c.Lawful w es)
    (hq : c.Sequential es) : Settled (c.after es) (c.ledger w es) := by
  induction es generalizing c w with
  | nil => exact h
  | cons e es ih =>
    -- Both invariants hold between the moves of a step too, and the second needs the first there.
    have hm : Moves True c w (c.step e).1 (c.book w e) :=
      step_moves hs.orderly hl.1 fun _ => hq.1
    have hk : Sound (c.step e).1 (c.book w e) ∧ Settled (c.step e).1 (c.book w e) :=
      hm.keep (P := fun c w => Sound c w ∧ Settled c w)
        (fun hm h => ⟨h.1.move hm, h.2.move h.1.enrolled hm⟩) ⟨hs, h⟩
    exact ih hk.2 hk.1 hl.2 hq.2

theorem new (address : Node.Address) (url : Url) (k : ConnectionId) :
    Settled (new address url k) (.start k) where
  single := nofun
  here := nofun
  entered := fun _ _ _ r hr => by simp [isActive, Client.new] at hr

end Settled

/-! ### What a forwarder hands on -/

/-- Where a stream brings a registration the items of the connection in the slot, the next item
of it gets to the handler. -/
theorem handles {k : ConnectionId} (hk : c.slot = some k) {r : RegistrationId} {stream : Stream}
    (hm : stream ∈ c.streams) (hv : stream.serves r k = true) (i : Item) :
    .handle r ∈ (c.step (.item k stream.key i)).2 := by
  simp only [Stream.serves, Bool.and_eq_true, decide_eq_true_eq] at hv
  obtain ⟨⟨hr, hc⟩, ho⟩ := hv
  let pushed : Stream := { stream with forwarder := stream.forwarder.push i }
  have hp : pushed ∈ (c.onStream k stream.key (·.push i)).closeUnheld.1.streams := by
    rw [closeUnheld_eq]
    refine List.mem_map.mpr ⟨pushed, List.mem_map.mpr ⟨stream, hm, if_pos ⟨hc, rfl⟩⟩, ?_⟩
    have hu : k ∉ (c.onStream k stream.key (·.push i)).unheld := by
      intro hu
      have hn := (List.mem_filter.mp hu).2
      simp [isHeld, show (c.onStream k stream.key (·.push i)).slot = some k from hk] at hn
    exact if_neg (by rw [hc]; exact hu)
  have hq : pushed.forwarder.isOpen = true ∧ i ∈ pushed.forwarder.queue := by
    have he : stream.forwarder.ended = false := by
      simp only [Forwarder.isOpen, Bool.and_eq_true, Bool.not_eq_true'] at ho
      exact ho.1.2
    have hpush : stream.forwarder.push i =
        { stream.forwarder with queue := stream.forwarder.queue ++ [i] } := by
      rw [Forwarder.push, if_neg (by simp [he])]
    show (stream.forwarder.push i).isOpen = true ∧ i ∈ (stream.forwarder.push i).queue
    rw [hpush]
    exact ⟨ho, List.mem_append_right _ (List.mem_singleton_self i)⟩
  refine List.mem_append_right _ (List.mem_flatMap.mpr ⟨_, List.mem_map_of_mem hp, ?_⟩)
  unfold runStream
  rw [show pushed.registration = some r from hr]
  dsimp only
  rw [settle_of_open hq.1]
  refine List.mem_flatMap.mpr ⟨.handle, List.mem_flatMap.mpr ⟨i, hq.2, ?_⟩, ?_⟩
  · cases i <;> simp [Forwarder.dispatch]
  · exact List.mem_singleton_self _

/-- After calls one after another, and whatever the node has done: on a connection that is not
lost, a registration that is not ended has a forwarder that hands on the next item, unless the
node has ended its subscription there. -/
theorem served_iff_not_closed (address : Node.Address) (url : Url) (k₀ : ConnectionId)
    (es : List Event) (hl : (new address url k₀).Lawful (.start k₀) es)
    (hq : (new address url k₀).Sequential es) :
    let c := (new address url k₀).after es
    let w := (new address url k₀).ledger (.start k₀) es
    c.calls = [] → ∀ k r, c.slot = some k → .lost k ∉ es → c.isActive r = true →
      ((∃ stream ∈ c.streams, stream.serves r k = true ∧
        ∀ i, .handle r ∈ (c.step (.item k stream.key i)).2) ↔ (r, k) ∉ w.closed) := by
  dsimp only
  intro hc k r hk hn hr
  have hs := Sound.run (.new address url k₀) hl
  have ht := Settled.run (.new address url k₀) (.new address url k₀) hl hq
  have hlost : k ∉ ((new address url k₀).ledger (.start k₀) es).lost := fun hm =>
    (mem_lost hm).elim List.not_mem_nil hn
  obtain ⟨hb, ho⟩ := hs.settled hc hk hlost hr
  have he := ht.entered_of_calls hc hk hr
  rw [← List.count_pos_iff, ← List.count_pos_iff] at he
  rw [← List.count_eq_zero]
  constructor
  · rintro ⟨stream, hm, hv, -⟩
    have hp : 0 < ((new address url k₀).after es).live r k :=
      List.countP_pos_iff.mpr ⟨stream, hm, hv⟩
    omega
  · intro hz
    have hp : 0 < ((new address url k₀).after es).live r k := by omega
    obtain ⟨stream, hm, hv⟩ := List.countP_pos_iff.mp hp
    exact ⟨stream, hm, hv, handles hk hm hv⟩

/-- A registration on the first connection. -/
def registeredOnce : List Event := [.begin 1 .register, .subscribed 1 (.ok (.number 7))]

theorem lawful_registeredOnce : (new default default 0).Lawful (.start 0) registeredOnce := by
  refine ⟨rfl, ?_, trivial⟩
  intro s k hs hk stream hm
  cases hm

theorem sequential_registeredOnce : (new default default 0).Sequential registeredOnce :=
  ⟨fun _ _ _ => rfl, nofun, trivial⟩

theorem served_registeredOnce :
    ∃ stream ∈ ((new default default 0).after registeredOnce).streams,
      stream.serves 0 0 = true ∧ ∀ i, .handle 0 ∈
        (((new default default 0).after registeredOnce).step (.item 0 stream.key i)).2 :=
  (served_iff_not_closed default default 0 registeredOnce lawful_registeredOnce
    sequential_registeredOnce rfl 0 0 rfl (by simp [registeredOnce]) rfl).mpr (by decide)

/-- The node ends the subscription of a registration, on a connection that stays open. -/
def closedOnce : List Event :=
  [.begin 1 .register, .subscribed 1 (.ok (.number 7)), .ended 0 (.number 7)]

theorem closed_but_active :
    (new default default 0).Lawful (.start 0) closedOnce ∧
      (new default default 0).Sequential closedOnce ∧
      ((new default default 0).after closedOnce).calls = [] ∧
      ((new default default 0).after closedOnce).slot = some 0 ∧
      .lost 0 ∉ closedOnce ∧
      ((new default default 0).after closedOnce).isActive 0 = true ∧
      ((new default default 0).after closedOnce).streams = [] := by
  refine ⟨⟨rfl, ?_, trivial, trivial⟩, ⟨fun _ _ _ => rfl, nofun, nofun, trivial⟩, rfl, rfl,
    by simp [closedOnce], rfl, rfl⟩
  intro s k hs hk stream hm
  cases hm

end Client
end WorkBridge.Link
