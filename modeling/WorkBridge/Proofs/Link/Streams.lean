import WorkBridge.Proofs.Link.Standing

/-!
Streams, and who they belong to.

`Bounded` says that nothing speaks of a registration or a connection that has not been there
yet.  `Awaited` says that each call that waits to put a registration on the list has a stream
of its own, and that there are no others without a registration.
-/

namespace WorkBridge.Link

namespace Stage

/-- Whether a call will take a given subscription for its registration. -/
def enlists (k : ConnectionId) (key : Rpc.SubscriptionKey) : Stage → Nat
  | .enlisting k' key' => if k' = k ∧ key' = key then 1 else 0
  | _ => 0

theorem enlists_eq_zero {s : Stage} (h : s.inLine = false) (k : ConnectionId)
    (key : Rpc.SubscriptionKey) : s.enlists k key = 0 := by
  cases s with
  | enlisting k' key' => cases h
  | _ => rfl

end Stage

namespace Client

variable {alone : Prop} {c c' : Client} {w w' : Ledger} {t : Nat} {s : Stage}

/-! ### Counting streams -/

theorem countP_map_steady {p : Stream → Bool} {f : Stream → Stream} {l : List Stream}
    (h : ∀ s ∈ l, p (f s) = p s) : (l.map f).countP p = l.countP p := by
  rw [List.countP_map]
  exact List.countP_congr fun s hs => by rw [Function.comp_apply, h s hs]

theorem isSpare_steady {f : Stream → Stream} (hf : Stream.Steady f) (k : ConnectionId)
    (key : Rpc.SubscriptionKey) (s : Stream) : (f s).isSpare k key = s.isSpare k key := by
  unfold Stream.isSpare
  rw [hf.connection, hf.key, hf.registration]

/-- What a call weighs that goes on to renew. -/
theorem weigh_renew (hn : (c.calls.map (·.ticket)).Nodup) (hs : c.stage? t = some s)
    (k : ConnectionId) (f : Stage → Nat) (rs : List RegistrationId) :
    (c.renew t k rs).1.weigh f + f s =
      c.weigh f + (match rs with | [] => 0 | r :: rest => f (.renewing k r rest)) := by
  cases rs with
  | nil => exact weigh_finish hn hs f
  | cons r rest => exact weigh_wait hn hs _ f

/-! ### What has been there -/

structure Bounded (c : Client) (w : Ledger) : Prop where
  known : ∀ s ∈ c.streams, s.connection ∈ w.known
  running : ∀ s ∈ c.streams, s.forwarder.running = true
  registered : ∀ s ∈ c.streams, ∀ r, s.registration = some r → r < c.active.length
  entries : ∀ p ∈ w.enlisted ++ w.renewed ++ w.closed,
    p.1 < c.active.length ∧ p.2 ∈ w.known
  pending : ∀ t k r rest, c.stage? t = some (.renewing k r rest) →
    ∀ r' ∈ r :: rest, r' < c.active.length

namespace Bounded

/-- What changes forwarders and nothing else of streams makes no difference. -/
theorem steady (h : Bounded c w) {f : Stream → Stream} (hf : Stream.Steady f)
    (hs : c'.streams = c.streams.map f) (hl : c'.active.length = c.active.length)
    (hc : ∀ t k r rest, c'.stage? t = some (.renewing k r rest) →
      ∀ r' ∈ r :: rest, r' < c.active.length) : Bounded c' w where
  known := by
    intro s hm
    rw [hs] at hm
    obtain ⟨s₀, hm₀, rfl⟩ := List.mem_map.mp hm
    rw [hf.connection]
    exact h.known s₀ hm₀
  running := by
    intro s hm
    rw [hs] at hm
    obtain ⟨s₀, hm₀, rfl⟩ := List.mem_map.mp hm
    rw [hf.running]
    exact h.running s₀ hm₀
  registered := by
    intro s hm r hr
    rw [hs] at hm
    obtain ⟨s₀, hm₀, rfl⟩ := List.mem_map.mp hm
    rw [hf.registration] at hr
    rw [hl]
    exact h.registered s₀ hm₀ r hr
  entries := fun p hp => by
    rw [hl]
    exact h.entries p hp
  pending := fun t k r rest ht => by
    rw [hl]
    exact hc t k r rest ht

theorem congr (h : Bounded c w) (hs : c'.streams = c.streams)
    (hl : c'.active.length = c.active.length)
    (hc : ∀ t k r rest, c'.stage? t = some (.renewing k r rest) →
      ∀ r' ∈ r :: rest, r' < c.active.length) : Bounded c' w :=
  h.steady steady_id (by rw [hs, List.map_id]) hl hc

/-- More on the ledger. -/
theorem enter (h : Bounded c w) (hk : w.known ⊆ w'.known)
    (hp : ∀ p ∈ w'.enlisted ++ w'.renewed ++ w'.closed,
      p ∈ w.enlisted ++ w.renewed ++ w.closed ∨ p.1 < c.active.length ∧ p.2 ∈ w'.known) :
    Bounded c w' where
  known := fun s hs => hk (h.known s hs)
  running := h.running
  registered := h.registered
  entries := fun p hm => (hp p hm).elim (fun hm => (h.entries p hm).imp_right (hk ·)) id
  pending := h.pending

theorem finish (h : Bounded c w) (t : Nat) : Bounded (c.finish t) w := by
  refine h.congr rfl rfl fun u k r rest hu => ?_
  rw [stage?_finish] at hu
  split at hu
  · cases hu
  · exact h.pending u k r rest hu

theorem wait (h : Bounded c w) (t : Nat)
    (hr : ∀ k r rest, s = .renewing k r rest → ∀ r' ∈ r :: rest, r' < c.active.length) :
    Bounded (c.wait t s) w := by
  refine h.congr rfl rfl fun u k r rest hu => ?_
  rw [stage?_wait] at hu
  split at hu
  · exact hr k r rest (Option.some.inj hu)
  · exact h.pending u k r rest hu

theorem renew (h : Bounded c w) (t : Nat) (k : ConnectionId) {rs : List RegistrationId}
    (hr : ∀ r ∈ rs, r < c.active.length) : Bounded (c.renew t k rs).1 w := by
  rcases renew_cases c t k rs with ⟨r, rest, rfl, he⟩ | ⟨-, he⟩
  · rw [he]
    exact h.wait t fun k' r' rest' hs => by cases hs; exact hr
  · rw [he]
    exact (h.finish t).congr rfl rfl (h.finish t).pending

theorem addStream (h : Bounded c w) {k : ConnectionId} (hk : k ∈ w.known)
    (key : Rpc.SubscriptionKey) {o : Option RegistrationId}
    (ho : ∀ r, o = some r → r < c.active.length) : Bounded (c.addStream k key o) w where
  known := by
    intro s hs
    rcases List.mem_append.mp hs with hs | hs
    · exact h.known s hs
    · rw [List.mem_singleton.mp hs]
      exact hk
  running := by
    intro s hs
    rcases List.mem_append.mp hs with hs | hs
    · exact h.running s hs
    · rw [List.mem_singleton.mp hs]
  registered := by
    intro s hs r hr
    rcases List.mem_append.mp hs with hs | hs
    · exact h.registered s hs r hr
    · rw [List.mem_singleton.mp hs] at hr
      exact ho r hr
  entries := h.entries
  pending := h.pending

theorem toRenew_mem (h : Enrolled c) {k : ConnectionId} {p : RegistrationId × ConnectionId}
    (hp : p ∈ c.toRenew k) : p.1 < c.active.length ∧ p.2 = k := by
  obtain ⟨r, hr, rfl⟩ := List.mem_map.mp hp
  exact ⟨h.lt r (List.mem_filter.mp hr).1, rfl⟩

theorem closes_mem (h : Bounded c w) {k : ConnectionId} {key : Rpc.SubscriptionKey}
    {p : RegistrationId × ConnectionId} (hp : p ∈ c.closes k key) :
    p.1 < c.active.length ∧ p.2 ∈ w.known := by
  obtain ⟨s, hs, hr⟩ := List.mem_filterMap.mp hp
  obtain ⟨r, hr₀, rfl⟩ := Option.map_eq_some_iff.mp hr
  obtain ⟨hs, hk⟩ := List.mem_filter.mp hs
  simp only [Bool.and_eq_true, decide_eq_true_eq] at hk
  exact ⟨h.registered s hs r hr₀, hk.1.1 ▸ h.known s hs⟩

theorem enlist (h : Bounded c w) (t : Nat) {k : ConnectionId} (hk : k ∈ w.known)
    (key : Rpc.SubscriptionKey) : Bounded (c.enlist t k key).1 { w with
      enlisted := w.enlisted ++ [(c.active.length, k)]
      closed := w.closed ++ c.closedBefore k key } := by
  have hl : (c.enlist t k key).1.active.length = c.active.length + 1 := List.length_append
  refine ⟨fun s hs => ?_, fun s hs => ?_, fun s hs r hr => ?_, fun p hp => ?_,
    fun u k' r rest hu r' hr => ?_⟩
  · obtain ⟨s₀, hs₀, rfl⟩ := List.mem_map.mp hs
    split <;> exact h.known s₀ hs₀
  · obtain ⟨s₀, hs₀, rfl⟩ := List.mem_map.mp hs
    split <;> exact h.running s₀ hs₀
  · rw [hl]
    obtain ⟨s₀, hs₀, rfl⟩ := List.mem_map.mp hs
    split at hr
    · rw [← Option.some.inj hr]
      exact Nat.lt_succ_self _
    · exact Nat.lt_succ_of_lt (h.registered s₀ hs₀ r hr)
  · rw [hl]
    have hn : p ∈ [(c.active.length, k)] → p.1 < c.active.length + 1 ∧ p.2 ∈ w.known := by
      intro hp
      rw [List.mem_singleton.mp hp]
      exact ⟨Nat.lt_succ_self _, hk⟩
    have ho : p ∈ w.enlisted ++ w.renewed ++ w.closed →
        p.1 < c.active.length + 1 ∧ p.2 ∈ w.known := fun hp =>
      (h.entries p hp).imp_left Nat.lt_succ_of_lt
    have hb : p ∈ c.closedBefore k key → p ∈ [(c.active.length, k)] := by
      unfold closedBefore
      split
      · exact id
      · intro hp
        cases hp
    simp only [List.mem_append] at hp ho
    tauto
  · rw [hl]
    have hu : (c.finish t).stage? u = some (.renewing k' r rest) := hu
    exact Nat.lt_succ_of_lt ((h.finish t).pending u k' r rest hu r' hr)

theorem grant (h : Bounded c w) (t : Nat) {k : ConnectionId} (hk : k ∈ w.known)
    (key : Rpc.SubscriptionKey) :
    Bounded ((c.addStream k key none).enqueue t (.enlisting k key)) w := by
  have ha := h.addStream hk key (o := none) nofun
  have hw : Bounded ((c.addStream k key none).wait t (.enlisting k key)) w := ha.wait t nofun
  exact hw.congr rfl rfl hw.pending

theorem dial (h : Bounded c w) (t : Nat) (k : ConnectionId) :
    Bounded ({ c with slot := some k, connections := c.connections ++ [k] }.enqueue t (.queued k))
      { w with known := w.known ++ [k] } := by
  have hw : Bounded (c.wait t (.queued k)) w := h.wait t nofun
  have he : Bounded (c.wait t (.queued k)) { w with known := w.known ++ [k] } :=
    hw.enter (List.subset_append_left _ _) fun p hp => .inl hp
  exact he.congr rfl rfl he.pending

theorem length_startRenewal (c : Client) (t : Nat) (k : ConnectionId) :
    (c.startRenewal t k).1.active.length = c.active.length := by
  unfold startRenewal
  rcases renew_cases { c with listed := c.listed.filter c.isActive } t k
    (c.listed.filter c.isActive) with ⟨r, rest, -, he⟩ | ⟨-, he⟩ <;>
  · rw [he]
    rfl

theorem renewal (h : Bounded c w) (he : Enrolled c) (t : Nat) {k : ConnectionId}
    (hk : k ∈ w.known) :
    Bounded (c.startRenewal t k).1 { w with renewed := w.renewed ++ c.toRenew k } := by
  have hr : Bounded (c.startRenewal t k).1 w :=
    renew (c := { c with listed := c.listed.filter c.isActive }) (h.congr rfl rfl h.pending) t k
      fun r hr => he.lt r (List.mem_filter.mp hr).1
  refine hr.enter (List.Subset.refl _) fun p hp => ?_
  have ht : p ∈ c.toRenew k → p.1 < (c.startRenewal t k).1.active.length ∧ p.2 ∈ w.known := by
    intro hp
    have hp := toRenew_mem he hp
    rw [length_startRenewal]
    exact ⟨hp.1, hp.2 ▸ hk⟩
  simp only [List.mem_append] at hp ⊢
  tauto

theorem drain (h : Bounded c w) (t : Nat) : Bounded (c.drain t).1 w := by
  obtain ⟨f, hf, -, he⟩ := drain_eq c t
  rw [he]
  exact (h.finish t).steady hf rfl (length_cancelAll c c.listed) (h.finish t).pending

theorem cancel (h : Bounded c w) (r : RegistrationId) : Bounded (c.cancel r) w :=
  h.steady (steady_cancel r) rfl (length_cancel c r) h.pending

theorem renewed (h : Bounded c w) {k : ConnectionId} (hk : k ∈ w.known) {r : RegistrationId}
    {rest : List RegistrationId} (hs : c.stage? t = some (.renewing k r rest))
    (key : Rpc.SubscriptionKey) : Bounded ((c.addStream k key (some r)).renew t k rest).1 w := by
  have hp := h.pending t k r rest hs
  have ha := h.addStream hk key (o := some r)
    (fun r' hr => by cases hr; exact hp r List.mem_cons_self)
  exact ha.renew t k fun r' hr => hp r' (List.mem_cons_of_mem r hr)

theorem refused (h : Bounded c w) {k : ConnectionId} {r : RegistrationId}
    {rest : List RegistrationId} (hs : c.stage? t = some (.renewing k r rest)) :
    Bounded ((c.cancel r).renew t k rest).1 w := by
  refine (h.cancel r).renew t k fun r' hr => ?_
  rw [length_cancel]
  exact h.pending t k r rest hs r' (List.mem_cons_of_mem r hr)

theorem ended (h : Bounded c w) (k : ConnectionId) (key : Rpc.SubscriptionKey) :
    Bounded (c.onStream k key fun f => { f with ended := true })
      { w with closed := w.closed ++ c.closes k key, troubled := w.troubled ++ [k] } := by
  have hb : Bounded (c.onStream k key fun f => { f with ended := true }) w :=
    h.steady (steady_ended k key) rfl rfl h.pending
  refine hb.enter (List.Subset.refl _) fun p hp => ?_
  have hc : p ∈ c.closes k key → p.1 < c.active.length ∧ p.2 ∈ w.known := h.closes_mem
  simp only [List.mem_append] at hp ⊢
  tauto

theorem lost (h : Bounded c w) (k : ConnectionId) :
    Bounded (c.endStreams k) { w with lost := w.lost ++ [k] } := by
  have hb : Bounded (c.endStreams k) w := h.steady (steady_endStreams k) rfl rfl h.pending
  exact hb.enter (List.Subset.refl _) fun p hp => .inl hp

/-- The forwarders that have stopped are gone. -/
theorem forward (h : Bounded c w) : Bounded c.runStreams.1 w := by
  rw [runStreams_eq]
  refine ⟨fun s hs => ?_, fun s hs => (List.mem_filter.mp hs).2, fun s hs r hr => ?_,
    h.entries, h.pending⟩
  · obtain ⟨s₀, hs₀, rfl⟩ := List.mem_map.mp (List.mem_filter.mp hs).1
    rw [connection_forwarded]
    exact h.known s₀ hs₀
  · obtain ⟨s₀, hs₀, rfl⟩ := List.mem_map.mp (List.mem_filter.mp hs).1
    rw [registration_forwarded] at hr
    exact h.registered s₀ hs₀ r hr

theorem move (h : Bounded c w) (hc : Connected c w.known) (he : Enrolled c)
    (hm : Move alone c w c' w') : Bounded c' w' := by
  have hk : ∀ {t s k}, c.stage? t = some s → s.connection? = some k → k ∈ w.known :=
    fun hs hk => hc.known _ (hc.calls _ _ _ hs hk)
  cases hm with
  | enter t s _ hl _ _ => exact h.wait t (by rintro k r rest rfl; cases hl)
  | shut t _ _ =>
    have hw : Bounded (c.wait t .draining) w := h.wait t nofun
    exact hw.congr rfl rfl hw.pending
  | leave t _ _ _ => exact h.finish t
  | grant t k key hs _ => exact h.grant t (hk hs rfl) key
  | dial t k _ _ => exact h.dial t k
  | enlist t k key hs _ => exact h.enlist t (hk hs rfl) key
  | renewal t k hs _ => exact h.renewal he t (hk hs rfl)
  | drain t _ => exact h.drain t
  | renewed t k r rest key hs _ => exact h.renewed (hk hs rfl) hs key
  | refused t k r rest hs => exact h.refused hs
  | release r => exact h.cancel r
  | item k key i => exact h.steady (steady_item k key i) rfl rfl h.pending
  | ended k key => exact h.ended k key
  | lost k => exact h.lost k
  | close =>
    rw [closeUnheld_eq]
    exact h.steady (steady_endingAll _) rfl rfl h.pending
  | forward => exact h.forward

end Bounded

/-! ### Streams without a registration -/

/-- Each call that waits to put a registration on the list has one stream without one, and it
is as the node has left it. -/
structure Awaited (c : Client) (w : Ledger) : Prop where
  count : ∀ k key, c.streams.countP (Stream.isSpare k key) = c.weigh (Stage.enlists k key)
  one : ∀ k key, c.weigh (Stage.enlists k key) ≤ 1
  uncancelled : ∀ s ∈ c.streams, s.registration = none → s.forwarder.cancelled = false
  ended : ∀ s ∈ c.streams, s.registration = none → s.forwarder.ended = true →
    s.connection ∈ w.troubled ∨ s.connection ∈ w.lost

namespace Awaited

theorem steady (h : Awaited c w) {f : Stream → Stream} (hf : Stream.Steady f)
    (hs : c'.streams = c.streams.map f)
    (hw : ∀ k key, c'.weigh (Stage.enlists k key) = c.weigh (Stage.enlists k key))
    (hc : ∀ s ∈ c.streams, s.registration = none →
      (f s).forwarder.cancelled = s.forwarder.cancelled)
    (he : ∀ s ∈ c.streams, s.registration = none → (f s).forwarder.ended = true →
      s.forwarder.ended = true ∨ s.connection ∈ w'.troubled ∨ s.connection ∈ w'.lost)
    (ht : w.troubled ⊆ w'.troubled) (hl : w.lost ⊆ w'.lost) : Awaited c' w' where
  count := by
    intro k key
    rw [hs, countP_map_steady fun s _ => isSpare_steady hf k key s, hw, h.count]
  one := fun k key => by
    rw [hw]
    exact h.one k key
  uncancelled := by
    intro s hm hr
    rw [hs] at hm
    obtain ⟨s₀, hm₀, rfl⟩ := List.mem_map.mp hm
    rw [hf.registration] at hr
    rw [hc s₀ hm₀ hr]
    exact h.uncancelled s₀ hm₀ hr
  ended := by
    intro s hm hr hd
    rw [hs] at hm
    obtain ⟨s₀, hm₀, rfl⟩ := List.mem_map.mp hm
    rw [hf.registration] at hr
    rw [hf.connection]
    rcases he s₀ hm₀ hr hd with hd | hd
    · exact (h.ended s₀ hm₀ hr hd).imp (ht ·) (hl ·)
    · exact hd

theorem congr (h : Awaited c w) (hs : c'.streams = c.streams)
    (hw : ∀ k key, c'.weigh (Stage.enlists k key) = c.weigh (Stage.enlists k key))
    (ht : w.troubled ⊆ w'.troubled) (hl : w.lost ⊆ w'.lost) : Awaited c' w' :=
  h.steady steady_id (by rw [hs, List.map_id]) hw (fun _ _ _ => rfl) (fun _ _ _ he => .inl he)
    ht hl

theorem renew (h : Awaited c w) (ho : Orderly c) {k : ConnectionId}
    (hs : c.stage? t = some s) (hz : ∀ k key, s.enlists k key = 0) (rs : List RegistrationId) :
    Awaited (c.renew t k rs).1 w := by
  have he : (c.renew t k rs).1.streams = c.streams := by
    rcases renew_cases c t k rs with ⟨r, rest, -, he⟩ | ⟨-, he⟩ <;> rw [he] <;> rfl
  refine h.congr he (fun k' key => ?_) (List.Subset.refl _) (List.Subset.refl _)
  have hw := weigh_renew ho.tickets hs k (Stage.enlists k' key) rs
  have hr : (match rs with
      | [] => 0
      | r :: rest => (Stage.renewing k r rest).enlists k' key) = 0 := by
    cases rs <;> rfl
  rw [hz, hr] at hw
  exact hw

theorem cancel (h : Awaited c w) (r : RegistrationId) : Awaited (c.cancel r) w := by
  refine h.steady (steady_cancel r) rfl (fun _ _ => rfl) (fun s _ hn => ?_)
    (fun s _ hn hd => .inl ?_) (List.Subset.refl _) (List.Subset.refl _)
  · simp [hn]
  · simpa [hn] using hd

/-- A stream of a registration is nobody else's. -/
theorem addStream_some (h : Awaited c w) (k : ConnectionId) (key : Rpc.SubscriptionKey)
    (r : RegistrationId) : Awaited (c.addStream k key (some r)) w where
  count := by
    intro k' key'
    have hn : ∀ f, Stream.isSpare k' key' ⟨k, key, some r, f⟩ = false := fun f => by
      simp [Stream.isSpare]
    show (c.streams ++ [_]).countP _ = _
    rw [List.countP_append, List.countP_singleton, hn, h.count]
    rfl
  one := h.one
  uncancelled := by
    intro s hs hr
    rcases List.mem_append.mp hs with hs | hs
    · exact h.uncancelled s hs hr
    · rw [List.mem_singleton.mp hs] at hr
      cases hr
  ended := by
    intro s hs hr
    rcases List.mem_append.mp hs with hs | hs
    · exact h.ended s hs hr
    · rw [List.mem_singleton.mp hs] at hr
      cases hr

/-- A call gets a stream as it gets in line. -/
theorem grant (h : Awaited c w) (ho : Orderly c) {k : ConnectionId}
    {key : Rpc.SubscriptionKey} (hs : c.stage? t = some (.subscribing k))
    (hk : ∀ s ∈ c.streams, s.connection = k → s.key ≠ key) :
    Awaited ((c.addStream k key none).enqueue t (.enlisting k key)) w := by
  have hw : ∀ k' key',
      ((c.addStream k key none).enqueue t (.enlisting k key)).weigh (Stage.enlists k' key') =
        c.weigh (Stage.enlists k' key') + if k = k' ∧ key = key' then 1 else 0 :=
    fun k' key' => weigh_wait ho.tickets hs (.enlisting k key) (Stage.enlists k' key')
  have hz : c.weigh (Stage.enlists k key) = 0 := by
    rw [← h.count, List.countP_eq_zero]
    intro s hm hu
    simp only [Stream.isSpare, Bool.and_eq_true, decide_eq_true_eq] at hu
    exact hk s hm hu.1.1 hu.1.2
  refine ⟨fun k' key' => ?_, fun k' key' => ?_, fun s hm hr => ?_, fun s hm hr => ?_⟩
  · rw [hw, ← h.count]
    show (c.streams ++ [_]).countP _ = _
    rw [List.countP_append, List.countP_singleton]
    simp [Stream.isSpare]
  · rw [hw]
    have := h.one k' key'
    split
    · rename_i he
      rw [he.1, he.2] at hz
      omega
    · exact this
  · rcases List.mem_append.mp hm with hm | hm
    · exact h.uncancelled s hm hr
    · rw [List.mem_singleton.mp hm]
      rfl
  · rcases List.mem_append.mp hm with hm | hm
    · exact h.ended s hm hr
    · rw [List.mem_singleton.mp hm]
      intro he
      cases he

/-- A call gives its stream, and no other, to the registration that it puts on the list. -/
theorem enlist (h : Awaited c w) (ho : Orderly c) {k : ConnectionId}
    {key : Rpc.SubscriptionKey} (hs : c.stage? t = some (.enlisting k key)) :
    Awaited (c.enlist t k key).1 { w with
      enlisted := w.enlisted ++ [(c.active.length, k)]
      closed := w.closed ++ c.closedBefore k key } := by
  have hw : ∀ k' key', (c.enlist t k key).1.weigh (Stage.enlists k' key') +
      (if k = k' ∧ key = key' then 1 else 0) = c.weigh (Stage.enlists k' key') :=
    fun k' key' => weigh_finish ho.tickets hs (Stage.enlists k' key')
  have ho := h.one k key
  refine ⟨fun k' key' => ?_, fun k' key' => ?_, fun s hm hr => ?_, fun s hm hr => ?_⟩
  · have hw' := hw k' key'
    show (c.streams.map _).countP _ = _
    rw [List.countP_map]
    by_cases he : k = k' ∧ key = key'
    · obtain ⟨rfl, rfl⟩ := he
      have hz : c.streams.countP (Stream.isSpare k key ∘ fun s : Stream =>
          if s.connection = k ∧ s.key = key ∧ s.registration.isNone = true then
            { s with registration := some c.active.length } else s) = 0 := by
        rw [List.countP_eq_zero]
        intro s hm hu
        simp only [Function.comp_apply] at hu
        split at hu
        · simp [Stream.isSpare] at hu
        · rename_i hn
          simp only [Stream.isSpare, Bool.and_eq_true, decide_eq_true_eq] at hu
          tauto
      rw [hz]
      simp only [and_self, if_true] at hw'
      omega
    · rw [if_neg he, Nat.add_zero] at hw'
      rw [hw', ← h.count]
      refine List.countP_congr fun s hm => ?_
      simp only [Function.comp_apply]
      split
      · rename_i hs
        simp only [Stream.isSpare, Option.isNone_some, Bool.and_false, Bool.false_eq_true,
          Bool.and_eq_true, decide_eq_true_eq, false_iff]
        rintro ⟨⟨hk, hkey⟩, -⟩
        exact he ⟨hs.1.symm.trans hk, hs.2.1.symm.trans hkey⟩
      · rfl
  · have hw' := hw k' key'
    have ho' := h.one k' key'
    omega
  · obtain ⟨s₀, hm₀, rfl⟩ := List.mem_map.mp hm
    split at hr
    · cases hr
    · rw [if_neg (by assumption)]
      exact h.uncancelled s₀ hm₀ hr
  · obtain ⟨s₀, hm₀, rfl⟩ := List.mem_map.mp hm
    split at hr
    · cases hr
    · rw [if_neg (by assumption)]
      exact h.ended s₀ hm₀ hr

theorem isHeld (h : Awaited c w) {s : Stream} (hm : s ∈ c.streams)
    (hr : s.registration = none) : c.isHeld s.connection = true := by
  have hp : 0 < c.streams.countP (Stream.isSpare s.connection s.key) :=
    List.countP_pos_iff.mpr ⟨s, hm, by simp [Stream.isSpare, hr]⟩
  rw [h.count] at hp
  obtain ⟨call, hc, hp⟩ := exists_of_weigh_pos hp
  simp only [Client.isHeld, Bool.or_eq_true, List.any_eq_true]
  refine .inr ⟨call, hc, ?_⟩
  cases hs : call.stage with
  | enlisting k key =>
    rw [hs] at hp
    by_cases he : k = s.connection
    · simp [Stage.connection?, he]
    · simp [Stage.enlists, he] at hp
  | _ => simp [hs, Stage.enlists] at hp

theorem not_unheld (h : Awaited c w) {s : Stream} (hm : s ∈ c.streams)
    (hr : s.registration = none) : s.connection ∉ c.unheld := by
  intro hu
  have hn := (List.mem_filter.mp hu).2
  rw [h.isHeld hm hr] at hn
  cases hn

theorem forward (h : Awaited c w) (hb : Bounded c w) : Awaited c.runStreams.1 w := by
  rw [runStreams_eq]
  have hn : ∀ s : Stream, s.registration = none → forwarded s = s := by
    intro s hr
    unfold forwarded
    rw [hr]
  have hmem : ∀ s ∈ (c.streams.map forwarded).filter (·.forwarder.running),
      s.registration = none → s ∈ c.streams := by
    intro s hm hr
    obtain ⟨s₀, hm₀, rfl⟩ := List.mem_map.mp (List.mem_filter.mp hm).1
    rw [registration_forwarded] at hr
    rw [hn s₀ hr]
    exact hm₀
  refine ⟨fun k key => ?_, h.one, fun s hm hr => h.uncancelled s (hmem s hm hr) hr,
    fun s hm hr => h.ended s (hmem s hm hr) hr⟩
  rw [List.countP_filter, List.countP_map]
  refine Eq.trans (List.countP_congr fun s hm => ?_) (h.count k key)
  simp only [Function.comp_apply, Stream.isSpare, connection_forwarded, key_forwarded,
    registration_forwarded, Bool.and_eq_true, decide_eq_true_eq, Option.isNone_iff_eq_none]
  constructor
  · exact fun hu => hu.1
  · refine fun hu => ⟨hu, ?_⟩
    rw [hn s hu.2]
    exact hb.running s hm

theorem drain (h : Awaited c w) (ho : Orderly c) (hs : c.stage? t = some .draining) :
    Awaited (c.drain t).1 w := by
  obtain ⟨f, hf, hn, he⟩ := drain_eq c t
  rw [he]
  refine h.steady hf rfl (fun k key => ?_) (fun s _ hr => by rw [hn s hr])
    (fun s _ hr hd => .inl (by rwa [hn s hr] at hd)) (List.Subset.refl _) (List.Subset.refl _)
  exact weigh_finish ho.tickets hs (Stage.enlists k key)

theorem renewal (h : Awaited c w) (ho : Orderly c) {k : ConnectionId}
    (hs : c.stage? t = some (.queued k)) :
    Awaited (c.startRenewal t k).1 { w with renewed := w.renewed ++ c.toRenew k } := by
  have hw := renew (c := { c with listed := c.listed.filter c.isActive })
    (h.congr rfl (fun _ _ => rfl) (List.Subset.refl _) (List.Subset.refl _)) (ho.congr rfl rfl)
    hs (fun _ _ => rfl) (k := k) (c.listed.filter c.isActive)
  exact hw.congr rfl (fun _ _ => rfl) (List.Subset.refl _) (List.Subset.refl _)

/-- An item does not cancel a forwarder, nor end what brings it items. -/
theorem item (h : Awaited c w) (k : ConnectionId) (key : Rpc.SubscriptionKey) (i : Item) :
    Awaited (c.onStream k key (·.push i)) w := by
  refine h.steady (steady_item k key i) rfl (fun _ _ => rfl) (fun s _ _ => ?_)
    (fun s _ _ hd => .inl ?_) (List.Subset.refl _) (List.Subset.refl _)
  · obtain ⟨queue, hq⟩ := push_eq s.forwarder i
    rw [hq]
    split <;> rfl
  · obtain ⟨queue, hq⟩ := push_eq s.forwarder i
    rw [hq] at hd
    split at hd <;> exact hd

theorem closing (h : Awaited c w) (k : ConnectionId) (key : Rpc.SubscriptionKey) :
    Awaited (c.onStream k key fun f => { f with ended := true })
      { w with closed := w.closed ++ c.closes k key, troubled := w.troubled ++ [k] } := by
  refine h.steady (steady_ended k key) rfl (fun _ _ => rfl) (fun s _ _ => by split <;> rfl)
    (fun s _ _ hd => ?_) (List.subset_append_left _ _) (List.Subset.refl _)
  split at hd
  · rename_i hk
    exact .inr (.inl (List.mem_append_right _ (List.mem_singleton.mpr hk.1)))
  · exact .inl hd

theorem lost (h : Awaited c w) (k : ConnectionId) :
    Awaited (c.endStreams k) { w with lost := w.lost ++ [k] } := by
  refine h.steady (steady_endStreams k) rfl (fun _ _ => rfl) (fun s _ _ => by split <;> rfl)
    (fun s _ _ hd => ?_) (List.Subset.refl _) (List.subset_append_left _ _)
  split at hd
  · rename_i hk
    exact .inr (.inr (List.mem_append_right _ (List.mem_singleton.mpr hk)))
  · exact .inl hd

theorem close (h : Awaited c w) : Awaited c.closeUnheld.1 w := by
  rw [closeUnheld_eq]
  refine h.steady (steady_endingAll _) rfl (fun _ _ => rfl) (fun s hm hn => ?_)
    (fun s hm hn hd => .inl ?_) (List.Subset.refl _) (List.Subset.refl _)
  · rw [endingAll, if_neg (h.not_unheld hm hn)]
  · rwa [endingAll, if_neg (h.not_unheld hm hn)] at hd

theorem move (h : Awaited c w) (ho : Orderly c) (hb : Bounded c w)
    (hm : Move alone c w c' w') : Awaited c' w' := by
  have hr := List.Subset.refl w.troubled
  have hl := List.Subset.refl w.lost
  cases hm with
  | enter t s hs hi _ _ =>
    refine h.congr rfl (fun k key => ?_) hr hl
    rw [weigh_enter hs, Stage.enlists_eq_zero hi, Nat.add_zero]
  | shut t hs _ => exact h.congr rfl (fun k key => weigh_enter hs .draining _) hr hl
  | leave t s hs hi =>
    refine h.congr rfl (fun k key => ?_) hr hl
    have hw := weigh_finish ho.tickets hs (Stage.enlists k key)
    rwa [Stage.enlists_eq_zero hi, Nat.add_zero] at hw
  | grant t k key hs hk => exact h.grant ho hs hk
  | dial t k hs _ =>
    exact h.congr rfl
      (fun k' key => weigh_wait ho.tickets hs (.queued k) (Stage.enlists k' key)) hr hl
  | enlist t k key hs _ => exact h.enlist ho hs
  | renewal t k hs _ => exact h.renewal ho hs
  | drain t hs => exact h.drain ho hs
  | renewed t k r rest key hs _ =>
    exact renew (c := c.addStream k key (some r)) (h.addStream_some k key r) (ho.congr rfl rfl) hs
      (fun _ _ => rfl) rest
  | refused t k r rest hs =>
    exact (h.cancel r).renew (ho.congr rfl rfl) hs (fun _ _ => rfl) rest
  | release r => exact h.cancel r
  | item k key i => exact h.item k key i
  | ended k key => exact h.closing k key
  | lost k => exact h.lost k
  | close => exact h.close
  | forward => exact h.forward hb

end Awaited
end Client
end WorkBridge.Link
