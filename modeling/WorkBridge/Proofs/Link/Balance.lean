import WorkBridge.Proofs.Link.Streams

/-!
The balance of a registration on a connection.

For a registration that is not ended, on a connection that is open, the subscriptions that bring
it items, those that are still to be asked for and those that the node has ended are together
as many as the ledger has entries for them, and there is one entry at most (`Balanced`).
-/

namespace WorkBridge.Link

namespace Stage

/-- How often a call will yet ask for a registration on a connection. -/
def owes (r : RegistrationId) (k : ConnectionId) : Stage → Nat
  | .renewing k' current rest => if k' = k then (current :: rest).count r else 0
  | _ => 0

/-- Whether a call will renew on a connection. -/
def queues (k : ConnectionId) : Stage → Nat
  | .queued k' => if k' = k then 1 else 0
  | _ => 0

theorem owes_eq_zero {s : Stage} (h : s.inLine = false) (r : RegistrationId) (k : ConnectionId) :
    s.owes r k = 0 := by
  cases s with
  | renewing k' current rest => cases h
  | _ => rfl

theorem queues_eq_zero {s : Stage} (h : s.inLine = false) (k : ConnectionId) :
    s.queues k = 0 := by
  cases s with
  | queued k' => cases h
  | _ => rfl

end Stage

namespace Client

variable {alone : Prop} {c c' : Client} {w w' : Ledger} {t : Nat} {s : Stage}
  {r : RegistrationId} {k : ConnectionId}

theorem weigh_renew_owes (hn : (c.calls.map (·.ticket)).Nodup) (hs : c.stage? t = some s)
    (k : ConnectionId) (rs : List RegistrationId) (r : RegistrationId) (k' : ConnectionId) :
    (c.renew t k rs).1.weigh (Stage.owes r k') + s.owes r k' =
      c.weigh (Stage.owes r k') + if k = k' then rs.count r else 0 := by
  have h := weigh_renew hn hs k (Stage.owes r k') rs
  cases rs with
  | nil => simpa using h
  | cons r' rest => exact h

theorem weigh_renew_queues (hn : (c.calls.map (·.ticket)).Nodup) (hs : c.stage? t = some s)
    (k : ConnectionId) (rs : List RegistrationId) (k' : ConnectionId) :
    (c.renew t k rs).1.weigh (Stage.queues k') + s.queues k' = c.weigh (Stage.queues k') := by
  have h := weigh_renew hn hs k (Stage.queues k') rs
  cases rs with
  | nil => exact h
  | cons r' rest => exact h

structure Balanced (c : Client) (w : Ledger) : Prop where
  once : ∀ r k, w.enlisted.count (r, k) + w.renewed.count (r, k) + c.weigh (Stage.queues k) ≤ 1
  even : ∀ r k, c.isActive r = true → k ∈ c.connections → k ∉ w.lost →
    c.live r k + c.weigh (Stage.owes r k) + w.closed.count (r, k) =
      w.enlisted.count (r, k) + w.renewed.count (r, k)

/-! ### What is not there yet -/

theorem live_eq_zero (h : Bounded c w) (hr : c.active.length ≤ r ∨ k ∉ w.known) :
    c.live r k = 0 := by
  refine List.countP_eq_zero.mpr fun s hs hv => ?_
  simp only [Stream.serves, Bool.and_eq_true, decide_eq_true_eq] at hv
  rcases hr with hr | hr
  · exact absurd (h.registered s hs r hv.1.1) (Nat.not_lt.mpr hr)
  · exact hr (hv.1.2 ▸ h.known s hs)

theorem entries_eq_zero (h : Bounded c w) (hr : c.active.length ≤ r ∨ k ∉ w.known) :
    w.enlisted.count (r, k) = 0 ∧ w.renewed.count (r, k) = 0 ∧ w.closed.count (r, k) = 0 := by
  have hn : (r, k) ∉ w.enlisted ++ w.renewed ++ w.closed := by
    intro hm
    have hb := h.entries _ hm
    rcases hr with hr | hr
    · exact absurd hb.1 (Nat.not_lt.mpr hr)
    · exact hr hb.2
  simp only [List.mem_append, not_or] at hn
  exact ⟨List.count_eq_zero.mpr hn.1.1, List.count_eq_zero.mpr hn.1.2, List.count_eq_zero.mpr hn.2⟩

theorem owes_eq_zero (h : Bounded c w) (ho : Orderly c) (hc : Connected c w.known)
    (hr : c.active.length ≤ r ∨ k ∉ w.known) : c.weigh (Stage.owes r k) = 0 := by
  by_contra hn
  obtain ⟨call, hm, hp⟩ := exists_of_weigh_pos (Nat.pos_of_ne_zero hn)
  have hs := stage?_of_mem ho.tickets hm
  cases he : call.stage with
  | renewing k' current rest =>
    rw [he] at hs hp
    unfold Stage.owes at hp
    dsimp only at hp
    split at hp
    · rename_i hk
      have hlt := h.pending _ _ _ _ hs r (List.count_pos_iff.mp hp)
      rcases hr with hr | hr
      · exact absurd hlt (Nat.not_lt.mpr hr)
      · exact hr (hk ▸ hc.known k' (hc.calls _ _ _ hs rfl))
    · exact Nat.lt_irrefl 0 hp
  | _ => simp [he, Stage.owes] at hp

theorem queues_eq_zero (ho : Orderly c) (hn : ∀ t, c.stage? t ≠ some (.queued k)) :
    c.weigh (Stage.queues k) = 0 := by
  by_contra hp
  obtain ⟨call, hm, hp⟩ := exists_of_weigh_pos (Nat.pos_of_ne_zero hp)
  have hs := stage?_of_mem ho.tickets hm
  cases he : call.stage with
  | queued k' =>
    rw [he] at hs hp
    unfold Stage.queues at hp
    dsimp only at hp
    split at hp
    · rename_i hk
      exact hn _ (hk ▸ hs)
    · exact Nat.lt_irrefl 0 hp
  | _ => simp [he, Stage.queues] at hp

namespace Balanced

/-- Where nothing is entered. -/
theorem frame (h : Balanced c w) (ha : ∀ r, c'.isActive r = true → c.isActive r = true)
    (hk : ∀ k ∈ c'.connections, k ∈ c.connections)
    (hl : ∀ r k, c'.isActive r = true → k ∈ c'.connections →
      c'.live r k + c'.weigh (Stage.owes r k) = c.live r k + c.weigh (Stage.owes r k))
    (hq : ∀ k, c'.weigh (Stage.queues k) = c.weigh (Stage.queues k)) : Balanced c' w where
  once := fun r k => by
    rw [hq]
    exact h.once r k
  even := fun r k hr hc hn => by
    rw [hl r k hr hc]
    exact h.even r k (ha r hr) (hk k hc) hn

/-- Where only calls change, and not what they owe. -/
theorem frame_calls (h : Balanced c w) (ha : c'.active = c.active)
    (hk : c'.connections = c.connections) (hs : c'.streams = c.streams)
    (ho : ∀ r k, c'.weigh (Stage.owes r k) = c.weigh (Stage.owes r k))
    (hq : ∀ k, c'.weigh (Stage.queues k) = c.weigh (Stage.queues k)) : Balanced c' w := by
  refine h.frame (fun r hr => ?_) (fun k hc => hk ▸ hc) (fun r k _ _ => ?_) hq
  · rwa [isActive, ha] at hr
  · rw [live, hs, ho]
    rfl

/-- Where only forwarders change, and those that bring items to what is not ended stay open. -/
theorem frame_streams (h : Balanced c w) (ha : ∀ r, c'.isActive r = true → c.isActive r = true)
    (hk : ∀ k ∈ c'.connections, k ∈ c.connections) (hc : c'.calls = c.calls)
    (hl : ∀ r k, c'.isActive r = true → k ∈ c'.connections → c'.live r k = c.live r k) :
    Balanced c' w := by
  have hw : ∀ f, c'.weigh f = c.weigh f := fun f => by rw [weigh, weigh, hc]
  exact h.frame ha hk (fun r k hr hk => by rw [hl r k hr hk, hw]) fun k => hw _

theorem live_addStream (c : Client) (k' : ConnectionId) (key : Rpc.SubscriptionKey)
    (o : Option RegistrationId) (r : RegistrationId) (k : ConnectionId) :
    (c.addStream k' key o).live r k =
      c.live r k + if o = some r ∧ k' = k ∧ c.isActive r = true then 1 else 0 := by
  show (c.streams ++ [_]).countP _ = _
  rw [List.countP_append, List.countP_singleton]
  congr 1
  cases o with
  | none => simp [Stream.serves]
  | some r' =>
    by_cases hr : r' = r
    · subst hr
      simp [Stream.serves, Forwarder.isOpen]
    · simp [Stream.serves, hr]

theorem live_cancel (c : Client) {r r' : RegistrationId} (h : r ≠ r') (k : ConnectionId) :
    (c.cancel r').live r k = c.live r k := by
  refine countP_map_steady fun s _ => ?_
  split
  · rename_i hs
    simp [Stream.serves, hs, Ne.symm h]
  · rfl

/-! ### Calls -/

theorem enter (h : Balanced c w) (hs : c.stage? t = none) (hl : s.inLine = false) :
    Balanced (c.wait t s) w := by
  refine h.frame_calls rfl rfl rfl (fun r k => ?_) fun k => ?_
  · rw [weigh_enter hs, Stage.owes_eq_zero hl, Nat.add_zero]
  · rw [weigh_enter hs, Stage.queues_eq_zero hl, Nat.add_zero]

theorem shut (h : Balanced c w) (hs : c.stage? t = none) : Balanced (c.enqueue t .draining) w :=
  h.frame_calls rfl rfl rfl (fun r k => weigh_enter hs .draining (Stage.owes r k))
    fun k => weigh_enter hs .draining (Stage.queues k)

theorem leave (h : Balanced c w) (ho : Orderly c) (hs : c.stage? t = some s)
    (hl : s.inLine = false) : Balanced (c.finish t) w := by
  refine h.frame_calls rfl rfl rfl (fun r k => ?_) fun k => ?_
  · have hw := weigh_finish ho.tickets hs (Stage.owes r k)
    rwa [Stage.owes_eq_zero hl, Nat.add_zero] at hw
  · have hw := weigh_finish ho.tickets hs (Stage.queues k)
    rwa [Stage.queues_eq_zero hl, Nat.add_zero] at hw

/-- Nothing is left that is not ended. -/
theorem drain (h : Balanced c w) (ho : Orderly c) (he : Enrolled c)
    (hs : c.stage? t = some .draining) : Balanced (c.drain t).1 w := by
  have hoff := (he.drain t).2
  have hq : ∀ k, (c.drain t).1.weigh (Stage.queues k) = c.weigh (Stage.queues k) := by
    obtain ⟨f, -, -, hd⟩ := drain_eq c t
    rw [hd]
    exact fun k => weigh_finish ho.tickets hs (Stage.queues k)
  refine ⟨fun r k => ?_, fun r k hr => ?_⟩
  · rw [hq]
    exact h.once r k
  · rw [hoff r] at hr
    cases hr

/-- An ended registration is not counted. -/
theorem release (h : Balanced c w) (r : RegistrationId) : Balanced (c.cancel r) w :=
  h.frame_streams (fun _ hr => (of_isActive_cancel hr).1) (fun _ hk => hk) rfl
    fun _ k hr _ => live_cancel c (of_isActive_cancel hr).2 k

theorem grant (h : Balanced c w) (ho : Orderly c) {key : Rpc.SubscriptionKey}
    (hs : c.stage? t = some (.subscribing k)) :
    Balanced ((c.addStream k key none).enqueue t (.enlisting k key)) w := by
  refine h.frame (fun _ hr => hr) (fun _ hc => hc) (fun r k' _ _ => ?_) fun k' => ?_
  · have hl := live_addStream c k key none r k'
    rw [if_neg (by simp), Nat.add_zero] at hl
    have hw : ((c.addStream k key none).enqueue t (.enlisting k key)).weigh (Stage.owes r k') =
        c.weigh (Stage.owes r k') :=
      weigh_wait ho.tickets hs (.enlisting k key) (Stage.owes r k')
    rw [hw, ← hl]
    rfl
  · exact weigh_wait ho.tickets hs (.enlisting k key) (Stage.queues k')

theorem dial (h : Balanced c w) (ho : Orderly c) (hc : Connected c w.known) (hb : Bounded c w)
    (hs : c.stage? t = some .dialing) (hk : k ∉ w.known) :
    Balanced ({ c with slot := some k, connections := c.connections ++ [k] }.enqueue t (.queued k))
      { w with known := w.known ++ [k] } := by
  have hq : ∀ k', ({ c with slot := some k, connections := c.connections ++ [k] }.enqueue t
      (.queued k)).weigh (Stage.queues k') =
        c.weigh (Stage.queues k') + if k = k' then 1 else 0 :=
    fun k' => weigh_wait ho.tickets hs (.queued k) (Stage.queues k')
  have hw : ∀ r k', ({ c with slot := some k, connections := c.connections ++ [k] }.enqueue t
      (.queued k)).weigh (Stage.owes r k') = c.weigh (Stage.owes r k') :=
    fun r k' => weigh_wait ho.tickets hs (.queued k) (Stage.owes r k')
  refine ⟨fun r k' => ?_, fun r k' hr hm hn => ?_⟩
  · rw [hq]
    by_cases hk' : k = k'
    · subst hk'
      have hz := entries_eq_zero (r := r) hb (.inr hk)
      have hn := queues_eq_zero ho (k := k) fun u hu => hk (hc.known k (hc.calls u _ k hu rfl))
      simp [hz.1, hz.2.1, hn]
    · rw [if_neg hk', Nat.add_zero]
      exact h.once r k'
  · rw [hw]
    rcases List.mem_append.mp hm with hm | hm
    · exact h.even r k' hr hm hn
    -- Nothing can speak of a connection that has not been there before.
    · rw [List.mem_singleton.mp hm]
      have hz := entries_eq_zero (r := r) hb (.inr hk)
      have hl := live_eq_zero (r := r) hb (.inr hk)
      have hp := owes_eq_zero (r := r) hb ho hc (.inr hk)
      show c.live r k + _ + w.closed.count (r, k) = _
      simp [hz, hl, hp]

/-- What one call finds on the list. -/
theorem count_toRenew (c : Client) (k : ConnectionId) (r : RegistrationId) (k' : ConnectionId) :
    (c.toRenew k).count (r, k') =
      if k = k' then (c.listed.filter c.isActive).count r else 0 := by
  unfold toRenew
  split
  · rename_i hk
    subst hk
    rw [List.count, List.countP_map, List.count]
    exact List.countP_congr fun r' _ => by simp
  · rename_i hk
    refine List.count_eq_zero.mpr fun hm => ?_
    obtain ⟨r', -, he⟩ := List.mem_map.mp hm
    exact hk (congrArg Prod.snd he)

theorem renew_frame (c : Client) (t : Nat) (k : ConnectionId) (rs : List RegistrationId) :
    (c.renew t k rs).1.active = c.active ∧ (c.renew t k rs).1.streams = c.streams ∧
      (c.renew t k rs).1.connections = c.connections := by
  rcases renew_cases c t k rs with ⟨r, rest, -, he⟩ | ⟨-, he⟩ <;> rw [he] <;> exact ⟨rfl, rfl, rfl⟩

/-- Where a call goes on with its renewal, and what it owed one registration is settled. -/
theorem renew (h : Balanced c w) (ho : Orderly c) {rest : List RegistrationId}
    (hs : c.stage? t = some (.renewing k r rest)) (hc : c'.calls = c.calls)
    (hk : c'.connections = c.connections)
    (ha : ∀ r', c'.isActive r' = true → c.isActive r' = true)
    (hl : ∀ r' k', c'.isActive r' = true →
      c'.live r' k' + (if k = k' then rest.count r' else 0) =
        c.live r' k' + if k = k' then (r :: rest).count r' else 0) :
    Balanced (c'.renew t k rest).1 w := by
  obtain ⟨hact, hst, hco⟩ := renew_frame c' t k rest
  have hi : ∀ r', (c'.renew t k rest).1.isActive r' = c'.isActive r' := fun r' => by
    rw [isActive, hact, isActive]
  have hn : (c'.calls.map (·.ticket)).Nodup := by
    rw [hc]
    exact ho.tickets
  have hs' : c'.stage? t = some (.renewing k r rest) := by
    rw [stage?, hc]
    exact hs
  have hw : ∀ f, c'.weigh f = c.weigh f := fun f => by rw [weigh, weigh, hc]
  refine h.frame (fun r' hr => ?_) (fun k' hm => ?_) (fun r' k' hr _ => ?_) fun k' => ?_
  · rw [hi] at hr
    exact ha r' hr
  · rwa [hco, hk] at hm
  · rw [hi] at hr
    have hlive : (c'.renew t k rest).1.live r' k' = c'.live r' k' := by rw [live, live, hst]
    have hsettled := hl r' k' hr
    have howes := weigh_renew_owes hn hs' k rest r' k'
    have hone : (Stage.renewing k r rest).owes r' k' =
        if k = k' then (r :: rest).count r' else 0 := rfl
    rw [hw, hone] at howes
    rw [hlive]
    omega
  · have hqueues := weigh_renew_queues hn hs' k rest k'
    rw [hw] at hqueues
    exact hqueues

/-- What a call owed a registration has become a stream. -/
theorem renewed (h : Balanced c w) (ho : Orderly c) {rest : List RegistrationId}
    (hs : c.stage? t = some (.renewing k r rest)) (key : Rpc.SubscriptionKey) :
    Balanced ((c.addStream k key (some r)).renew t k rest).1 w := by
  refine h.renew ho hs rfl rfl (fun _ hr => hr) fun r' k' hr => ?_
  have hr' : c.isActive r' = true := hr
  rw [live_addStream, List.count_cons]
  by_cases hk' : k = k'
  · by_cases hrr : r = r'
    · simp [hk', hrr, hr']
      omega
    · simp [hk', hrr]
  · simp [hk']

/-- What a call owed a registration is not owed any more, as the registration is ended. -/
theorem refused (h : Balanced c w) (ho : Orderly c) {rest : List RegistrationId}
    (hs : c.stage? t = some (.renewing k r rest)) :
    Balanced ((c.cancel r).renew t k rest).1 w := by
  refine h.renew ho hs rfl rfl (fun _ hr => (of_isActive_cancel hr).1) fun r' k' hr => ?_
  have hne := (of_isActive_cancel hr).2
  rw [live_cancel c hne, List.count_cons_of_ne (Ne.symm hne)]

theorem renewal (h : Balanced c w) (ho : Orderly c) (he : Enrolled c)
    (hs : c.stage? t = some (.queued k)) :
    Balanced (c.startRenewal t k).1 { w with renewed := w.renewed ++ c.toRenew k } := by
  obtain ⟨ha, hst, hco⟩ := renew_frame { c with listed := c.listed.filter c.isActive } t k
    (c.listed.filter c.isActive)
  have hq : ∀ k', (c.startRenewal t k).1.weigh (Stage.queues k') + (if k = k' then 1 else 0) =
      c.weigh (Stage.queues k') := fun k' =>
    weigh_renew_queues (c := { c with listed := c.listed.filter c.isActive }) ho.tickets hs k _ k'
  have hw : ∀ r k', (c.startRenewal t k).1.weigh (Stage.owes r k') + 0 =
      c.weigh (Stage.owes r k') +
        if k = k' then (c.listed.filter c.isActive).count r else 0 := fun r k' =>
    weigh_renew_owes (c := { c with listed := c.listed.filter c.isActive }) ho.tickets hs k _ r k'
  refine ⟨fun r k' => ?_, fun r k' hr hm hn => ?_⟩
  · have hq := hq k'
    have ho := h.once r k'
    dsimp only
    rw [List.count_append, count_toRenew]
    by_cases hk : k = k'
    -- The call that waited to renew here is the one that this connection has.
    · have hn := List.nodup_iff_count_le_one.mp (he.nodup.filter c.isActive) r
      rw [if_pos hk] at hq ⊢
      omega
    · rw [if_neg hk] at hq ⊢
      omega
  · have hw := hw r k'
    have hr' : c.isActive r = true := by
      rw [isActive, startRenewal, ha] at hr
      exact hr
    have hm' : k' ∈ c.connections := by
      rw [startRenewal, hco] at hm
      exact hm
    have hl : (c.startRenewal t k).1.live r k' = c.live r k' := by
      rw [live, startRenewal, hst]
      rfl
    have hv := h.even r k' hr' hm' hn
    dsimp only
    rw [List.count_append, count_toRenew, hl]
    omega

/-! ### A new registration -/

/-- The one stream of a new registration brings items, unless the node has ended it before. -/
theorem live_enlist (hb : Bounded c w) (hc : Awaited c w) (ho : Orderly c)
    {key : Rpc.SubscriptionKey} (hs : c.stage? t = some (.enlisting k key)) :
    (c.enlist t k key).1.live c.active.length k +
      (c.closedBefore k key).count (c.active.length, k) = 1 := by
  have hone : c.streams.countP (Stream.isSpare k key) = 1 := by
    have hle := hc.one k key
    have hge := le_weigh ho.tickets hs (Stage.enlists k key)
    rw [Stage.enlists, if_pos ⟨rfl, rfl⟩] at hge
    rw [hc.count]
    omega
  have hlive : (c.enlist t k key).1.live c.active.length k =
      c.streams.countP fun s => s.isSpare k key && !s.forwarder.ended := by
    show (c.streams.map _).countP _ = _
    rw [List.countP_map]
    refine List.countP_congr fun s hm => ?_
    rw [Function.comp_apply]
    split
    · rename_i hu
      have hr : s.registration = none := Option.isNone_iff_eq_none.mp hu.2.2
      simp [Stream.serves, Stream.isSpare, Forwarder.isOpen, hu.1, hu.2.1, hr,
        hb.running s hm, hc.uncancelled s hm hr]
    · rename_i hu
      have hr : s.registration ≠ some c.active.length := fun hr =>
        Nat.lt_irrefl _ (hb.registered s hm _ hr)
      simp only [Stream.serves, Stream.isSpare, hr, decide_false, Bool.false_and,
        Bool.and_eq_true, decide_eq_true_eq, Bool.false_eq_true, false_iff]
      tauto
  have hclosed : (c.closedBefore k key).count (c.active.length, k) =
      c.streams.countP fun s => s.isSpare k key && s.forwarder.ended := by
    have hle : (c.streams.countP fun s => s.isSpare k key && s.forwarder.ended) ≤ 1 := by
      rw [← hone]
      refine List.countP_mono_left fun s _ hu => ?_
      exact (Bool.and_eq_true _ _ ▸ hu).1
    unfold closedBefore
    split
    · rename_i hany
      obtain ⟨s, hm, hu⟩ := List.any_eq_true.mp hany
      have hpos : 0 < c.streams.countP fun s => s.isSpare k key && s.forwarder.ended :=
        List.countP_pos_iff.mpr ⟨s, hm, hu⟩
      rw [List.count_singleton_self]
      omega
    · rename_i hany
      symm
      rw [List.count_nil, List.countP_eq_zero]
      intro s hm hu
      exact hany (List.any_eq_true.mpr ⟨s, hm, hu⟩)
  rw [hlive, hclosed]
  have hsplit := List.countP_eq_countP_filter_add c.streams (Stream.isSpare k key)
    (fun s => s.forwarder.ended)
  rw [List.countP_filter, List.countP_filter, hone] at hsplit
  omega

theorem live_enlist_of_ne {key : Rpc.SubscriptionKey} {k' : ConnectionId}
    (h : r ≠ c.active.length ∨ k' ≠ k) : (c.enlist t k key).1.live r k' = c.live r k' := by
  refine countP_map_steady fun s hs => ?_
  split
  · rename_i hu
    have hr : s.registration = none := Option.isNone_iff_eq_none.mp hu.2.2
    rcases h with h | h
    · simp [Stream.serves, hr, Ne.symm h]
    · simp [Stream.serves, hr, hu.1, Ne.symm h]
  · rfl

theorem enlist (h : Balanced c w) (ho : Orderly c) (hb : Bounded c w) (hc : Awaited c w)
    (hn : Connected c w.known) {key : Rpc.SubscriptionKey}
    (hs : c.stage? t = some (.enlisting k key)) (hl : c.holdsLock t = true) :
    Balanced (c.enlist t k key).1 { w with
      enlisted := w.enlisted ++ [(c.active.length, k)]
      closed := w.closed ++ c.closedBefore k key } := by
  have hq : ∀ k', (c.enlist t k key).1.weigh (Stage.queues k') = c.weigh (Stage.queues k') :=
    fun k' => weigh_finish ho.tickets hs (Stage.queues k')
  have hw : ∀ r k', (c.enlist t k key).1.weigh (Stage.owes r k') = c.weigh (Stage.owes r k') :=
    fun r k' => weigh_finish ho.tickets hs (Stage.owes r k')
  have hcb : ∀ r k', (r, k') ≠ (c.active.length, k) →
      (c.closedBefore k key).count (r, k') = 0 := by
    intro r k' hne
    unfold closedBefore
    split
    · exact List.count_eq_zero.mpr (by simpa using hne)
    · rfl
  refine ⟨fun r k' => ?_, fun r k' hr hm hlost => ?_⟩
  · dsimp only
    rw [hq, List.count_append, List.count_singleton]
    by_cases he : (r, k') = (c.active.length, k)
    · cases he
      have hz := entries_eq_zero (k := k) hb (.inl (Nat.le_refl _))
      have hn := queues_eq_zero ho (ho.not_queued hl hs)
      simp [hz.1, hz.2.1, hn]
    · have ho := h.once r k'
      rw [if_neg (by simpa using Ne.symm he)]
      exact ho
  · dsimp only
    rw [hw, List.count_append, List.count_append, List.count_singleton]
    -- Only the new registration on the connection of its call gets an entry.
    by_cases he : (r, k') = (c.active.length, k)
    · cases he
      have hz := entries_eq_zero (k := k) hb (.inl (Nat.le_refl _))
      have hp := owes_eq_zero (k := k) hb ho hn (.inl (Nat.le_refl _))
      have hone := live_enlist hb hc ho hs
      rw [if_pos (by simp)]
      omega
    · rw [if_neg (by simpa using Ne.symm he), hcb r k' he]
      have hne : r ≠ c.active.length ∨ k' ≠ k := by
        by_contra hcon
        rw [not_or, not_not, not_not] at hcon
        exact he (by rw [hcon.1, hcon.2])
      rw [live_enlist_of_ne hne]
      -- On other connections there is nothing of the new one, and the old ones are as they were.
      by_cases hr' : r = c.active.length
      · subst hr'
        have hz := entries_eq_zero (k := k') hb (.inl (Nat.le_refl _))
        have hp := owes_eq_zero (k := k') hb ho hn (.inl (Nat.le_refl _))
        have hv := live_eq_zero (k := k') hb (.inl (Nat.le_refl _))
        omega
      · have ha := ((isActive_enlist c t k key r).mp hr).resolve_right hr'
        have hv := h.even r k' ha hm hlost
        omega

/-! ### The end of a subscription -/

/-- What the node ends is entered, for every registration that it brought items. -/
theorem live_ended (c : Client) (k : ConnectionId) (key : Rpc.SubscriptionKey)
    (r : RegistrationId) (k' : ConnectionId) :
    (c.onStream k key fun f => { f with ended := true }).live r k' +
      (c.closes k key).count (r, k') = c.live r k' := by
  -- What served the registration is split into what is ended and what is not.
  have hsplit := List.countP_eq_countP_filter_add c.streams (Stream.serves r k')
    (fun s => s.connection = k && s.key = key)
  rw [List.countP_filter, List.countP_filter] at hsplit
  have hlive : (c.onStream k key fun f => { f with ended := true }).live r k' =
      c.streams.countP fun s => s.serves r k' && !(s.connection = k && s.key = key) := by
    show (c.streams.map _).countP _ = _
    rw [List.countP_map]
    refine List.countP_congr fun s _ => ?_
    rw [Function.comp_apply]
    split
    · rename_i hs
      simp [Stream.serves, Forwarder.isOpen, hs.1, hs.2]
    · rename_i hs
      have hn : (decide (s.connection = k) && decide (s.key = key)) = false := by
        simpa using hs
      simp [hn]
  have hclosed : (c.closes k key).count (r, k') =
      c.streams.countP fun s => s.serves r k' && (s.connection = k && s.key = key) := by
    unfold closes
    rw [List.count_filterMap, List.countP_filter]
    refine List.countP_congr fun s _ => ?_
    simp only [Stream.serves, Bool.and_eq_true, beq_iff_eq, decide_eq_true_eq,
      Option.map_eq_some_iff, Prod.mk.injEq]
    constructor
    · rintro ⟨⟨a, ha, rfl, rfl⟩, ⟨hk, hkey⟩, ho⟩
      exact ⟨⟨⟨ha, hk⟩, ho⟩, hk, hkey⟩
    · rintro ⟨⟨⟨ha, hk'⟩, ho⟩, hk, hkey⟩
      exact ⟨⟨r, ha, rfl, hk.symm.trans hk'⟩, ⟨hk, hkey⟩, ho⟩
  rw [hlive, hclosed, live, hsplit]
  exact Nat.add_comm _ _

theorem ended (h : Balanced c w) (k : ConnectionId) (key : Rpc.SubscriptionKey) :
    Balanced (c.onStream k key fun f => { f with ended := true })
      { w with closed := w.closed ++ c.closes k key, troubled := w.troubled ++ [k] } := by
  refine ⟨h.once, fun r k' hr hm hl => ?_⟩
  have hv := h.even r k' hr hm hl
  have hl := live_ended c k key r k'
  have hw : (c.onStream k key fun f => { f with ended := true }).weigh (Stage.owes r k') =
      c.weigh (Stage.owes r k') := rfl
  dsimp only
  rw [List.count_append, hw]
  omega

/-- A connection that is lost is not looked at any more. -/
theorem lost (h : Balanced c w) (k : ConnectionId) :
    Balanced (c.endStreams k) { w with lost := w.lost ++ [k] } := by
  refine ⟨h.once, fun r k' hr hm hl => ?_⟩
  have hk : k' ∉ w.lost ∧ k' ≠ k := by
    simpa [List.mem_append, not_or] using hl
  have hlive : (c.endStreams k).live r k' = c.live r k' := by
    refine countP_map_steady fun s _ => ?_
    split
    · rename_i hs
      simp [Stream.serves, hs, Ne.symm hk.2]
    · rfl
  have hw : (c.endStreams k).weigh (Stage.owes r k') = c.weigh (Stage.owes r k') := rfl
  rw [hlive, hw]
  exact h.even r k' hr hm hk.1

/-- What is closed for want of a holder is no connection any more. -/
theorem close (h : Balanced c w) : Balanced c.closeUnheld.1 w := by
  rw [closeUnheld_eq]
  refine h.frame_streams (fun _ hr => hr) (fun k hk => (List.mem_filter.mp hk).1) rfl
    fun r k _ hk => ?_
  refine countP_map_steady fun s _ => ?_
  unfold endingAll
  split
  · rename_i hs
    have hne : s.connection ≠ k := by
      rintro rfl
      have hh := (List.mem_filter.mp hk).2
      have hn := (List.mem_filter.mp hs).2
      rw [hh] at hn
      cases hn
    simp [Stream.serves, hne]
  · rfl

/-! ### Forwarders -/

theorem item (h : Balanced c w) (k : ConnectionId) (key : Rpc.SubscriptionKey) (i : Item) :
    Balanced (c.onStream k key (·.push i)) w := by
  refine h.frame_streams (fun _ hr => hr) (fun _ hk => hk) rfl fun r k' _ _ => ?_
  refine countP_map_steady fun s _ => ?_
  split
  · have hp : (s.forwarder.push i).isOpen = s.forwarder.isOpen := by
      obtain ⟨queue, hq⟩ := push_eq s.forwarder i
      rw [hq]
      rfl
    simp only [Stream.serves, hp]
  · rfl

theorem live_forward (hb : Bounded c w) (r : RegistrationId) (k : ConnectionId) :
    c.runStreams.1.live r k = c.live r k := by
  rw [runStreams_eq]
  show ((c.streams.map forwarded).filter _).countP _ = _
  rw [List.countP_filter, List.countP_map]
  refine List.countP_congr fun s hm => ?_
  have hr := hb.running s hm
  simp only [Function.comp_apply, Stream.serves, registration_forwarded, connection_forwarded]
  cases ho : s.forwarder.isOpen with
  | true =>
    have hs : (forwarded s).forwarder.isOpen = true ∧ (forwarded s).forwarder.running = true := by
      unfold forwarded
      split
      · exact ⟨ho, hr⟩
      · dsimp only
        rw [settle_of_open ho]
        exact ⟨ho, hr⟩
    simp [hs.1, hs.2]
  | false =>
    simp only [Bool.and_false, Bool.and_eq_true, Bool.false_eq_true, decide_eq_true_eq, iff_false]
    rintro ⟨⟨⟨hreg, -⟩, -⟩, hrun⟩
    unfold forwarded at hrun
    rw [hreg] at hrun
    dsimp only at hrun
    rw [settle_of_not_open hr ho] at hrun
    cases hrun

theorem forward (h : Balanced c w) (hb : Bounded c w) : Balanced c.runStreams.1 w := by
  refine h.frame_streams (fun r hr => ?_) (fun k hk => ?_) ?_
    fun r k _ _ => live_forward hb r k
  · rwa [runStreams_eq] at hr
  · rwa [runStreams_eq] at hk
  · rw [runStreams_eq]

/-! ### Moves -/

theorem move (h : Balanced c w) (ho : Orderly c) (hn : Connected c w.known) (he : Enrolled c)
    (hb : Bounded c w) (hc : Awaited c w) (hm : Move alone c w c' w') : Balanced c' w' := by
  cases hm with
  | enter t s hs hl _ _ => exact h.enter hs hl
  | shut t hs _ => exact h.shut hs
  | leave t s hs hl => exact h.leave ho hs hl
  | grant t k key hs _ => exact h.grant ho hs
  | dial t k hs hk => exact h.dial ho hn hb hs hk
  | enlist t k key hs hl => exact h.enlist ho hb hc hn hs hl
  | renewal t k hs _ => exact h.renewal ho he hs
  | drain t hs => exact h.drain ho he hs
  | renewed t k r rest key hs _ => exact h.renewed ho hs key
  | refused t k r rest hs => exact h.refused ho hs
  | release r => exact h.release r
  | item k key i => exact h.item k key i
  | ended k key => exact h.ended k key
  | lost k => exact h.lost k
  | close => exact h.close
  | forward => exact h.forward hb

end Balanced
end Client
end WorkBridge.Link
