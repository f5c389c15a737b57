import WorkBridge.Proofs.Link.Effects

/-!
Where a client stands at any time.

The line for the lock is in order, no connection that the slot or a call holds is closed, and
the list has every registration that is not ended, once.  Each of these is kept by every move,
so together they are, as `Sound`.
-/

namespace WorkBridge.Link

namespace Client

variable {alone : Prop} {c c' : Client} {w w' : Ledger} {t : Nat} {s : Stage}

/-! ### Connections -/

/-- What is held is not closed, and what is not closed is known. -/
structure Connected (c : Client) (known : List ConnectionId) : Prop where
  slot : ∀ k, c.slot = some k → k ∈ c.connections
  calls : ∀ t s k, c.stage? t = some s → s.connection? = some k → k ∈ c.connections
  known : ∀ k ∈ c.connections, k ∈ known

theorem isHeld_of_call {k : ConnectionId} (hs : c.stage? t = some s)
    (hk : s.connection? = some k) : c.isHeld k = true := by
  have hm := mem_of_stage? hs
  simp only [isHeld, Bool.or_eq_true, List.any_eq_true]
  exact .inr ⟨_, hm, by simpa using hk⟩

namespace Connected

variable {known : List ConnectionId}

theorem congr (h : Connected c known) (hc : c'.calls = c.calls) (hs : c'.slot = c.slot)
    (hk : c'.connections = c.connections) : Connected c' known where
  slot := hs ▸ hk ▸ h.slot
  calls := by
    intro t s k ht
    rw [hk]
    exact h.calls t s k (by rw [← ht, stage?, stage?, hc])
  known := hk ▸ h.known

theorem wait (h : Connected c known) (t : Nat)
    (hs : ∀ k, s.connection? = some k → k ∈ c.connections) : Connected (c.wait t s) known where
  slot := h.slot
  calls := by
    intro u s' k hu hk
    rw [stage?_wait] at hu
    split at hu
    · cases hu
      exact hs k hk
    · exact h.calls u s' k hu hk
  known := h.known

theorem finish (h : Connected c known) (t : Nat) : Connected (c.finish t) known where
  slot := h.slot
  calls := by
    intro u s k hu hk
    rw [stage?_finish] at hu
    split at hu
    · cases hu
    · exact h.calls u s k hu hk
  known := h.known

theorem renew (h : Connected c known) (t : Nat) {k : ConnectionId} (hk : k ∈ c.connections)
    (rs : List RegistrationId) : Connected (c.renew t k rs).1 known := by
  rcases renew_cases c t k rs with ⟨r, rest, -, hr⟩ | ⟨-, hr⟩
  · rw [hr]
    exact h.wait t fun k' hk' => by cases hk'; exact hk
  · rw [hr]
    exact finish (c := { c with listed := c.listed.filter c.isActive })
      ⟨h.slot, h.calls, h.known⟩ t

theorem close (h : Connected c known) : Connected c.closeUnheld.1 known := by
  rw [closeUnheld_eq]
  refine ⟨fun k hk => ?_, fun u s k hu hk => ?_, fun k hk => ?_⟩
  · exact List.mem_filter.mpr ⟨h.slot k hk, by simp [isHeld, show c.slot = some k from hk]⟩
  · exact List.mem_filter.mpr ⟨h.calls u s k hu hk, isHeld_of_call hu hk⟩
  · exact h.known k (List.mem_filter.mp hk).1

theorem move (h : Connected c w.known) (hm : Move alone c w c' w') :
    Connected c' w'.known := by
  cases hm with
  | enter t s hs hl hc ha => exact h.wait t fun k hk => h.slot k (hc k hk)
  | shut t hs ha => exact (h.wait (s := .draining) t nofun).congr rfl rfl rfl
  | leave t s hs hl => exact h.finish t
  | grant t k key hs hk =>
    have hc : k ∈ c.connections := h.calls t _ k hs rfl
    exact (h.wait (s := .enlisting k key) t fun k' hk' => by cases hk'; exact hc).congr rfl rfl rfl
  | dial t k hs hk =>
    refine wait (c := { c with
      slot := some k, connections := c.connections ++ [k], lock := c.lock ++ [t] })
      ⟨fun k' hk' => ?_, fun u s k' hu hk' => ?_, fun k' hk' => ?_⟩ t fun k' hk' => ?_
    · cases hk'
      simp
    · exact List.mem_append_left _ (h.calls u s k' hu hk')
    · rw [List.mem_append] at hk' ⊢
      exact hk'.imp_left (h.known k')
    · cases hk'
      simp
  | enlist t k key hs hl => exact (h.finish t).congr rfl rfl rfl
  | renewal t k hs hl =>
    have hc : k ∈ c.connections := h.calls t _ k hs rfl
    exact renew (c := { c with listed := c.listed.filter c.isActive })
      (h.congr rfl rfl rfl) t hc _
  | drain t hs =>
    obtain ⟨f, -, -, he⟩ := drain_eq c t
    rw [he]
    exact finish (c := { c with
      active := _, streams := _, listed := [], slot := none }) ⟨nofun, h.calls, h.known⟩ t
  | renewed t k r rest key hs hk =>
    have hc : k ∈ c.connections := h.calls t _ k hs rfl
    exact renew (c := c.addStream k key (some r)) (h.congr rfl rfl rfl) t hc _
  | refused t k r rest hs =>
    have hc : k ∈ c.connections := h.calls t _ k hs rfl
    exact renew (c := c.cancel r) (h.congr rfl rfl rfl) t hc _
  | close => exact h.close
  | _ => exact h.congr rfl rfl rfl

end Connected

/-! ### The line -/

namespace Orderly

theorem renew (h : Orderly c) (hl : c.holdsLock t = true) (k : ConnectionId)
    (rs : List RegistrationId) : Orderly (c.renew t k rs).1 := by
  rcases renew_cases c t k rs with ⟨r, rest, -, hr⟩ | ⟨-, hr⟩
  · rw [hr]
    exact h.advance hl
  · rw [hr]
    exact (h.finish t).congr rfl rfl

theorem move (h : Orderly c) (hc : Connected c w.known) (hm : Move alone c w c' w') :
    Orderly c' := by
  have hb : ∀ {t k r rest}, c.stage? t = some (.renewing k r rest) → c.holdsLock t = true :=
    fun hs => decide_eq_true (h.holder _ _ _ _ hs)
  cases hm with
  | enter t s hs hl hc ha => exact h.enter hs hl
  | shut t hs ha =>
    exact h.enqueue (fun s hs' => by rw [hs] at hs'; cases hs') rfl nofun nofun
  | leave t s hs hl => exact h.finish t
  | grant t k key hs hk =>
    have he : Orderly (c.enqueue t (.enlisting k key)) :=
      h.enqueue (fun s hs' => by rw [hs] at hs'; cases hs'; rfl) rfl nofun nofun
    exact he.congr rfl rfl
  | dial t k hs hk =>
    have he : Orderly (c.enqueue t (.queued k)) := by
      refine h.enqueue (fun s hs' => by rw [hs] at hs'; cases hs'; rfl) rfl nofun ?_
      intro k' hk' u key hu
      -- The connection is new, so nobody can have subscribed on it.
      cases hk'
      exact hk (hc.known k (hc.calls u _ k hu rfl))
    exact he.congr rfl rfl
  | enlist t k key hs hl => exact (h.finish t).congr rfl rfl
  | renewal t k hs hl =>
    exact renew (c := { c with listed := c.listed.filter c.isActive }) (h.congr rfl rfl) hl k _
  | drain t hs =>
    obtain ⟨f, -, -, he⟩ := drain_eq c t
    rw [he]
    exact (h.finish t).congr rfl rfl
  | renewed t k r rest key hs hk =>
    exact renew (c := c.addStream k key (some r)) (h.congr rfl rfl) (hb hs) k rest
  | refused t k r rest hs =>
    exact renew (c := c.cancel r) (h.congr rfl rfl) (hb hs) k rest
  | close =>
    rw [closeUnheld_eq]
    exact h.congr rfl rfl
  | _ => exact h.congr rfl rfl

end Orderly

/-! ### The list -/

/-- The list has all registrations that are not ended, and none twice. -/
structure Enrolled (c : Client) : Prop where
  nodup : c.listed.Nodup
  lt : ∀ r ∈ c.listed, r < c.active.length
  listed : ∀ r, c.isActive r = true → r ∈ c.listed

namespace Enrolled

theorem congr (h : Enrolled c) (ha : c'.active = c.active) (hl : c'.listed = c.listed) :
    Enrolled c' := by
  have hi : ∀ r, c'.isActive r = c.isActive r := fun r => by rw [isActive, isActive, ha]
  refine ⟨hl ▸ h.nodup, fun r hr => ?_, fun r hr => ?_⟩
  · rw [ha]
    exact h.lt r (hl ▸ hr)
  · rw [hl]
    exact h.listed r (hi r ▸ hr)

theorem trim (h : Enrolled c) : Enrolled { c with listed := c.listed.filter c.isActive } where
  nodup := h.nodup.filter _
  lt := fun r hr => h.lt r (List.mem_filter.mp hr).1
  listed := fun r hr => List.mem_filter.mpr ⟨h.listed r hr, hr⟩

theorem renew (h : Enrolled c) (t : Nat) (k : ConnectionId) (rs : List RegistrationId) :
    Enrolled (c.renew t k rs).1 := by
  rcases renew_cases c t k rs with ⟨r, rest, -, hr⟩ | ⟨-, hr⟩
  · rw [hr]
    exact h.congr rfl rfl
  · rw [hr]
    exact h.trim.congr rfl rfl

theorem cancel (h : Enrolled c) (r : RegistrationId) : Enrolled (c.cancel r) where
  nodup := h.nodup
  lt := fun r' hr => by
    rw [length_cancel]
    exact h.lt r' hr
  listed := fun r' hr => h.listed r' (of_isActive_cancel hr).1

theorem enlist (h : Enrolled c) (t : Nat) (k : ConnectionId) (key : Rpc.SubscriptionKey) :
    Enrolled (c.enlist t k key).1 where
  nodup := by
    have hn : c.active.length ∉ c.listed := fun hm => Nat.lt_irrefl _ (h.lt _ hm)
    exact h.nodup.append (List.nodup_singleton _) (List.disjoint_singleton.mpr hn)
  lt := by
    intro r hr
    have hl : (c.enlist t k key).1.active.length = c.active.length + 1 := List.length_append
    rw [hl]
    rcases List.mem_append.mp hr with hr | hr
    · exact Nat.lt_succ_of_lt (h.lt r hr)
    · rw [List.mem_singleton.mp hr]
      exact Nat.lt_succ_self _
  listed := by
    intro r hr
    refine List.mem_append.mpr ?_
    rcases (isActive_enlist c t k key r).mp hr with hr | hr
    · exact .inl (h.listed r hr)
    · exact .inr (List.mem_singleton.mpr hr)

theorem drain (h : Enrolled c) (t : Nat) :
    Enrolled (c.drain t).1 ∧ ∀ r, (c.drain t).1.isActive r = false := by
  obtain ⟨f, -, -, he⟩ := drain_eq c t
  have ha : ∀ r, (c.drain t).1.isActive r = false := by
    intro r
    rw [he]
    show (c.cancelAll c.listed).isActive r = false
    rw [isActive_cancelAll]
    by_cases hr : c.isActive r = true
    · simp [h.listed r hr]
    · simp [hr]
  refine ⟨⟨?_, ?_, fun r hr => ?_⟩, ha⟩
  · rw [he]
    exact List.nodup_nil
  · rw [he]
    exact List.forall_mem_nil _
  · rw [ha r] at hr
    cases hr

theorem move (h : Enrolled c) (hm : Move alone c w c' w') : Enrolled c' := by
  cases hm with
  | enlist t k key hs hl => exact h.enlist t k key
  | renewal t k hs hl => exact h.trim.renew t k _
  | drain t hs => exact (h.drain t).1
  | renewed t k r rest key hs hk =>
    exact renew (c := c.addStream k key (some r)) (h.congr rfl rfl) t k rest
  | refused t k r rest hs => exact (h.cancel r).renew t k rest
  | release r => exact h.cancel r
  | close =>
    rw [closeUnheld_eq]
    exact h.congr rfl rfl
  | _ => exact h.congr rfl rfl

end Enrolled

end Client
end WorkBridge.Link
