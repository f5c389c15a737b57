import WorkBridge.Proofs.Link.Balance

/-!
What holds after every run.
-/

namespace WorkBridge.Link

/-- The ledger of a client that has just been made. -/
def Ledger.start (connection : ConnectionId) : Ledger := { known := [connection] }

namespace Client

variable {alone : Prop} {c c' : Client} {w w' : Ledger}

structure Sound (c : Client) (w : Ledger) : Prop where
  orderly : Orderly c
  connected : Connected c w.known
  enrolled : Enrolled c
  bounded : Bounded c w
  awaited : Awaited c w
  balanced : Balanced c w
  blamed : ∀ p ∈ w.closed, p.2 ∈ w.troubled ∨ p.2 ∈ w.lost

namespace Sound

theorem blamed_move (h : Sound c w) (hm : Move alone c w c' w') :
    ∀ p ∈ w'.closed, p.2 ∈ w'.troubled ∨ p.2 ∈ w'.lost := by
  cases hm with
  | enlist t k key hs hl =>
    intro p hp
    rcases List.mem_append.mp hp with hp | hp
    · exact h.blamed p hp
    · unfold closedBefore at hp
      split at hp
      · rename_i hany
        obtain ⟨s, hm, hu⟩ := List.any_eq_true.mp hany
        simp only [Stream.isSpare, Bool.and_eq_true, decide_eq_true_eq,
          Option.isNone_iff_eq_none] at hu
        rw [List.mem_singleton.mp hp, ← hu.1.1.1]
        exact h.awaited.ended s hm hu.1.2 hu.2
      · cases hp
  | ended k key =>
    intro p hp
    rcases List.mem_append.mp hp with hp | hp
    · exact (h.blamed p hp).imp_left (List.mem_append_left _)
    · obtain ⟨s, -, hr⟩ := List.mem_filterMap.mp hp
      obtain ⟨r, -, rfl⟩ := Option.map_eq_some_iff.mp hr
      exact .inl (List.mem_append_right _ (List.mem_singleton_self k))
  | lost k => exact fun p hp => (h.blamed p hp).imp_right (List.mem_append_left _)
  | _ => exact h.blamed

theorem move (h : Sound c w) (hm : Move alone c w c' w') : Sound c' w' where
  orderly := h.orderly.move h.connected hm
  connected := h.connected.move hm
  enrolled := h.enrolled.move hm
  bounded := h.bounded.move h.connected h.enrolled hm
  awaited := h.awaited.move h.orderly h.bounded hm
  balanced := h.balanced.move h.orderly h.connected h.enrolled h.bounded h.awaited hm
  blamed := h.blamed_move hm

theorem step (h : Sound c w) {e : Event} (ha : c.Allows w e) :
    Sound (c.step e).1 (c.book w e) := by
  have hm : Moves False c w (c.step e).1 (c.book w e) := step_moves h.orderly ha False.elim
  exact hm.keep (fun hm h => h.move hm) h

theorem run (h : Sound c w) {es : List Event} (hl : c.Lawful w es) :
    Sound (c.after es) (c.ledger w es) := by
  induction es generalizing c w with
  | nil => exact h
  | cons e es ih => exact ih (h.step hl.1) hl.2

theorem new (address : Node.Address) (url : Url) (k : ConnectionId) :
    Sound (new address url k) (.start k) where
  orderly := ⟨List.nodup_nil, fun t => by simp [Client.new, stage?], List.nodup_nil,
    nofun, List.Pairwise.nil⟩
  connected := ⟨fun k' hk => by cases hk; exact List.mem_singleton_self k, nofun, fun _ hk => hk⟩
  enrolled := ⟨List.nodup_nil, List.forall_mem_nil _, fun r hr => by
    simp [isActive, Client.new] at hr⟩
  bounded := ⟨List.forall_mem_nil _, List.forall_mem_nil _, List.forall_mem_nil _,
    List.forall_mem_nil _, nofun⟩
  awaited := ⟨fun _ _ => rfl, fun _ _ => Nat.zero_le 1, List.forall_mem_nil _,
    List.forall_mem_nil _⟩
  balanced := ⟨fun _ _ => Nat.zero_le 1, fun r k hr => by simp [isActive, Client.new] at hr⟩
  blamed := List.forall_mem_nil _

/-- When no call is under way, the subscriptions that there are and those that the node has
ended are the entries of the ledger, of which there is one at most. -/
theorem settled (h : Sound c w) (hc : c.calls = []) {k : ConnectionId}
    (hs : c.slot = some k) (hk : k ∉ w.lost) {r : RegistrationId} (hr : c.isActive r = true) :
    c.live r k + w.closed.count (r, k) = w.enlisted.count (r, k) + w.renewed.count (r, k) ∧
      w.enlisted.count (r, k) + w.renewed.count (r, k) ≤ 1 := by
  have hw : ∀ f, c.weigh f = 0 := fun f => by rw [weigh, hc]; rfl
  have he := h.balanced.even r k hr (h.connected.slot k hs) hk
  have ho := h.balanced.once r k
  rw [hw] at he ho
  exact ⟨he, ho⟩

end Sound

/-! ### Trouble -/

theorem enters_trouble (c : Client) (w : Ledger) (t : Nat) :
    (c.enters w t).troubled = w.troubled ∧ (c.enters w t).lost = w.lost := by
  unfold enters
  split <;> exact ⟨rfl, rfl⟩

theorem book_troubled (c : Client) (w : Ledger) {e : Event} (h : ∀ k key, e ≠ .ended k key) :
    (c.book w e).troubled = w.troubled := by
  unfold book
  split
  · split
    · split <;> rfl
    · rfl
  · split
    · dsimp only
      split <;> rfl
    · rfl
  · split
    · exact (enters_trouble c w _).1
    · rfl
  · exact absurd rfl (h _ _)
  · rfl
  · rfl

theorem book_lost (c : Client) (w : Ledger) {e : Event} (h : ∀ k, e ≠ .lost k) :
    (c.book w e).lost = w.lost := by
  unfold book
  split
  · split
    · split <;> rfl
    · rfl
  · split
    · dsimp only
      split <;> rfl
    · rfl
  · split
    · exact (enters_trouble c w _).2
    · rfl
  · rfl
  · exact absurd rfl (h _)
  · rfl

/-- The ledger says of connections that they are lost only when they are. -/
theorem mem_lost {k : ConnectionId} {es : List Event} (h : k ∈ (c.ledger w es).lost) :
    k ∈ w.lost ∨ .lost k ∈ es := by
  induction es generalizing c w with
  | nil => exact .inl h
  | cons e es ih =>
    rcases ih h with hb | he
    · by_cases hl : ∃ k', e = .lost k'
      · obtain ⟨k', rfl⟩ := hl
        rcases List.mem_append.mp hb with hb | hb
        · exact .inl hb
        · rw [List.mem_singleton.mp hb]
          exact .inr List.mem_cons_self
      · rw [book_lost c w fun k' he => hl ⟨k', he⟩] at hb
        exact .inl hb
    · exact .inr (List.mem_cons_of_mem e he)

end Client
end WorkBridge.Link
