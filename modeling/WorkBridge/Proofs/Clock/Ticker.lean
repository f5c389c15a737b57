import WorkBridge.Clock.Ticker

/-!
When a ticker is due next.

However a ticker is set it keeps its period, and it is due again within one period.  Setting it
fails only where the instant one period ahead cannot be computed.
-/

namespace WorkBridge.Ticker

variable {t t' : Ticker} {now period due : Nat}

theorem due_of_after (h : after? now period = some due) : due = now + period := by
  unfold after? at h
  split at h
  · exact (Option.some.inj h).symm
  · cases h

theorem limit_of_after (h : after? now period = none) : instantLimit ≤ now + period := by
  unfold after? at h
  split at h
  · cases h
  · omega

theorem after_of_limit (h : instantLimit ≤ now + period) : after? now period = none :=
  if_neg (Nat.not_lt.mpr h)

theorem start_of_limit (h : instantLimit ≤ now + period) : start? now period = none := by
  unfold start?
  rw [after_of_limit h]
  split <;> rfl

theorem eq_of_start (h : start? now period = some t) : t = ⟨period, now + period⟩ := by
  unfold start? at h
  split at h
  · cases h
  · obtain ⟨due, hd, rfl⟩ := Option.map_eq_some_iff.mp h
    rw [due_of_after hd]

theorem limit_of_start (h : start? now period = none) :
    period = 0 ∨ instantLimit ≤ now + period := by
  unfold start? at h
  split at h
  · rename_i hp
    exact .inl hp
  · exact .inr (limit_of_after (Option.map_eq_none_iff.mp h))

theorem start_ne_none (hz : period ≠ 0) (hl : now + period < instantLimit) :
    start? now period ≠ none := by
  intro h
  rcases limit_of_start h with hp | hp
  · exact hz hp
  · omega

theorem eq_of_reset (h : t.reset? now = some t') : t' = { t with due := now + t.period } := by
  obtain ⟨due, hd, rfl⟩ := Option.map_eq_some_iff.mp h
  rw [due_of_after hd]

theorem limit_of_reset (h : t.reset? now = none) : instantLimit ≤ now + t.period :=
  limit_of_after (Option.map_eq_none_iff.mp h)

theorem reset_of_limit (h : instantLimit ≤ now + t.period) : t.reset? now = none := by
  unfold reset?
  rw [after_of_limit h]
  rfl

theorem period_of_tick (h : t.tick? now = some t') : t'.period = t.period := by
  unfold tick? at h
  split at h
  · obtain ⟨due, -, rfl⟩ := Option.map_eq_some_iff.mp h
    rfl
  · cases h
    rfl

/-- A tick that is taken late starts the period anew, and one that is taken in time keeps the
rhythm, which is no later. -/
theorem due_of_tick (hd : t.due ≤ now) (h : t.tick? now = some t') : t'.due ≤ now + t.period := by
  unfold tick? at h
  split at h
  · obtain ⟨due, ha, rfl⟩ := Option.map_eq_some_iff.mp h
    have := due_of_after ha
    dsimp only
    omega
  · cases h
    dsimp only
    omega

/-- A tick that is taken within the tolerance keeps the rhythm, so the next one may come early by
that much, but not by more. -/
theorem le_due_of_tick (h : t.tick? now = some t') : now + t.period ≤ t'.due + tolerance := by
  unfold tick? at h
  split at h
  · obtain ⟨due, ha, rfl⟩ := Option.map_eq_some_iff.mp h
    have := due_of_after ha
    dsimp only
    omega
  · cases h
    dsimp only
    omega

/-- A tick that is taken moves the next one on, if anything. -/
theorem due_le_of_tick (h : t.tick? now = some t') : t.due ≤ t'.due := by
  unfold tick? at h
  split at h
  · obtain ⟨due, ha, rfl⟩ := Option.map_eq_some_iff.mp h
    have := due_of_after ha
    dsimp only
    omega
  · cases h
    dsimp only
    omega

theorem limit_of_tick (h : t.tick? now = none) : instantLimit ≤ now + t.period := by
  unfold tick? at h
  split at h
  · exact limit_of_after (Option.map_eq_none_iff.mp h)
  · cases h

end WorkBridge.Ticker
