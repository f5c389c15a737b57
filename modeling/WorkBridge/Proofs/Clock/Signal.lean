import WorkBridge.Clock.Signal

/-!
How many wake-ups a signal keeps.

`Signal.kept` counts the stored wake-up and the one that the waiter got and has not taken.
A notification adds at most one to it and leaves at least one; nothing but `take` removes the
last one, so a wake-up is either taken or still there.
-/

namespace WorkBridge.Signal

def kept (s : Signal) : Nat :=
  (if s.stored then 1 else 0) + (if s.isWoken then 1 else 0)

theorem kept_le_two (s : Signal) : s.kept ≤ 2 := by
  unfold kept
  split <;> split <;> omega

theorem kept_eq_zero_iff {s : Signal} : s.kept = 0 ↔ s.stored = false ∧ s.isWoken = false := by
  unfold kept
  cases s.stored <;> cases s.isWoken <;> simp

theorem kept_notify_le (s : Signal) : s.notify.kept ≤ s.kept + 1 := by
  obtain ⟨stored, waiter⟩ := s
  cases stored <;> cases waiter <;> decide

theorem kept_notify_pos (s : Signal) : 0 < s.notify.kept := by
  obtain ⟨stored, waiter⟩ := s
  cases stored <;> cases waiter <;> decide

theorem waiter_notify {s : Signal} (h : s.waiter = .absent) : s.notify.waiter = .absent := by
  obtain ⟨stored, waiter⟩ := s
  subst h
  rfl

theorem isWoken_notify {s : Signal} (h : s.waiter ≠ .absent) : s.notify.isWoken = true := by
  obtain ⟨stored, waiter⟩ := s
  cases waiter with
  | absent => exact absurd rfl h
  | waiting => rfl
  | woken => rfl

theorem waiter_ne_of_isWoken {s : Signal} (h : s.isWoken = true) : s.waiter ≠ .absent := by
  intro ha
  simp [isWoken, ha] at h

theorem kept_listen {s : Signal} (h : s.waiter = .absent) : s.listen.kept = s.kept := by
  obtain ⟨stored, waiter⟩ := s
  subst h
  cases stored <;> rfl

theorem stored_listen (s : Signal) : s.listen.stored = false := by
  obtain ⟨stored, waiter⟩ := s
  cases stored <;> rfl

theorem waiter_listen_ne (s : Signal) : s.listen.waiter ≠ .absent := by
  obtain ⟨stored, waiter⟩ := s
  cases stored <;> simp [listen]

theorem kept_take {s : Signal} (h : s.isWoken = true) : s.take.kept + 1 = s.kept := by
  obtain ⟨stored, waiter⟩ := s
  have hw : waiter = .woken := by simpa [isWoken] using h
  subst hw
  cases stored <;> rfl

theorem waiter_take (s : Signal) : s.take.waiter = .absent := rfl

theorem kept_leave_le (s : Signal) : s.leave.kept ≤ s.kept := by
  obtain ⟨stored, waiter⟩ := s
  cases stored <;> cases waiter <;> decide

theorem kept_leave_pos {s : Signal} (h : 0 < s.kept) : 0 < s.leave.kept := by
  obtain ⟨stored, waiter⟩ := s
  cases waiter with
  | woken => decide +revert
  | absent => exact h
  | waiting => exact h

theorem waiter_leave (s : Signal) : s.leave.waiter = .absent := by
  obtain ⟨stored, waiter⟩ := s
  cases waiter <;> rfl

/-- A notification during the turn in which the waiter gives up is worth as much as one right
after that turn.  So it loses nothing to let notifications come between turns only. -/
theorem leave_notify (s : Signal) : s.notify.leave = s.leave.notify := by
  obtain ⟨stored, waiter⟩ := s
  cases waiter <;> rfl

end WorkBridge.Signal
