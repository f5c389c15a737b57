import WorkBridge.Proofs.Link.Sound

/-!
Registrations and calls that overlap.

Calls register, reconnect and disconnect in any order and at the same time, and the node does
what it is asked.  When all have ended, a registration that is not ended has one subscription
on the connection in the slot if the ledger has it there, else none: `live_iff_entered`.  That
can be none, as a registration is missed that gets on the list after the renewal on that
connection but has subscribed before on another one: `registration_missed`.  In the same way
one that gets on the list behind a disconnect outlives it.
-/

namespace WorkBridge.Link

namespace Client

variable {c c' : Client} {w w' : Ledger} {t : Nat} {s : Stage} {e : Event}

/-- Whether the node refuses or ends a subscription, or ends a connection. -/
def Event.isTrouble : Event → Bool
  | .subscribed _ (.error _) => true
  | .ended _ _ => true
  | .lost _ => true
  | _ => false

/-- Whether a disconnect ends all registrations on the list and empties the slot. -/
def drains (c : Client) : Event → Bool
  | .begin _ .disconnect => c.lock.isEmpty
  | .proceed t => c.holdsLock t && c.stage? t = some .draining
  | _ => false

def everDrains (c : Client) : List Event → Bool
  | [] => false
  | e :: es => c.drains e || (c.step e).1.everDrains es

/-! ### A node that does as it is asked -/

theorem ledger_trouble {es : List Event} (h : ∀ e ∈ es, e.isTrouble = false) (c : Client)
    (w : Ledger) :
    (c.ledger w es).troubled = w.troubled ∧ (c.ledger w es).lost = w.lost := by
  induction es generalizing c w with
  | nil => exact ⟨rfl, rfl⟩
  | cons e es ih =>
    have ht := h e List.mem_cons_self
    have hi := ih (fun e he => h e (List.mem_cons_of_mem _ he)) (c.step e).1 (c.book w e)
    refine ⟨hi.1.trans ?_, hi.2.trans ?_⟩
    · exact book_troubled c w (by rintro k key rfl; cases ht)
    · exact book_lost c w (by rintro k rfl; cases ht)

/-- Without trouble no subscription is ended. -/
theorem Sound.closed_eq_nil (h : Sound c w) (ht : w.troubled = []) (hl : w.lost = []) :
    w.closed = [] := by
  rw [List.eq_nil_iff_forall_not_mem]
  intro p hp
  rcases h.blamed p hp with hm | hm
  · rw [ht] at hm
    cases hm
  · rw [hl] at hm
    cases hm

/-! ### Which registrations are not ended -/

theorem active_react (c : Client) (e : Event) : (c.step e).1.active = (c.react e).1.active := by
  show ((c.react e).1.closeUnheld.1.runStreams.1).active = _
  rw [runStreams_eq, closeUnheld_eq]

theorem active_underLock (hs : c.stage? t = some s) (hd : s ≠ .draining) :
    (c.underLock t).1.active = c.active ∨ (c.underLock t).1.active = c.active ++ [true] := by
  unfold underLock
  rw [hs]
  cases s with
  | enlisting k key => exact .inr rfl
  | queued k =>
    exact .inl (Balanced.renew_frame { c with listed := c.listed.filter c.isActive } t k _).1
  | draining => exact absurd rfl hd
  | _ => exact .inl rfl

theorem active_takeLock (hn : t ∉ c.lock) (hd : c.lock = [] → s ≠ .draining) :
    (c.takeLock t s).1.active = c.active ∨ (c.takeLock t s).1.active = c.active ++ [true] := by
  have ht : c.takeLock t s =
      if (c.enqueue t s).holdsLock t then (c.enqueue t s).underLock t else (c.enqueue t s, []) :=
    rfl
  rw [ht, holdsLock_enqueue hn]
  by_cases hc : c.lock = []
  · rw [if_pos (decide_eq_true hc)]
    exact active_underLock (stage?_enqueue c t s) (hd hc)
  · rw [if_neg (by simpa using hc)]
    exact .inl rfl

/-- Without a disconnect and without trouble, registrations are made and given up, and that is
all. -/
theorem active_step (h : Orderly c) (ha : c.Allows w e) (hd : c.drains e = false)
    (ht : e.isTrouble = false) (hr : ∀ r, e ≠ .release r) :
    (c.step e).1.active = c.active ∨ (c.step e).1.active = c.active ++ [true] := by
  rw [active_react]
  cases e with
  | begin t task =>
    cases task with
    | query q =>
      refine .inl ?_
      unfold react begin
      dsimp only
      split <;> rfl
    | register =>
      refine .inl ?_
      unfold react begin
      dsimp only
      split <;> rfl
    | reconnect => exact .inl rfl
    | disconnect =>
      have hn : t ∉ c.lock := h.not_mem_lock fun s hs => by rw [ha] at hs; cases hs
      exact active_takeLock (s := .draining) hn fun hl => by simp [drains, hl] at hd
  | answered t r =>
    refine .inl ?_
    unfold react answered
    dsimp only
    split
    · split <;> rfl
    · rfl
  | subscribed t r =>
    cases r with
    | error e => cases ht
    | ok key =>
      unfold react subscribed
      dsimp only
      split
      · rename_i k hs
        have hn : t ∉ c.lock := not_inLine h hs rfl
        exact active_takeLock (c := c.addStream k key none) (s := .enlisting k key) hn nofun
      · rename_i k current rest hs
        exact .inl (Balanced.renew_frame (c.addStream k key (some current)) t k rest).1
      · exact .inl rfl
  | dialed t r =>
    unfold react dialed
    dsimp only
    split
    · rename_i hs
      cases r with
      | error e => exact .inl rfl
      | ok k =>
        have hn : t ∉ c.lock := not_inLine h hs rfl
        exact active_takeLock (s := .queued k)
          (c := { c with slot := some k, connections := c.connections ++ [k] }) hn nofun
    · exact .inl rfl
  | proceed t =>
    unfold react
    dsimp only
    split
    · rename_i hl
      obtain ⟨s, hs, -⟩ := (h.line t).mp (Orderly.head_mem hl)
      refine active_underLock hs ?_
      rintro rfl
      simp [drains, hl, hs] at hd
    · exact .inl rfl
  | drop t => exact ha.elim
  | release r => exact absurd rfl (hr r)
  | discard => exact ha.elim
  | _ => exact .inl rfl

theorem isActive_release (c : Client) (r r' : RegistrationId) :
    (c.step (.release r')).1.isActive r = (c.isActive r && decide (r ≠ r')) := by
  rw [isActive, active_react]
  exact isActive_cancel c r r'

theorem isActive_drained (h : Sound c w) (ha : c.Allows w e) (hd : c.drains e = true)
    (r : RegistrationId) : (c.step e).1.isActive r = false := by
  rw [isActive, active_react]
  cases e with
  | begin t task =>
    cases task with
    | disconnect =>
      have hl : c.lock = [] := by simpa [drains] using hd
      have hn : t ∉ c.lock := by simp [hl]
      have ht : (c.takeLock t .draining).1 = ((c.enqueue t .draining).drain t).1 := by
        have hh : (c.enqueue t .draining).holdsLock t = true := by
          rw [holdsLock_enqueue hn, hl]
          rfl
        show (if (c.enqueue t .draining).holdsLock t then (c.enqueue t .draining).underLock t
          else (c.enqueue t .draining, [])).1 = _
        rw [if_pos hh, underLock, stage?_enqueue]
      have he : Enrolled (c.enqueue t .draining) := h.enrolled.congr rfl rfl
      show (c.takeLock t .draining).1.isActive r = false
      rw [ht]
      exact (he.drain t).2 r
    | _ => cases hd
  | proceed t =>
    simp only [drains, Bool.and_eq_true, decide_eq_true_eq] at hd
    show (c.react (.proceed t)).1.isActive r = false
    unfold react
    dsimp only
    rw [if_pos hd.1, underLock, hd.2]
    exact (h.enrolled.drain t).2 r
  | _ => cases hd

/-- From any time on, with no disconnect and no trouble, the registrations that are not ended
are those that were not and those that were made since, except for what was given up. -/
theorem isActive_run (h : Sound c w) {es : List Event} (hl : c.Lawful w es)
    (hd : c.everDrains es = false) (ht : ∀ e ∈ es, e.isTrouble = false) :
    c.active.length ≤ (c.after es).active.length ∧
      ∀ r : Nat, (c.after es).isActive r = true ↔
        (c.isActive r = true ∨ c.active.length ≤ r ∧ r < (c.after es).active.length) ∧
          .release r ∉ es := by
  induction es generalizing c w with
  | nil =>
    refine ⟨Nat.le_refl _, fun r => ?_⟩
    have hn : ¬(c.active.length ≤ r ∧ r < c.active.length) := by omega
    simp [after, hn]
  | cons e es ih =>
    simp only [everDrains, Bool.or_eq_false_iff] at hd
    have hs := ih (h.step hl.1) hl.2 hd.2 fun e he => ht e (List.mem_cons_of_mem _ he)
    have ha : c.after (e :: es) = (c.step e).1.after es := rfl
    rw [ha]
    by_cases he : ∃ r, e = .release r
    · obtain ⟨r₀, rfl⟩ := he
      -- What is made later has another number, so to give this one up does not reach it.
      have hr₀ : r₀ < c.active.length := hl.1
      have hlen : (c.step (.release r₀)).1.active.length = c.active.length := by
        rw [active_react]
        exact length_cancel c r₀
      rw [hlen] at hs
      refine ⟨hs.1, fun r => ?_⟩
      rw [hs.2, isActive_release]
      have hne : c.active.length ≤ r → r ≠ r₀ := fun hle heq =>
        Nat.not_lt.mpr hle (heq ▸ hr₀)
      simp only [Bool.and_eq_true, decide_eq_true_eq, List.mem_cons, Event.release.injEq, not_or]
      tauto
    · rw [not_exists] at he
      have hn : ∀ r, Event.release r ≠ e := fun r heq => he r heq.symm
      rcases active_step h.orderly hl.1 hd.1 (ht e List.mem_cons_self) he with hact | hact
      · have hi : ∀ r, (c.step e).1.isActive r = c.isActive r := fun r => by
          rw [isActive, hact, isActive]
        rw [hact] at hs
        simp only [hi] at hs
        simpa [hn] using hs
      · have hi : ∀ r, (c.step e).1.isActive r = true ↔
            c.isActive r = true ∨ r = c.active.length := fun r => by
          have hk := isActive_enlist c 0 0 default r
          rw [isActive, hact]
          exact hk
        have hlen : (c.step e).1.active.length = c.active.length + 1 := by
          rw [hact, List.length_append, List.length_singleton]
        rw [hlen] at hs
        simp only [hi] at hs
        refine ⟨by omega, fun r => ?_⟩
        rw [hs.2 r, List.mem_cons]
        have hsplit : (r = c.active.length ∨
            c.active.length + 1 ≤ r ∧ r < ((c.step e).1.after es).active.length) ↔
              c.active.length ≤ r ∧ r < ((c.step e).1.after es).active.length := by
          omega
        simp only [hn, false_or, or_assoc, hsplit]

/-! ### When all calls have ended -/

theorem lawful_append (c : Client) (w : Ledger) (es fs : List Event) :
    c.Lawful w (es ++ fs) ↔ c.Lawful w es ∧ (c.after es).Lawful (c.ledger w es) fs := by
  induction es generalizing c w with
  | nil => simp [Lawful, after, ledger]
  | cons e es ih =>
    show c.Allows w e ∧ (c.step e).1.Lawful (c.book w e) (es ++ fs) ↔ _
    rw [ih, ← and_assoc]
    rfl

theorem after_append (c : Client) (es fs : List Event) :
    c.after (es ++ fs) = (c.after es).after fs := List.foldl_append

/-- After calls that overlap in any way, and a node that does as it is asked: a registration
that is not ended has one subscription on the connection in the slot if the call that made it
had subscribed there, or if it was on the list as the renewal there began; otherwise it has none.
And of all registrations those outlive a disconnect, unless they are given up, that got on the
list behind it. -/
theorem live_iff_entered (address : Node.Address) (url : Url) (k₀ : ConnectionId)
    (es : List Event) (hl : (new address url k₀).Lawful (.start k₀) es)
    (ht : ∀ e ∈ es, e.isTrouble = false) :
    let c := (new address url k₀).after es
    let w := (new address url k₀).ledger (.start k₀) es
    c.calls = [] →
      (∀ k r, c.slot = some k → c.isActive r = true →
        c.live r k ≤ 1 ∧ (c.live r k = 1 ↔ (r, k) ∈ w.enlisted ∨ (r, k) ∈ w.renewed)) ∧
      ∀ before e rest, es = before ++ e :: rest →
        let drained := (new address url k₀).after (before ++ [e])
        ((new address url k₀).after before).drains e = true → drained.everDrains rest = false →
          ∀ r : Nat, c.isActive r = true ↔
            drained.active.length ≤ r ∧ r < c.active.length ∧ .release r ∉ rest := by
  dsimp only
  intro hc
  have hs := Sound.run (.new address url k₀) hl
  have hq := ledger_trouble ht (new address url k₀) (.start k₀)
  refine ⟨fun k r hk hr => ?_, fun before e rest he hd hn r => ?_⟩
  · have hz := hs.closed_eq_nil hq.1 hq.2
    have hb := hs.settled hc hk (by rw [hq.2]; exact List.not_mem_nil) hr
    rw [hz, List.count_nil, Nat.add_zero] at hb
    refine ⟨by omega, ?_⟩
    rw [← List.count_pos_iff (a := (r, k)), ← List.count_pos_iff (a := (r, k))]
    omega
  · subst he
    obtain ⟨hl₁, hl₂⟩ := (lawful_append _ _ before (e :: rest)).mp hl
    have hs₁ := Sound.run (.new address url k₀) hl₁
    have hoff := isActive_drained hs₁ hl₂.1 hd
    have hstep : (new address url k₀).after (before ++ [e]) =
        (((new address url k₀).after before).step e).1 := after_append _ before [e]
    have hrest : (new address url k₀).after (before ++ e :: rest) =
        (((new address url k₀).after before).step e).1.after rest :=
      after_append _ before (e :: rest)
    rw [hstep] at hn ⊢
    rw [hrest]
    have hrun := isActive_run (hs₁.step hl₂.1) hl₂.2 hn fun e he =>
      ht e (List.mem_append_right _ (List.mem_cons_of_mem _ he))
    rw [hrun.2 r, hoff]
    simp [and_assoc]

/-- A registration that is renewed. -/
def renewedOnce : List Event :=
  [.begin 1 .register, .subscribed 1 (.ok (.number 7)), .begin 2 .reconnect, .dialed 2 (.ok 1),
    .subscribed 2 (.ok (.number 8))]

theorem live_renewedOnce : ((new default default 0).after renewedOnce).live 0 1 = 1 := by
  have hl : (new default default 0).Lawful (.start 0) renewedOnce := by
    refine ⟨rfl, ?_, rfl, show (1 : Nat) ∉ [0] by decide, ?_, trivial⟩
    · intro s k hs hk stream hm
      cases hm
    · intro s k hs hk stream hm
      cases hm
  have hc := live_iff_entered default default 0 renewedOnce hl (by decide) rfl
  exact (hc.1 1 0 rfl rfl).2.mpr (.inr (by decide))

/-- A call that registers has subscribed, but is not on the list yet, as another one renews. -/
def overtaken : List Event :=
  [.begin 1 .register, .begin 2 .reconnect, .dialed 2 (.ok 1), .subscribed 1 (.ok (.number 7))]

theorem registration_missed :
    (new default default 0).Lawful (.start 0) overtaken ∧
      (∀ e ∈ overtaken, e.isTrouble = false) ∧
      ((new default default 0).after overtaken).calls = [] ∧
      ((new default default 0).after overtaken).slot = some 1 ∧
      ((new default default 0).after overtaken).isActive 0 = true ∧
      ((new default default 0).after overtaken).live 0 1 = 0 := by
  refine ⟨⟨rfl, rfl, show (1 : Nat) ∉ [0] by decide, ?_, trivial⟩, by decide, rfl, rfl, rfl, rfl⟩
  intro s k hs hk stream hm
  cases hm

/-- A call that registers gets on the list behind one that disconnects. -/
example :
    ((new default default 0).after
      [.begin 1 .register, .begin 2 .disconnect, .subscribed 1 (.ok (.number 7))]).isActive 0 =
        true := rfl

end Client
end WorkBridge.Link
