import WorkBridge.Proofs.Clock.Run
import WorkBridge.Proofs.Stats.Samples

/-!
Runs of a poller in time, and where samples begin and end in them.

An ideal clock wakes the poller when the tick that it waits for is due.
-/

namespace WorkBridge.Stats.Poller

open Node (ClientId)

/-! ### Runs in time -/

abbrev Moment := Clocked.Moment Stimulus

/-- A turn sees what time it is. -/
def Stimulus.fits (time : Nat) : Stimulus → Prop
  | .turn now _ _ => now = time
  | _ => True

/-- When a poller is woken: when the tick that it waits for is due, and as soon as it has called the
recorder, which returns at once. -/
def alarm (p : Poller) : Option Nat :=
  match p.point with
  | .ticking => p.ticker.map (·.due)
  | .recording => some 0
  | _ => none

/-- A poller in time. -/
def clocked : Clocked Poller Moment := .ofStep step (fun time s => s.fits time) alarm

abbrev InOrder (now : Nat) (ms : List Moment) : Prop := clocked.InOrder now ms

abbrev OnClock (p : Poller) (now : Nat) (ms : List Moment) : Prop := clocked.OnClock p now ms

abbrev through (p : Poller) (ms : List Moment) : Poller := clocked.through p ms

variable {settings : Settings} {p : Poller} {s : Stimulus} {now time d : Nat} {m : Moment}
  {ms ns : List Moment}

theorem through_append (p : Poller) (ms ns : List Moment) :
    p.through (ms ++ ns) = (p.through ms).through ns := clocked.through_append p ms ns

theorem Regular.through (h : Regular settings p) (ms : List Moment) :
    Regular settings (p.through ms) :=
  clocked.through_induction (fun _ m hp => hp.step m.stimulus) h ms

theorem cancel_mem (h : (p.through ms).cancelled = true) (hp : p.cancelled = false) :
    ∃ m ∈ ms, m.stimulus = .cancel := by
  refine clocked.exists_mem (P := fun p => p.cancelled = true) (fun p m hm hc => ?_)
    (Bool.eq_false_iff.mp hp) h
  exact (cancelled_step p hm).symm.trans hc

/-! ### Samples begin and end -/

/-- The first turn. -/
def startsUp (p : Poller) (s : Stimulus) : Prop :=
  p.point = .ready ∧ (p.step s).1.point ≠ .ready

/-- A tick is taken. -/
def begins (p : Poller) (s : Stimulus) : Prop := ∃ slot, .tick slot ∈ p.deedsOf s

/-- A sample is recorded, or its failure is told. -/
def ends (p : Poller) (s : Stimulus) : Prop := ∃ r, ∃ o ∈ verdict r, o ∈ (p.step s).2

/-- A sample begins with a tick that is due. -/
theorem tick_of_begins (hfit : s.fits time) (h : p.begins s) :
    p.point = .ticking ∧ p.cancelled = false ∧ ∃ t ticker, p.ticker = some t ∧ t.due ≤ time ∧
      t.tick? time = some ticker ∧ (p.step s).1.ticker = some ticker := by
  obtain ⟨slot, hslot⟩ := h
  cases moved p s with
  | tick now slot answer hs hp hc t ticker ht hd hk hn =>
    subst hs
    cases hfit
    refine ⟨hp, hc, t, ticker, ht, hd, hk, ?_⟩
    obtain ⟨point, hpoint⟩ := proceed_eq { p with ticker := some ticker } (.start slot)
    rw [hn, hpoint]
  | goOn now slot answer hs progress next hp hf hn =>
    have hout : (p.step s).2.filter Output.ofTick = said p.settings.window next := by
      rw [hn, ofTick_proceed]
    rw [deedsOf_of_said hout (said_ne_nil _ _), hs, heard, hp] at hslot
    simp at hslot
  | _ hq =>
    rw [deedsOf_of_quiet hq] at hslot
    cases hslot

theorem not_ends_of_quiet (hq : (p.step s).2.filter Output.ofTick = []) : ¬p.ends s := by
  rintro ⟨r, o, ho, hmem⟩
  have hof := List.mem_filter.mpr ⟨hmem, ofTick_verdict ho⟩
  rw [hq] at hof
  cases hof

/-- Going on with a sample ends it if nothing more is to be asked for. -/
theorem ends_proceed {q : Poller} {progress : Progress} (h : p.step s = q.proceed progress) :
    p.ends s ∧ ((p.step s).1.cancelled = true ∨ (p.step s).1.point = .recording ∨
        (p.step s).1.point = .ticking) ∨
      ¬p.ends s ∧ (p.step s).1.point = .sampling progress := by
  unfold ends
  rw [h]
  match progress with
  | .askDag client =>
    refine .inr ⟨?_, rfl⟩
    rintro ⟨r, o, ho, hmem⟩
    cases List.mem_singleton.mp hmem
    cases r <;> simp [verdict] at ho
  | .askEstimate client info tip =>
    refine .inr ⟨?_, rfl⟩
    rintro ⟨r, o, ho, hmem⟩
    cases List.mem_singleton.mp hmem
    cases r <;> simp [verdict] at ho
  | .done (.ok sample) =>
    exact .inl ⟨⟨.ok sample, _, List.mem_cons_self, List.mem_cons_self⟩, .inr (.inl rfl)⟩
  | .done (.error e) =>
    refine .inl ⟨⟨.error e, _, List.mem_cons_self, List.mem_cons_self⟩, ?_⟩
    show q.awaitTick.1.cancelled = true ∨ _ ∨ q.awaitTick.1.point = .ticking
    obtain ⟨point, hpoint⟩ := awaitTick_eq q
    rcases awaitTick_cases q with ⟨hc, -⟩ | hn
    · rw [hpoint]
      exact .inl hc
    · rw [hn]
      exact .inr (.inr rfl)

theorem begins_of_tick {q : Poller} {slot : Option ClientId} {answer : Option Answer}
    (hp : p.point = .ticking)
    (hn : p.step (.turn now slot answer) = q.proceed (.start slot)) :
    p.begins (.turn now slot answer) := by
  have hout : (p.step (.turn now slot answer)).2.filter Output.ofTick =
      said q.settings.window (.start slot) := by
    rw [hn, ofTick_proceed]
  refine ⟨slot, ?_⟩
  rw [deedsOf_of_said hout (said_ne_nil _ _), heard, hp]
  exact List.mem_cons_self

end WorkBridge.Stats.Poller
