import Mathlib.Data.List.Basic

/-!
Machines in time.

A machine takes its steps at moments.  A run of moments is in order if time does not go back, and
on an ideal clock if moreover the machine is woken when its alarm goes.  On such a clock a machine
whose alarm stays set until it has done something does it before the alarm is overdue:
`OnClock.meets`.

What the moments of a run do to an invariant is said with the moment in its place in the run, as
`before ++ m :: after`; so a step lemma may use all that is known of the run up to there.
-/

namespace WorkBridge

/-- A machine that takes its steps at moments. -/
structure Clocked (α μ : Type) where
  step : α → μ → α
  time : μ → Nat
  /-- Whether what comes at a moment agrees with its time. -/
  fits : μ → Prop
  /-- When the machine is to be woken. -/
  alarm : α → Option Nat

namespace Clocked

/-- A stimulus and the time at which it comes. -/
structure Moment (σ : Type) where
  time : Nat
  stimulus : σ

/-- A machine that is given stimuli and puts something out. -/
def ofStep {α σ ω : Type} (step : α → σ → α × List ω) (fits : Nat → σ → Prop)
    (alarm : α → Option Nat) : Clocked α (Moment σ) where
  step a m := (step a m.stimulus).1
  time m := m.time
  fits m := fits m.time m.stimulus
  alarm := alarm

variable {α μ : Type} (c : Clocked α μ)

/-- The machine after a run. -/
def through (a : α) (ms : List μ) : α := ms.foldl c.step a

def clockAfter (now : Nat) (ms : List μ) : Nat := ms.foldl (fun _ m => c.time m) now

/-- Runs in which time does not go back, from a time on.  Every step may come as late as it
likes. -/
def InOrder (now : Nat) : List μ → Prop
  | [] => True
  | m :: rest => now ≤ c.time m ∧ c.fits m ∧ InOrder (c.time m) rest

/-- Runs on an ideal clock, from a time on.  Time does not go back, and it does not go past the
alarm of a machine before the machine has taken a step. -/
def OnClock (a : α) (now : Nat) : List μ → Prop
  | [] => True
  | m :: rest =>
    now ≤ c.time m ∧ c.fits m ∧ (∀ due ∈ c.alarm a, c.time m ≤ max now due) ∧
      OnClock (c.step a m) (c.time m) rest

instance OnClock.decidable [DecidablePred c.fits] :
    ∀ (a : α) (now : Nat) (ms : List μ), Decidable (c.OnClock a now ms)
  | _, _, [] => .isTrue trivial
  | a, now, m :: rest =>
    have := OnClock.decidable (c.step a m) (c.time m) rest
    inferInstanceAs
      (Decidable (now ≤ c.time m ∧ c.fits m ∧ (∀ due ∈ c.alarm a, c.time m ≤ max now due) ∧ _))

/-- Something happens in a run, by a time at the latest. -/
def HappensBy (what : α → μ → Prop) (d : Nat) (a : α) (ms : List μ) : Prop :=
  ∃ before m after, ms = before ++ m :: after ∧ what (c.through a before) m ∧ c.time m ≤ d

/-- A run on an ideal clock that keeps to what is allowed and goes past a time. -/
def GoesPast (allowed : μ → Prop) (a : α) (now time : Nat) (ms : List μ) : Prop :=
  c.OnClock a now ms ∧ (∀ m ∈ ms, allowed m) ∧ ∃ m ∈ ms, time < c.time m

variable {a : α} {now time d : Nat} {m : μ} {ms ns : List μ} {allowed : μ → Prop}

theorem through_append (a : α) (ms ns : List μ) :
    c.through a (ms ++ ns) = c.through (c.through a ms) ns := List.foldl_append

/-! ### What a run does -/

/-- What every moment of a run keeps in its place holds after the run. -/
theorem through_of_steps {P : α → Prop} (h : P a)
    (hstep : ∀ before m after, ms = before ++ m :: after → P (c.through a before) →
      P (c.step (c.through a before) m)) : P (c.through a ms) := by
  induction ms generalizing a with
  | nil => exact h
  | cons m ms ih =>
    have hnext := hstep [] m ms rfl h
    refine ih hnext fun before m' after he => ?_
    exact hstep (m :: before) m' after (by rw [he]; rfl)

theorem through_induction {P : α → Prop} (hstep : ∀ a m, P a → P (c.step a m)) (h : P a)
    (ms : List μ) : P (c.through a ms) :=
  c.through_of_steps h fun _ m _ _ => hstep _ m

/-- What a run brings about, one of its moments brings about. -/
theorem exists_step {P : α → Prop} (h₀ : ¬P a) (h : P (c.through a ms)) :
    ∃ before m after, ms = before ++ m :: after ∧ ¬P (c.through a before) ∧
      P (c.step (c.through a before) m) := by
  by_contra hno
  refine c.through_of_steps (P := fun b => ¬P b) h₀ (fun before m after he hb hm => ?_) h
  exact hno ⟨before, m, after, he, hb, hm⟩

/-- So what only some moments can bring about takes one of them. -/
theorem exists_mem {P : α → Prop} {Q : μ → Prop} (hstep : ∀ a m, ¬Q m → P (c.step a m) → P a)
    (h₀ : ¬P a) (h : P (c.through a ms)) : ∃ m ∈ ms, Q m := by
  obtain ⟨before, m, after, rfl, hb, hm⟩ := c.exists_step h₀ h
  refine ⟨m, List.mem_append_right _ List.mem_cons_self, ?_⟩
  by_contra hq
  exact hb (hstep _ m hq hm)

variable {c}

/-! ### Time in a run -/

namespace InOrder

theorem split (h : c.InOrder now (ms ++ m :: ns)) :
    (∀ e ∈ ms, c.time e ≤ c.time m) ∧ now ≤ c.time m ∧ c.fits m ∧ c.InOrder (c.time m) ns := by
  induction ms generalizing now with
  | nil => exact ⟨List.forall_mem_nil _, h⟩
  | cons e ms ih =>
    obtain ⟨hle, -, hrest⟩ := h
    obtain ⟨hms, hm, hns⟩ := ih hrest
    exact ⟨List.forall_mem_cons.mpr ⟨hm, hms⟩, Nat.le_trans hle hm, hns⟩

theorem left (h : c.InOrder now (ms ++ ns)) : c.InOrder now ms := by
  induction ms generalizing now with
  | nil => trivial
  | cons m ms ih => exact ⟨h.1, h.2.1, ih h.2.2⟩

end InOrder

namespace OnClock

theorem inOrder (h : c.OnClock a now ms) : c.InOrder now ms := by
  induction ms generalizing a now with
  | nil => trivial
  | cons m ms ih => exact ⟨h.1, h.2.1, ih h.2.2.2⟩

theorem right (h : c.OnClock a now (ms ++ ns)) :
    c.OnClock (c.through a ms) (c.clockAfter now ms) ns := by
  induction ms generalizing a now with
  | nil => exact h
  | cons m ms ih => exact ih h.2.2.2

theorem append (h : c.OnClock a now ms)
    (hn : c.OnClock (c.through a ms) (c.clockAfter now ms) ns) : c.OnClock a now (ms ++ ns) := by
  induction ms generalizing a now with
  | nil => exact hn
  | cons m ms ih =>
    obtain ⟨hle, hfit, halarm, hrest⟩ := h
    exact ⟨hle, hfit, halarm, ih hrest hn⟩

/-- What every step on a clock keeps, at the time to which it brings the clock, holds after a
run. -/
theorem induction {P : Nat → α → Prop} (hrun : c.OnClock a now ms) (h : P now a)
    (hstep : ∀ now a m, now ≤ c.time m → (∀ due ∈ c.alarm a, c.time m ≤ max now due) → P now a →
      P (c.time m) (c.step a m)) : P (c.clockAfter now ms) (c.through a ms) := by
  induction ms generalizing a now with
  | nil => exact h
  | cons m ms ih =>
    obtain ⟨hle, -, halarm, hrest⟩ := hrun
    exact ih hrest (hstep now a m hle halarm h)

end OnClock

/-! ### Deadlines -/

theorem HappensBy.cons {what : α → μ → Prop} (h : c.HappensBy what d (c.step a m) ms) :
    c.HappensBy what d a (m :: ms) := by
  obtain ⟨before, m', after, rfl, hm', hle⟩ := h
  exact ⟨m :: before, m', after, rfl, hm', hle⟩

/-- Say that a machine has its alarm set by `time` for as long as it waits, and that whatever does
not stop it leaves it waiting or does what it waits for.  On an ideal clock that is done by `time`,
unless the machine is stopped by then or that time does not come. -/
theorem OnClock.meets {what : α → μ → Prop} {stops : μ → Prop} (hrun : c.OnClock a now ms)
    (waits : α → Prop) (h : waits a) (hnow : now ≤ time)
    (halarm : ∀ a, waits a → ∃ due ∈ c.alarm a, due ≤ time)
    (hstep : ∀ a, ∀ m ∈ ms, waits a → c.fits m → c.time m ≤ time → ¬stops m →
      what a m ∨ waits (c.step a m)) :
    c.HappensBy what time a ms ∨ (∃ m ∈ ms, stops m ∧ c.time m ≤ time) ∨
      ∀ m ∈ ms, c.time m ≤ time := by
  induction ms generalizing a now with
  | nil => exact .inr (.inr (List.forall_mem_nil _))
  | cons m ms ih =>
    obtain ⟨-, hfit, hwoken, hrest⟩ := hrun
    have hm : c.time m ≤ time := by
      obtain ⟨due, hdue, hle⟩ := halarm a h
      have := hwoken due hdue
      omega
    by_cases hs : stops m
    · exact .inr (.inl ⟨m, List.mem_cons_self, hs, hm⟩)
    · rcases hstep a m List.mem_cons_self h hfit hm hs with hdone | hwaits
      · exact .inl ⟨[], m, ms, rfl, hdone, hm⟩
      · rcases ih hrest hwaits hm fun a m' hm' => hstep a m' (List.mem_cons_of_mem _ hm') with
          hlater | ⟨m', hm', hs'⟩ | hle
        · exact .inl hlater.cons
        · exact .inr (.inl ⟨m', List.mem_cons_of_mem _ hm', hs'⟩)
        · exact .inr (.inr (List.forall_mem_cons.mpr ⟨hm, hle⟩))

/-! ### Time goes on -/

theorem GoesPast.cons (hle : now ≤ c.time m) (hfit : c.fits m)
    (halarm : ∀ due ∈ c.alarm a, c.time m ≤ max now due) (hm : allowed m)
    (h : c.GoesPast allowed (c.step a m) (c.time m) time ms) :
    c.GoesPast allowed a now time (m :: ms) := by
  obtain ⟨hrun, hkept, e, he, hlate⟩ := h
  exact ⟨⟨hle, hfit, halarm, hrun⟩, List.forall_mem_cons.mpr ⟨hm, hkept⟩, e,
    List.mem_cons_of_mem _ he, hlate⟩

/-- Nothing holds time up where no alarm is set. -/
theorem exists_goesPast_of_quiet (h : c.alarm a = none)
    (hany : ∀ t, ∃ m, c.time m = t ∧ c.fits m ∧ allowed m) (now time : Nat) :
    ∃ more, c.GoesPast allowed a now time more := by
  obtain ⟨m, ht, hfit, hm⟩ := hany (max now (time + 1))
  have hle : now ≤ c.time m := by omega
  have hlate : time < c.time m := by omega
  refine ⟨[m], ⟨hle, hfit, ?_, trivial⟩, List.forall_mem_singleton.mpr hm, m,
    List.mem_cons_self, hlate⟩
  rw [h]
  exact nofun

/-- A run that can go on past a time, from where another run has come to. -/
theorem GoesPast.after (h : c.GoesPast allowed (c.through a ms) (c.clockAfter now ms) time ns)
    (hrun : c.OnClock a now ms) (hkept : ∀ m ∈ ms, allowed m) :
    c.OnClock a now (ms ++ ns) ∧ (∀ m ∈ ms ++ ns, allowed m) ∧ ∃ m ∈ ns, time < c.time m := by
  obtain ⟨hmore, hkept', hlast⟩ := h
  exact ⟨hrun.append hmore, List.forall_mem_append.mpr ⟨hkept, hkept'⟩, hlast⟩

end Clocked
end WorkBridge
