import WorkBridge.Proofs.Stats.Turn

/-!
How a poller ends.

A cancelled poller makes no request and records nothing, and its next turn ends it, unless the
recorder still runs.  A poller that is not cancelled ends only with what it called or for want of
a ticker.
-/

namespace WorkBridge.Stats.Poller

open Node (ClientId)

/-- Whether something is asked for, or the recorder is called. -/
def Output.isStart : Output → Bool
  | .request _ => true
  | .record _ => true
  | _ => false

def Quiet (out : List Output) : Prop := ∀ o ∈ out, o.isStart = false

/-- The end of a task, with nothing begun. -/
structure Over (r : Poller × List Output) : Prop where
  quiet : Quiet r.2
  ended : r.1.isEnded = true

variable {settings : Settings} {p : Poller} {s : Stimulus} {now : Nat} {slot : Option ClientId}
  {answer : Option Answer} {r : Poller × List Output}

namespace Over

theorem stop (p : Poller) : Over p.stop := ⟨by simp [Poller.stop, Quiet, Output.isStart], rfl⟩

theorem fail (p : Poller) : Over p.fail := ⟨List.forall_mem_nil _, rfl⟩

theorem abandoning (h : Over r) : Over (abandoning r) :=
  ⟨List.forall_mem_cons.mpr ⟨rfl, h.quiet⟩, h.ended⟩

theorem log {e : LogEntry} (h : Over r) : Over (r.1, .log e :: r.2) :=
  ⟨List.forall_mem_cons.mpr ⟨rfl, h.quiet⟩, h.ended⟩

theorem awaitTick (hc : p.cancelled = true) : Over p.awaitTick := by
  unfold Poller.awaitTick
  rw [if_pos hc]
  exact stop p

end Over

/-! ### After a cancellation -/

/-- A turn of a cancelled poller is its last, or the recorder still runs, or it had ended before. -/
theorem turn_of_cancelled (hc : p.cancelled = true) (now : Nat) (slot : Option ClientId)
    (answer : Option Answer) :
    Over (p.turn now slot answer) ∨ p.turn now slot answer = (p, []) ∧
      (p.isEnded = true ∨
        p.point = .recording ∧ answer ≠ some .recorded ∧ answer ≠ some .crashed) := by
  have hne : ¬p.cancelled = false := by simp [hc]
  have hcases := turn_cases p now slot answer
  generalize p.turn now slot answer = r at hcases ⊢
  cases hcases with
  | stay h =>
    rcases h with h | h | h
    · exact .inr ⟨rfl, .inl h⟩
    · exact absurd h hne
    · exact .inr ⟨rfl, .inr h⟩
  | hello hp ticker ht e =>
    exact .inl (Over.awaitTick (p := { p with ticker := some ticker }) hc).log
  | helloFailing hp ht e => exact .inl (Over.fail p).log
  | cancelled => exact .inl (.stop p)
  | abandoned => exact .inl (Over.stop p).abandoning
  | tick hp hn => exact absurd hn hne
  | tickFailing hp hn => exact .inl (.fail p)
  | dag client i hp hn => exact absurd hn hne
  | estimate client info tip i hp hn => exact absurd hn hne
  | recorded hp ha => exact .inl (.awaitTick hc)
  | crashed ha => exact .inl (.fail p)

theorem quiet_step (hc : p.cancelled = true) (s : Stimulus) : Quiet (p.step s).2 := by
  cases s with
  | cancel => exact List.forall_mem_nil _
  | abort =>
    unfold step
    dsimp only
    split
    · exact List.forall_mem_nil _
    · exact (Over.fail p).abandoning.quiet
  | turn now slot answer =>
    rw [step]
    rcases turn_of_cancelled hc now slot answer with h | ⟨h, -⟩
    · exact h.quiet
    · rw [h]
      exact List.forall_mem_nil _

theorem cancelled_run (hc : p.cancelled = true) (ss : List Stimulus) :
    (p.after ss).cancelled = true := by
  induction ss generalizing p with
  | nil => exact hc
  | cons s ss ih =>
    refine ih ?_
    by_cases hs : s = .cancel
    · rw [hs]
      rfl
    · exact (cancelled_step p hs).trans hc

theorem quiet_run (hc : p.cancelled = true) (ss : List Stimulus) : Quiet (p.outputs ss) := by
  induction ss generalizing p with
  | nil => exact List.forall_mem_nil _
  | cons s ss ih =>
    exact List.forall_mem_append.mpr ⟨quiet_step hc s, ih (cancelled_run hc [s])⟩

/-! ### Without a cancellation -/

/-- What a poller has to take in its stride: all but a cancellation, a call that breaks off, the
end of its task, and a time from which no instant one period ahead can be computed. -/
def Stimulus.isHarmless (period : Nat) : Stimulus → Prop
  | .cancel => False
  | .abort => False
  | .turn now _ answer => answer ≠ some .crashed ∧ now + period < instantLimit

theorem awaitTick_goes_on (hc : p.cancelled = false) : p.awaitTick.1.isEnded = false := by
  unfold awaitTick
  rw [hc]
  rfl

theorem proceed_goes_on (hc : p.cancelled = false) (progress : Progress) :
    (p.proceed progress).1.isEnded = false := by
  unfold proceed
  split
  · rfl
  · exact awaitTick_goes_on hc
  · rfl

theorem goes_on_step (h : Regular settings p) (hz : settings.interval.toMillis ≠ 0)
    (hs : s.isHarmless settings.interval.toMillis) (hc : p.cancelled = false)
    (hn : p.isEnded = false) : (p.step s).1.isEnded = false := by
  cases s with
  | cancel => exact hs.elim
  | abort => exact hs.elim
  | turn now slot answer =>
    obtain ⟨hcrash, hlimit⟩ := hs
    have hcases := turn_cases p now slot answer
    rw [step]
    generalize p.turn now slot answer = r at hcases ⊢
    cases hcases with
    | stay hi => exact hn
    | hello hp ticker ht e => exact awaitTick_goes_on (p := { p with ticker := some ticker }) hc
    | helloFailing hp ht e =>
      have := Ticker.limit_of_start ht
      rw [h.same] at this
      omega
    | cancelled hc' => exact absurd (hc.symm.trans hc') Bool.false_ne_true
    | abandoned hc' => exact absurd (hc.symm.trans hc') Bool.false_ne_true
    | tick hp hc' t ticker ht hd hk =>
      exact proceed_goes_on (p := { p with ticker := some ticker }) hc _
    | tickFailing hp hc' t ht hk =>
      have := Ticker.limit_of_tick hk
      rw [h.period t ht] at this
      omega
    | dag client i hp hc' ha => exact proceed_goes_on hc _
    | estimate client info tip i hp hc' ha => exact proceed_goes_on hc _
    | recorded hp ha => exact awaitTick_goes_on hc
    | crashed ha => exact absurd ha hcrash

theorem goes_on (settings : Settings) (hz : settings.interval.toMillis ≠ 0) {ss : List Stimulus}
    (hs : ∀ s ∈ ss, s.isHarmless settings.interval.toMillis) :
    ((start settings).after ss).isEnded = false ∧
      ((start settings).after ss).cancelled = false := by
  induction ss using List.reverseRecOn with
  | nil => exact ⟨rfl, rfl⟩
  | append_singleton ss s ih =>
    obtain ⟨hn, hc⟩ := ih fun s' hs' => hs s' (List.mem_append_left _ hs')
    have hlast := hs s (List.mem_append_right _ List.mem_cons_self)
    rw [after_snoc]
    refine ⟨goes_on_step (regular settings ss) hz hlast hc hn, ?_⟩
    rw [cancelled_step _ (by rintro rfl; exact hlast)]
    exact hc

end WorkBridge.Stats.Poller
