import WorkBridge.Proofs.Stats.Timing

/-!
When a poller takes its samples.

A tick that is taken puts the next one off for a period, less the tolerance (`PutOff`), and leaves
it due within a period (`Due`).  No tick is taken before the sample of the last one has ended
(`InSample`), and a poller that has done with a sample takes the next tick when it is due (`Idle`).
So samples come neither in bursts nor late: `samples_keep_pace`.
-/

namespace WorkBridge.Stats.Poller

open Node (ClientId)

variable {settings : Settings} {p : Poller} {s : Stimulus} {now time d : Nat} {m : Moment}
  {ms : List Moment}

/-! ### What is put off -/

theorem proceed_ne_ready (p : Poller) (progress : Progress) :
    (p.proceed progress).1.point ≠ .ready := by
  match progress with
  | .askDag client => exact nofun
  | .askEstimate client info tip => exact nofun
  | .done (.ok sample) => exact nofun
  | .done (.error e) =>
    show p.awaitTick.1.point ≠ .ready
    unfold awaitTick
    split <;> exact nofun

theorem ne_ready_of_ended (he : p.isEnded = true) : p.point ≠ .ready := by
  intro hp
  rw [isEnded, hp] at he
  cases he

/-- The first turn is over, and as long as the poller goes on, no tick is due before a time. -/
structure PutOff (d : Nat) (p : Poller) : Prop where
  begun : p.point ≠ .ready
  due : p.isEnded = false → ∃ t, p.ticker = some t ∧ d ≤ t.due

namespace PutOff

theorem of_ended (he : p.isEnded = true) : PutOff d p :=
  ⟨ne_ready_of_ended he, fun hn => absurd (hn.symm.trans he) Bool.false_ne_true⟩

/-- A tick that is taken moves the next one on, and nothing else sets the ticker. -/
theorem step (h : PutOff d p) (s : Stimulus) : PutOff d (p.step s).1 := by
  cases moved p s with
  | idle hq hp ht =>
    refine ⟨by rw [hp]; exact h.begun, fun hn => ?_⟩
    rw [ht]
    exact h.due (by rw [← hn, isEnded, isEnded, hp])
  | ended hq he => exact of_ended he
  | hello hq hp => exact absurd hp h.begun
  | recorded hq hp hn =>
    rw [hn]
    exact ⟨by simp, fun _ => h.due (by rw [isEnded, hp])⟩
  | tick now slot answer hs hp hc t ticker ht hd hk hn =>
    obtain ⟨t', ht', hle⟩ := h.due (by rw [isEnded, hp])
    cases ht.symm.trans ht'
    obtain ⟨point, hpoint⟩ := proceed_eq { p with ticker := some ticker } (.start slot)
    rw [hn]
    refine ⟨proceed_ne_ready _ _, fun _ => ⟨ticker, by rw [hpoint], ?_⟩⟩
    exact Nat.le_trans hle (Ticker.due_le_of_tick hk)
  | goOn now slot answer hs progress next hp hf hn =>
    obtain ⟨point, hpoint⟩ := proceed_eq p next
    rw [hn]
    refine ⟨proceed_ne_ready _ _, fun _ => ?_⟩
    rw [hpoint]
    exact h.due (by rw [isEnded, hp])

theorem through (h : PutOff d p) (ms : List Moment) : PutOff d (p.through ms) :=
  clocked.through_induction (fun _ m hp => hp.step m.stimulus) h ms

/-- So no sample begins before that time. -/
theorem le_of_begins (h : PutOff d p) (hfit : m.stimulus.fits m.time)
    (hm : (p.through ms).begins m.stimulus) : d ≤ m.time := by
  obtain ⟨hp, -, t, -, ht, hdue, -, -⟩ := tick_of_begins hfit hm
  obtain ⟨t', ht', hle⟩ := (h.through ms).due (by rw [isEnded, hp])
  cases ht.symm.trans ht'
  exact Nat.le_trans hle hdue

theorem of_startsUp (ha : Regular settings p) (hfit : s.fits time) (h : p.startsUp s) :
    PutOff (time + settings.interval.toMillis) (p.step s).1 := by
  obtain ⟨hready, hbegun⟩ := h
  cases moved p s with
  | idle hq hp ht => exact absurd (hp.trans hready) hbegun
  | ended hq he => exact of_ended he
  | hello hq hp now slot answer hs ticker ht hn =>
    subst hs
    cases hfit
    have hticker : ticker = ⟨settings.interval.toMillis, time + settings.interval.toMillis⟩ := by
      rw [Ticker.eq_of_start ht, ha.same]
    have hdue : ticker.due = time + settings.interval.toMillis := congrArg Ticker.due hticker
    exact ⟨hbegun, fun _ => ⟨ticker, by rw [hn], Nat.le_of_eq hdue.symm⟩⟩
  | recorded hq hp => cases hready.symm.trans hp
  | tick now slot answer hs hp => cases hready.symm.trans hp
  | goOn now slot answer hs progress next hp => cases hready.symm.trans hp

theorem of_begins (ha : Regular settings p) (hfit : s.fits time) (h : p.begins s) :
    PutOff (time + settings.interval.toMillis - Ticker.tolerance) (p.step s).1 := by
  obtain ⟨hp, -, t, ticker, ht, hd, hk, hn⟩ := tick_of_begins hfit h
  have hle := Ticker.le_due_of_tick hk
  rw [ha.period t ht] at hle
  have hbegun : PutOff 0 p := ⟨by simp [hp], fun _ => ⟨t, ht, Nat.zero_le _⟩⟩
  exact ⟨(hbegun.step s).begun, fun _ => ⟨ticker, hn, by omega⟩⟩

end PutOff

/-! ### From a tick to the end of its sample -/

/-- The ticker is due by a time. -/
def Due (d : Nat) (p : Poller) : Prop := ∃ t, p.ticker = some t ∧ t.due ≤ d

/-- A sample has begun and not ended, unless it never will. -/
def InSample (p : Poller) : Prop := p.isEnded = true ∨ ∃ progress, p.point = .sampling progress

theorem Due.of_begins (ha : Regular settings p) (hfit : s.fits time) (h : p.begins s) :
    Due (time + settings.interval.toMillis) (p.step s).1 := by
  obtain ⟨-, -, t, ticker, ht, hd, hk, hn⟩ := tick_of_begins hfit h
  have hle := Ticker.due_of_tick hd hk
  rw [ha.period t ht] at hle
  exact ⟨ticker, hn, hle⟩

namespace InSample

theorem point_ne (h : InSample p) :
    p.point ≠ .ready ∧ p.point ≠ .ticking ∧ p.point ≠ .recording := by
  refine ⟨?_, ?_, ?_⟩ <;>
  · intro hp
    simp [InSample, isEnded, hp] at h

theorem of_begins (h : p.begins s) (hn : ¬p.ends s) : InSample (p.step s).1 := by
  obtain ⟨slot, hslot⟩ := h
  cases moved p s with
  | tick now slot answer hs hp hc t ticker ht hd hk hnext =>
    rcases ends_proceed hnext with ⟨he, -⟩ | ⟨-, hp'⟩
    · exact absurd he hn
    · exact .inr ⟨_, hp'⟩
  | goOn now slot answer hs progress next hp hf hnext =>
    rcases ends_proceed hnext with ⟨he, -⟩ | ⟨-, hp'⟩
    · exact absurd he hn
    · exact .inr ⟨_, hp'⟩
  | _ hq =>
    rw [deedsOf_of_quiet hq] at hslot
    cases hslot

/-- A sample goes on until it ends, and sets no ticker meanwhile. -/
theorem step (h : InSample p) (s : Stimulus) :
    (p.step s).1.ticker = p.ticker ∧ (InSample (p.step s).1 ∨ p.ends s) := by
  cases moved p s with
  | idle hq hp ht =>
    refine ⟨ht, .inl ?_⟩
    unfold InSample isEnded
    rw [hp]
    exact h
  | ended hq he hwhy =>
    refine ⟨?_, .inl (.inl he)⟩
    rcases hwhy with hp | ⟨-, ht⟩
    · exact absurd hp h.point_ne.1
    · exact ht
  | hello hq hp => exact absurd hp h.point_ne.1
  | recorded hq hp => exact absurd hp h.point_ne.2.2
  | tick now slot answer hs hp => exact absurd hp h.point_ne.2.1
  | goOn now slot answer hs progress next hp hf hn =>
    obtain ⟨point, hpoint⟩ := proceed_eq p next
    refine ⟨by rw [hn, hpoint], ?_⟩
    rcases ends_proceed hn with ⟨he, -⟩ | ⟨-, hp'⟩
    · exact .inr he
    · exact .inl (.inr ⟨_, hp'⟩)

/-- Where no moment of a run ends the sample. -/
theorem through (h : InSample p)
    (hn : ∀ earlier m later, ms = earlier ++ m :: later → ¬(p.through earlier).ends m.stimulus) :
    InSample (p.through ms) ∧ (p.through ms).ticker = p.ticker := by
  refine clocked.through_of_steps (P := fun q => InSample q ∧ q.ticker = p.ticker) ⟨h, rfl⟩
    fun earlier m later he hq => ?_
  obtain ⟨ht, hgoes⟩ := hq.1.step m.stimulus
  exact ⟨hgoes.resolve_right (hn earlier m later he), ht.trans hq.2⟩

end InSample

/-! ### From the end of a sample to the next tick -/

/-- The poller has done with its sample, and its ticker is due by a time. -/
structure Idle (d : Nat) (p : Poller) : Prop where
  point : p.point = .recording ∨ p.point = .ticking
  uncancelled : p.cancelled = false
  due : Due d p

/-- A sample begins in a run, by `d` at the latest. -/
abbrev BeginsBy (d : Nat) (p : Poller) (ms : List Moment) : Prop :=
  clocked.HappensBy (fun p m => p.begins m.stimulus) d p ms

namespace Idle

theorem of_ends (h : p.ends s) (hc : (p.step s).1.cancelled = false)
    (hd : Due d (p.step s).1) : Idle d (p.step s).1 := by
  have of_proceed {q : Poller} {progress : Progress} (hn : p.step s = q.proceed progress) :
      Idle d (p.step s).1 := by
    rcases ends_proceed hn with ⟨-, hc' | hp⟩ | ⟨hno, -⟩
    · exact absurd (hc.symm.trans hc') Bool.false_ne_true
    · exact ⟨hp, hc, hd⟩
    · exact absurd h hno
  cases moved p s with
  | tick now slot answer hs hp hc' t ticker ht hdue hk hn => exact of_proceed hn
  | goOn now slot answer hs progress next hp hf hn => exact of_proceed hn
  | _ hq => exact absurd h (not_ends_of_quiet hq)

/-- Its alarm is set, if only to now. -/
theorem exists_alarm (h : Idle d p) : ∃ due ∈ p.alarm, due ≤ d := by
  obtain ⟨t, ht, hdue⟩ := h.due
  rcases h.point with hp | hp
  · exact ⟨0, by rw [alarm, hp]; rfl, Nat.zero_le d⟩
  · exact ⟨t.due, by rw [alarm, hp, ht]; rfl, hdue⟩

/-- It takes the next tick, or goes on like this. -/
theorem step (h : Idle d p) (ha : Regular settings p) (hfit : s.fits time)
    (hc : s ≠ .cancel) (hb : s.breaksOff = false)
    (hl : time + settings.interval.toMillis < instantLimit) :
    p.begins s ∨ Idle d (p.step s).1 := by
  have hc' := (cancelled_step p hc).trans h.uncancelled
  cases moved p s with
  | idle hq hp ht =>
    exact .inr ⟨by rw [hp]; exact h.point, hc', by unfold Due; rw [ht]; exact h.due⟩
  | ended hq he hwhy =>
    rcases hwhy with hp | ⟨hcancel | hbreak | ⟨now, slot, answer, t, hs, ht, hk⟩, -⟩
    · rcases h.point with hp' | hp' <;> cases hp.symm.trans hp'
    · exact absurd (h.uncancelled.symm.trans hcancel) Bool.false_ne_true
    · exact absurd (hb.symm.trans hbreak) Bool.false_ne_true
    · subst hs
      cases hfit
      have := Ticker.limit_of_tick hk
      rw [ha.period t ht] at this
      omega
  | hello hq hp => rcases h.point with hp' | hp' <;> cases hp.symm.trans hp'
  | recorded hq hp hn =>
    rw [hn] at hc' ⊢
    exact .inr ⟨.inr rfl, hc', h.due⟩
  | tick now slot answer hs hp hc'' t ticker ht hd hk hn =>
    subst hs
    exact .inl (begins_of_tick hp hn)
  | goOn now slot answer hs progress next hp =>
    rcases h.point with hp' | hp' <;> cases hp.symm.trans hp'

/-- On an ideal clock the next sample begins by the time the ticker is due, unless the poller is
cancelled by then or that time does not come. -/
theorem run (h : Idle d p) (ha : Regular settings p) (hrun : OnClock p now ms) (hnow : now ≤ time)
    (hd : d ≤ time) (hkept : ∀ m ∈ ms, m.stimulus.breaksOff = false)
    (hl : time + settings.interval.toMillis < instantLimit) :
    BeginsBy time p ms ∨ (∃ m ∈ ms, m.stimulus = .cancel ∧ m.time ≤ time) ∨
      ∀ m ∈ ms, m.time ≤ time := by
  refine hrun.meets (fun p => Idle d p ∧ Regular settings p) ⟨h, ha⟩ hnow (fun p hp => ?_)
    (fun p m hm hp hfit hle hs => ?_)
  · obtain ⟨due, halarm, hdue⟩ := hp.1.exists_alarm
    exact ⟨due, halarm, Nat.le_trans hdue hd⟩
  · have hl' : m.time + settings.interval.toMillis < instantLimit :=
      Nat.lt_of_le_of_lt (Nat.add_le_add_right hle _) hl
    rcases hp.1.step hp.2 hfit hs (hkept m hm) hl' with hbegins | hidle
    · exact .inl hbegins
    · exact .inr ⟨hidle, hp.2.step m.stimulus⟩

end Idle

/-! ### Time goes on -/

/-- A run on an ideal clock that breaks nothing off and goes past a time. -/
abbrev GoesPast (p : Poller) (now time : Nat) (ms : List Moment) : Prop :=
  clocked.GoesPast (fun m => m.stimulus.breaksOff = false) p now time ms

theorem goesPast_of_quiet (h : p.alarm = none) (now time : Nat) :
    ∃ more, GoesPast p now time more :=
  Clocked.exists_goesPast_of_quiet h (fun t => ⟨⟨t, .turn t none none⟩, rfl, rfl, rfl⟩) now time

/-- A poller gets its turn when the tick that it waits for is due, and then waits for an answer. -/
theorem goesPast_of_ticking (hp : p.point = .ticking) (now time : Nat) :
    ∃ more, GoesPast p now time more := by
  cases ht : p.ticker with
  | none => exact goesPast_of_quiet (by rw [alarm, hp, ht]; rfl) now time
  | some t =>
    have halarm : p.alarm = some t.due := by rw [alarm, hp, ht]; rfl
    have hnext : (p.step (.turn (max now t.due) (some 0) none)).1.alarm = none := by
      have hdue : t.ready (max now t.due) = true :=
        decide_eq_true (Nat.le_max_right _ _)
      by_cases hc : p.cancelled = true
      · simp [step, turn, hp, hc, stop, alarm]
      · cases hk : t.tick? (max now t.due) <;>
          simp [step, turn, hp, hc, ht, hdue, sample, hk, fail, alarm, proceed, Progress.start]
    obtain ⟨more, hmore⟩ := goesPast_of_quiet hnext (max now t.due) time
    refine ⟨⟨max now t.due, .turn (max now t.due) (some 0) none⟩ :: more,
      .cons (Nat.le_max_left _ _) rfl (fun due hdue => ?_) rfl hmore⟩
    cases halarm.symm.trans hdue
    exact Nat.le_refl _

theorem goes_past (p : Poller) (now time : Nat) : ∃ more, GoesPast p now time more := by
  cases hp : p.point with
  | ticking => exact goesPast_of_ticking hp now time
  | recording =>
    have hnext : (p.step (.turn now none (some .recorded))).1 = p.awaitTick.1 := by
      rw [step, turn, hp]
    obtain ⟨more, hmore⟩ : ∃ more, GoesPast p.awaitTick.1 now time more := by
      rcases awaitTick_cases p with ⟨-, he⟩ | hn
      · refine goesPast_of_quiet ?_ now time
        unfold isEnded at he
        unfold alarm
        split at he <;> simp_all
      · rw [hn]
        exact goesPast_of_ticking rfl now time
    rw [← hnext] at hmore
    exact ⟨⟨now, .turn now none (some .recorded)⟩ :: more,
      .cons (Nat.le_refl _) rfl (fun due _ => Nat.le_max_left _ _) rfl hmore⟩
  | _ => exact goesPast_of_quiet (by rw [alarm, hp]) now time

/-! ### Pace -/

theorem exists_startsUp (h : p.point = .ready) (hn : (p.through ms).point ≠ .ready) :
    ∃ before m between, ms = before ++ m :: between ∧ (p.through before).startsUp m.stimulus := by
  obtain ⟨before, m, between, he, hb, hm⟩ :=
    clocked.exists_step (P := fun p => p.point ≠ .ready) (fun hp => hp h) hn
  exact ⟨before, m, between, he, not_not.mp hb, hm⟩

/-- The first sample is put off by the first turn. -/
theorem begins_after_start (ha : Regular settings p) (hp : p.point = .ready)
    (hrun : InOrder now (ms ++ m :: ns)) (hm : (p.through ms).begins m.stimulus) :
    ∃ before h between, ms = before ++ h :: between ∧ (p.through before).startsUp h.stimulus ∧
      h.time + settings.interval.toMillis ≤ m.time := by
  obtain ⟨-, -, hfit, -⟩ := hrun.split
  obtain ⟨hticking, -⟩ := tick_of_begins hfit hm
  have hbegun : (p.through ms).point ≠ .ready := by simp [hticking]
  obtain ⟨before, h, between, rfl, hstart⟩ := exists_startsUp hp hbegun
  obtain ⟨-, -, hfit', -⟩ := hrun.left.split
  have hput := PutOff.of_startsUp (ha.through before) hfit' hstart
  rw [through_append] at hm
  exact ⟨before, h, between, rfl, hstart, hput.le_of_begins hfit hm⟩

/-- Of two samples that begin the first has ended before the second, which it puts off. -/
theorem begins_apart {b : Moment} (ha : Regular settings p) (hb : p.begins b.stimulus)
    (hfit : b.stimulus.fits b.time) (hfit' : m.stimulus.fits m.time)
    (hm : (p.through (b :: ms)).begins m.stimulus) :
    b.time + settings.interval.toMillis ≤ m.time + Ticker.tolerance ∧
      ∃ passed e left, b :: ms = passed ++ e :: left ∧ (p.through passed).ends e.stimulus := by
  obtain ⟨hticking, -⟩ := tick_of_begins hfit' hm
  have hle := (PutOff.of_begins ha hfit hb).le_of_begins hfit' hm
  refine ⟨by omega, ?_⟩
  by_contra hno
  have hfirst : ¬p.ends b.stimulus := fun he => hno ⟨[], b, ms, rfl, he⟩
  have hlater (earlier : List Moment) (e : Moment) (later : List Moment)
      (hms : ms = earlier ++ e :: later) :
      ¬((p.step b.stimulus).1.through earlier).ends e.stimulus := fun he =>
    hno ⟨b :: earlier, e, later, by rw [hms]; rfl, he⟩
  exact ((InSample.of_begins hb hfirst).through hlater).1.point_ne.2.1 hticking

/-- From the start of a sample on, up to the moment at which it ends, the next tick is due within a
period from the start. -/
theorem due_at_end {b e : Moment} {during rest since : List Moment} (ha : Regular settings p)
    (hfit : b.stimulus.fits b.time) (hb : p.begins b.stimulus)
    (hsplit : b :: since = during ++ e :: rest)
    (hfirst : ∀ earlier m later, during = earlier ++ m :: later →
      ¬(p.through earlier).ends m.stimulus) :
    Due (b.time + settings.interval.toMillis) ((p.through during).step e.stimulus).1 := by
  have hdue := Due.of_begins ha hfit hb
  cases during with
  | nil =>
    cases hsplit
    exact hdue
  | cons b' during =>
    cases hsplit
    have hlater (earlier : List Moment) (m : Moment) (later : List Moment)
        (hms : during = earlier ++ m :: later) :
        ¬((p.step b.stimulus).1.through earlier).ends m.stimulus :=
      hfirst (b :: earlier) m later (by rw [hms]; rfl)
    obtain ⟨hin, ht⟩ := (InSample.of_begins hb (hfirst [] b during rfl)).through hlater
    obtain ⟨t, ht₀, hle⟩ := hdue
    exact ⟨t, (hin.step e.stimulus).1.trans (ht.trans ht₀), hle⟩

/-- On an ideal clock the sample after one that has begun at `b` and ended at `e` begins in time. -/
theorem begins_in_time {b e : Moment} {during rest since : List Moment}
    (ha : Regular settings p) (hrun : OnClock p now (b :: since))
    (hkept : ∀ m ∈ rest, m.stimulus.breaksOff = false) (hb : p.begins b.stimulus)
    (hsplit : b :: since = during ++ e :: rest) (hends : (p.through during).ends e.stimulus)
    (hfirst : ∀ earlier m later, during = earlier ++ m :: later →
      ¬(p.through earlier).ends m.stimulus)
    (hl : max e.time (b.time + settings.interval.toMillis) + settings.interval.toMillis <
      instantLimit)
    (hpast : ∃ m ∈ rest, max e.time (b.time + settings.interval.toMillis) < m.time) :
    BeginsBy (max e.time (b.time + settings.interval.toMillis)) (p.through (during ++ [e])) rest ∨
      ∃ c ∈ b :: since, c.stimulus = .cancel ∧
        c.time ≤ max e.time (b.time + settings.interval.toMillis) := by
  have hfit := hrun.2.1
  have hdue := due_at_end ha hfit hb hsplit hfirst
  obtain ⟨-, hp, -⟩ := tick_of_begins hfit hb
  have hnext : p.through (during ++ [e]) = ((p.through during).step e.stimulus).1 :=
    through_append p during [e]
  rw [hsplit] at hrun ⊢
  obtain ⟨hearlier, -, -, -⟩ := hrun.inOrder.split
  cases hc : (p.through (during ++ [e])).cancelled with
  | true =>
    obtain ⟨c, hmem, hs⟩ := cancel_mem hc hp
    refine .inr ⟨c, ?_, hs, ?_⟩
    · rw [List.append_cons]
      exact List.mem_append_left _ hmem
    · rcases List.mem_append.mp hmem with hmem | hmem
      · exact Nat.le_trans (hearlier c hmem) (Nat.le_max_left _ _)
      · cases List.mem_singleton.mp hmem
        exact Nat.le_max_left _ _
  | false =>
    have hafter : OnClock (p.through (during ++ [e])) e.time rest := by
      rw [hnext]
      exact hrun.right.2.2.2
    have hidle : Idle (b.time + settings.interval.toMillis) (p.through (during ++ [e])) := by
      rw [hnext] at hc ⊢
      exact Idle.of_ends hends hc hdue
    rcases hidle.run (ha.through _) hafter (Nat.le_max_left _ _) (Nat.le_max_right _ _) hkept hl
      with hbegins | ⟨c, hmem, hs, hle⟩ | hle
    · exact .inl hbegins
    · exact .inr ⟨c, List.mem_append_right _ (List.mem_cons_of_mem _ hmem), hs, hle⟩
    · obtain ⟨m, hm, hlate⟩ := hpast
      exact absurd hlate (Nat.not_lt.mpr (hle m hm))

/-- Samples come neither in bursts nor late.  However long the requests take and however late the
poller gets its turns, a sample begins no earlier than a period after the start, and no earlier than
a period less the tolerance after any sample before it, each of which has ended by then.  On an
ideal clock, when a sample has ended the next one begins by the end of the period that began with
the sample, or at once if that is over, once time gets there, unless the poller is cancelled before
or the ticker can not be set, as instants end before.  And time does get there: however a run has
gone, it can go on past any moment. -/
theorem samples_keep_pace (settings : Settings) (run : List Moment) :
    let period := settings.interval.toMillis
    (InOrder 0 run → ∀ earlier m since, run = earlier ++ m :: since →
      ((start settings).through earlier).begins m.stimulus →
        (∃ before h between, earlier = before ++ h :: between ∧
          ((start settings).through before).startsUp h.stimulus ∧ h.time + period ≤ m.time) ∧
        ∀ before b between, earlier = before ++ b :: between →
          ((start settings).through before).begins b.stimulus →
            b.time + period ≤ m.time + Ticker.tolerance ∧
              ∃ passed e left, b :: between = passed ++ e :: left ∧
                ((start settings).through (before ++ passed)).ends e.stimulus) ∧
    (OnClock (start settings) 0 run → (∀ m ∈ run, m.stimulus.breaksOff = false) →
      (∀ before b since during e rest, run = before ++ b :: since →
        ((start settings).through before).begins b.stimulus →
        b :: since = during ++ e :: rest →
        ((start settings).through (before ++ during)).ends e.stimulus →
        (∀ earlier m later, during = earlier ++ m :: later →
          ¬((start settings).through (before ++ earlier)).ends m.stimulus) →
        let latest := max e.time (b.time + period)
        latest + period < instantLimit → (∃ m ∈ rest, latest < m.time) →
          BeginsBy latest ((start settings).through (before ++ during ++ [e])) rest ∨
            ∃ c ∈ run, c.stimulus = .cancel ∧ c.time ≤ latest) ∧
      ∀ time, ∃ more, OnClock (start settings) 0 (run ++ more) ∧
        (∀ m ∈ run ++ more, m.stimulus.breaksOff = false) ∧ ∃ m ∈ more, time < m.time) := by
  intro period
  have hstart : Regular settings (start settings) := regular settings []
  refine ⟨fun hrun earlier m since he hm => ⟨?_, fun before b between hsplit hb => ?_⟩,
    fun hrun hkept => ⟨?_, fun time => ?_⟩⟩
  · subst he
    exact begins_after_start hstart rfl hrun hm
  · subst he
    obtain ⟨-, -, hfit', -⟩ := hrun.split
    rw [hsplit] at hrun hm
    obtain ⟨-, -, hfit, -⟩ := hrun.left.split
    rw [through_append] at hm
    obtain ⟨hapart, passed, e, left, hpassed, hends⟩ :=
      begins_apart (hstart.through before) hb hfit hfit' hm
    exact ⟨hapart, passed, e, left, hpassed, by rw [through_append]; exact hends⟩
  · intro before b since during e rest hsplit hb hat hends hfirst latest hlimit hpast
    have hrest : ∀ m ∈ rest, m.stimulus.breaksOff = false := by
      intro m hm
      refine hkept m ?_
      rw [hsplit, hat]
      exact List.mem_append_right _ (List.mem_append_right _ (List.mem_cons_of_mem _ hm))
    rw [hsplit] at hrun
    rw [through_append] at hends
    have hbegins := begins_in_time (hstart.through before) hrun.right hrest hb hat hends
      (fun earlier m later hd => by rw [← through_append]; exact hfirst earlier m later hd)
      hlimit hpast
    rw [← through_append, ← List.append_assoc] at hbegins
    rcases hbegins with hbegins | ⟨c, hc, hs, hle⟩
    · exact .inl hbegins
    · exact .inr ⟨c, by rw [hsplit]; exact List.mem_append_right _ hc, hs, hle⟩
  · obtain ⟨more, hmore⟩ :=
      goes_past ((start settings).through run) (clocked.clockAfter 0 run) time
    exact ⟨more, hmore.after hrun hkept⟩

/-- A sample that takes longer than the period, and one that fails in no time right after it. -/
def slow : List Moment := [
  ⟨0, .turn 0 (some 0) none⟩,
  ⟨30000, .turn 30000 (some 0) none⟩,
  ⟨75000, .turn 75000 (some 0) (some (.dag (.error .disconnected)))⟩,
  ⟨75000, .turn 75000 none none⟩,
  ⟨105000, .turn 105000 none none⟩,
  ⟨105001, .turn 105001 none none⟩]

theorem pace_after_slow_sample :
    let p := start ⟨.ofSeconds 30, 1000⟩
    OnClock p 0 slow ∧
      30000 + 30000 ≤ 75000 + Ticker.tolerance ∧
      (∃ passed e left, (slow.drop 1).take 2 = passed ++ e :: left ∧
        (p.through (slow.take 1 ++ passed)).ends e.stimulus) ∧
      BeginsBy 75000 (p.through (slow.take 3)) (slow.drop 3) ∧
      BeginsBy 105000 (p.through (slow.take 4)) (slow.drop 4) := by
  have hclock : OnClock (start ⟨.ofSeconds 30, 1000⟩) 0 slow := by
    refine ⟨by decide, rfl, nofun, by decide, rfl, ?_, by decide, rfl, nofun, by decide, rfl, ?_,
      by decide, rfl, ?_, by decide, rfl, ?_, trivial⟩
    all_goals
      rintro _ ⟨⟩
      decide
  have hkept : ∀ m ∈ slow, m.stimulus.breaksOff = false := by
    simp [slow, Stimulus.breaksOff]
  have huncancelled {time : Nat} : ¬∃ c ∈ slow, c.stimulus = .cancel ∧ c.time ≤ time := by
    simp [slow]
  obtain ⟨hearly, hlate⟩ := samples_keep_pace ⟨.ofSeconds 30, 1000⟩ slow
  have hends : ((start ⟨.ofSeconds 30, 1000⟩).through (slow.take 2)).ends
      (.turn 75000 (some 0) (some (.dag (.error .disconnected)))) :=
    ⟨.error (.dagInfo .disconnected), _, List.mem_cons_self, List.mem_cons_self⟩
  have hnotyet : ¬((start ⟨.ofSeconds 30, 1000⟩).through (slow.take 1)).ends
      (.turn 30000 (some 0) none) := by
    rintro ⟨r, o, ho, hmem⟩
    cases List.mem_singleton.mp hmem
    cases r <;> simp [verdict] at ho
  have hfails : ((start ⟨.ofSeconds 30, 1000⟩).through (slow.take 3)).ends
      (.turn 75000 none none) :=
    ⟨.error .notConnected, _, List.mem_cons_self, List.mem_cons_self⟩
  obtain ⟨hlate, -⟩ := hlate hclock hkept
  refine ⟨hclock, ?_⟩
  obtain ⟨-, hbefore⟩ := hearly hclock.inOrder (slow.take 3) _ (slow.drop 4) rfl
    ⟨none, List.mem_cons_self⟩
  obtain ⟨hapart, hended⟩ := hbefore (slow.take 1) _ ((slow.drop 2).take 1) rfl
    ⟨some 0, List.mem_cons_self⟩
  refine ⟨hapart, hended, ?_, ?_⟩
  · have h := hlate (slow.take 1) _ (slow.drop 2) ((slow.drop 1).take 1) _ (slow.drop 3) rfl
      ⟨some 0, List.mem_cons_self⟩ rfl hends ?_ (by decide)
      ⟨_, List.mem_cons_of_mem _ (List.mem_cons_self), by decide⟩
    · have hlatest : max 75000 (30000 + (Span.ofSeconds 30).toMillis) = 75000 := by decide
      rw [hlatest] at h
      exact h.resolve_right huncancelled
    · intro earlier m later hsplit
      cases earlier with
      | nil =>
        cases hsplit
        exact hnotyet
      | cons e earlier => simp [slow] at hsplit
  · have h := hlate (slow.take 3) _ (slow.drop 4) [] _ (slow.drop 4) rfl
      ⟨none, List.mem_cons_self⟩ rfl hfails (by simp) (by decide)
      ⟨_, List.mem_cons_of_mem _ (List.mem_cons_self), by decide⟩
    have hlatest : max 75000 (75000 + (Span.ofSeconds 30).toMillis) = 105000 := by decide
    rw [hlatest] at h
    exact h.resolve_right huncancelled

end WorkBridge.Stats.Poller
