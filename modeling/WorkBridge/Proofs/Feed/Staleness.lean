import WorkBridge.Proofs.Clock.Run
import WorkBridge.Proofs.Feed.FreshSync
import WorkBridge.Proofs.Feed.PendingPush

/-!
How old work can get.

An ideal clock wakes a feed that waits for its ticker when the ticker is due; all else takes as
long as it likes.  On such a clock a call of the handler is followed by the next one within a
period, or as soon as the node is found synced if that is later: `next_work_within_period`.

The ticker carries it.  From a call on, it is due within one period (`Armed`); nothing sets it
before the feed waits again; and a feed that waits does not outwait it.
-/

namespace WorkBridge.Feed

open Node (ClientId)

/-! ### Runs on a clock -/

abbrev Moment := Clocked.Moment Stimulus

/-- A turn sees what time it is. -/
def Stimulus.fits (time : Nat) : Stimulus → Prop
  | .turn now _ _ => now = time
  | _ => True

/-- When the ticker wakes a feed that waits for it. -/
def alarm (f : Feed) : Option Nat :=
  match f.point with
  | .awaiting => f.ticker.map (·.due)
  | _ => none

/-- A feed in time. -/
def clocked : Clocked Feed Moment := .ofStep step (fun time s => s.fits time) alarm

abbrev OnClock (f : Feed) (now : Nat) (ms : List Moment) : Prop := clocked.OnClock f now ms

abbrev through (f : Feed) (ms : List Moment) : Feed := clocked.through f ms

def stimuli (ms : List Moment) : List Stimulus := ms.map (·.stimulus)

variable {settings : Settings} {f : Feed} {s : Stimulus} {now time d : Nat} {m : Moment}
  {ms ns : List Moment}

theorem through_append (f : Feed) (ms ns : List Moment) :
    f.through (ms ++ ns) = (f.through ms).through ns := clocked.through_append f ms ns

theorem Attentive.through (h : Attentive settings f) (ms : List Moment) :
    Attentive settings (f.through ms) :=
  clocked.through_induction (fun _ m hf => hf.step m.stimulus) h ms

theorem attentive_through (settings : Settings) (ms : List Moment) :
    Attentive settings ((start settings).through ms) :=
  Attentive.through (attentive settings []) ms

theorem cancel_mem (h : (f.through ms).cancelled = true) (hf : f.cancelled = false) :
    ∃ m ∈ ms, m.stimulus = .cancel := by
  refine clocked.exists_mem (P := fun f => f.cancelled = true) (fun f m hm hc => ?_)
    (Bool.eq_false_iff.mp hf) h
  exact (cancelled_step f hm).symm.trans hc

/-! ### Until the feed waits -/

/-- The handler is called, or the first attempt to register ends. -/
def startsPeriod (f : Feed) (s : Stimulus) : Prop :=
  (∃ t, .work t ∈ (f.step s).2) ∨
    f.point.isFirst = true ∧ (f.step s).1.point.isFirst = false

/-- A feed that is not waiting for an event, with a ticker that is due by `d`. -/
structure Armed (d : Nat) (f : Feed) : Prop where
  away : f.point ≠ .awaiting
  begun : f.point.isFirst = false
  due : f.point.ticks = true → ∃ t, f.ticker = some t ∧ t.due ≤ d

theorem of_isSyncedAnswer {p : Point} (h : (Event.happened p s).isSyncedAnswer = true) :
    ∃ now slot i, s = .turn now slot (some (.info (.ok i))) ∧ p = .checking ∧
      i.isSynced = true := by
  unfold Event.isSyncedAnswer at h
  split at h
  · rename_i he
    cases he
    exact ⟨_, _, _, rfl, rfl, h⟩
  · cases h

theorem ticks_of_looks (h : f.looks s = true) : f.point.ticks = true := by
  rcases looks_cases h with hp | ⟨hp, -⟩ <;> rw [hp] <;> rfl

theorem not_first_of_ticks (h : f.point.ticks = true) : f.point.isFirst = false := by
  unfold Point.ticks at h
  unfold Point.isFirst
  split at h <;> simp_all

namespace Armed

theorem announced {ticker : Ticker} (signal : Signal) (hd : ticker.due ≤ d) (t : Trigger) :
    Armed d ({ f with signal, ticker := some ticker }.announce t).1 where
  away := nofun
  begun := rfl
  due := fun _ => ⟨ticker, rfl, hd⟩

/-- A call of the handler goes with a ticker that is due within a period: a push sets it anew,
and a tick is taken no earlier than it was due. -/
theorem of_look {r : Feed × List Output} (ha : Attentive settings f) (hp : f.point = .awaiting)
    (hl : Look f now r) {t : Trigger} (ht : .work t ∈ r.2) :
    Armed (now + settings.maxWorkStaleness.toMillis) r.1 := by
  obtain ⟨t₀, h₀, hperiod⟩ := ha.ticker (by rw [hp]; rfl)
  have hh := (hl.work ht).1
  cases hl with
  | cancelled hc hr => subst hr; cases hh
  | push hc hw ticker hk hr =>
    rw [h₀] at hk
    have hdue := Ticker.eq_of_reset hk
    subst hr
    refine announced _ (Nat.le_of_eq ?_) .push
    rw [hdue, ← hperiod]
  | pushFailing hc hw hk hr => subst hr; cases hh
  | tick hc hw hd ticker hk hr =>
    rw [h₀] at hk hd
    have hready : t₀.due ≤ now := by simpa [Ticker.ready] using hd
    have hdue := Ticker.due_of_tick hready hk
    subst hr
    refine announced _ ?_ .timer
    rw [← hperiod]
    exact hdue
  | tickFailing hc hw hd hk hr => subst hr; cases hh
  | wait hc hw hd hr => subst hr; cases ht

theorem failed (hp : f.point = .failed) : Armed d f where
  away := by rw [hp]; nofun
  begun := by rw [hp]; rfl
  due := by rw [hp]; nofun

theorem of_startsPeriod (ha : Attentive settings f) (hfit : s.fits time)
    (h : f.startsPeriod s) :
    Armed (time + settings.maxWorkStaleness.toMillis) (f.step s).1 := by
  unfold startsPeriod at h
  have same {g : Feed} (hw : ∀ t, .work t ∉ (f.step s).2) (hg : (f.step s).1 = g)
      (hp : g.point = f.point) : False := by
    rcases h with ⟨t, ht⟩ | ⟨hf, hn⟩
    · exact hw t ht
    · rw [hg, hp, hf] at hn
      cases hn
  cases s with
  | cancel => exact (same (by simp [Feed.step]) rfl rfl).elim
  | notify => exact (same (by simp [Feed.step]) rfl rfl).elim
  | lapse id =>
    obtain ⟨held, hf⟩ := lapse_eq f id
    exact (same (by simp [Feed.step]) hf rfl).elim
  | abort =>
    unfold Feed.step abort at same ⊢
    dsimp only at same ⊢
    split at same
    · exact (same (by simp) rfl rfl).elim
    · rename_i he
      rw [if_neg he]
      exact failed rfl
  | turn now slot answer =>
    have hnow : now = time := hfit
    subst hnow
    rw [Feed.step] at h same ⊢
    cases turn_cases f now slot answer with
    | stay hp hi hr => exact (same (by simp [hr]) (by rw [hr]) rfl).elim
    | first hp hf =>
      cases hf with
      | registering hr hw =>
        rcases h with ⟨t, ht⟩ | ⟨-, hn⟩
        · exact absurd ht (hw t)
        · rw [hr] at hn
          cases hn
      | ticking ticker ht hr =>
        refine ⟨hr.not_awaiting, hr.not_first, fun _ => ⟨ticker, hr.ticker, Nat.le_of_eq ?_⟩⟩
        rw [Ticker.eq_of_start ht, ha.same]
      | failing hr hq => exact failed hq
    | aside hf hp hr =>
      rcases h with ⟨t, ht⟩ | ⟨hn, -⟩
      · exact absurd ht (hr.no_work t)
      · rw [not_first_of_ticks hf] at hn
        cases hn
    | look hl hr =>
      rcases h with ⟨t, ht⟩ | ⟨hn, -⟩
      · exact of_look (ha.waiting hl) (waiting_point f) hr ht
      · rw [not_first_of_ticks (ticks_of_looks hl)] at hn
        cases hn

/-- Nothing sets the ticker before a sync check succeeds. -/
theorem step (h : Armed d f) (hn : (Event.happened f.point s).isSyncedAnswer = false) :
    Armed d (f.step s).1 := by
  cases s with
  | cancel => exact ⟨h.away, h.begun, h.due⟩
  | notify => exact ⟨h.away, h.begun, h.due⟩
  | lapse id =>
    obtain ⟨held, hf⟩ := lapse_eq f id
    rw [Feed.step, hf]
    exact ⟨h.away, h.begun, h.due⟩
  | abort =>
    unfold Feed.step abort
    dsimp only
    split
    · exact h
    · exact failed rfl
  | turn now slot answer =>
    rw [Feed.step]
    cases turn_cases f now slot answer with
    | stay hp hi hr => rw [hr]; exact h
    | first hp hf => rw [h.begun] at hp; cases hp
    | aside hf hp hr =>
      refine ⟨hr.not_awaiting, hr.not_first, fun _ => ?_⟩
      rw [hr.ticker]
      exact h.due hf
    | look hl hr =>
      rcases looks_cases hl with hp | ⟨-, hs⟩
      · exact absurd hp h.away
      · rw [hn] at hs
        cases hs

theorem through (h : Armed d f)
    (hn : ∀ e ∈ f.history (stimuli ms), e.isSyncedAnswer = false) : Armed d (f.through ms) := by
  induction ms generalizing f with
  | nil => exact h
  | cons m ms ih =>
    have hstep := h.step (hn _ List.mem_cons_self)
    refine ih hstep fun e he => hn e ?_
    exact List.mem_cons_of_mem _ (List.mem_append_right _ he)

end Armed

/-! ### While the feed waits -/

structure Waits (d : Nat) (f : Feed) : Prop where
  point : f.point = .awaiting
  uncancelled : f.cancelled = false
  due : ∃ t, f.ticker = some t ∧ t.due ≤ d

/-- The handler is called in a run, by `d` at the latest. -/
abbrev WorksBy (d : Nat) (f : Feed) (ms : List Moment) : Prop :=
  clocked.HappensBy (fun f m => ∃ t, .work t ∈ (f.step m.stimulus).2) d f ms

namespace Waits

/-- A feed that looks and goes on waiting is not at the end of its wait. -/
theorem look {r : Feed × List Output} (h : Waits d f) (ha : Attentive settings f)
    (hl : Look f now r) (hnow : now + settings.maxWorkStaleness.toMillis < instantLimit) :
    (∃ t, .work t ∈ r.2) ∨ r = (f, []) ∧ now < d := by
  obtain ⟨t₀, h₀, hd₀⟩ := h.due
  have hperiod : t₀.period = settings.maxWorkStaleness.toMillis := by
    obtain ⟨t₁, h₁, hp₁⟩ := ha.ticker (by rw [h.point]; rfl)
    rw [h₀] at h₁
    cases h₁
    exact hp₁
  cases hl with
  | cancelled hc hr => exact absurd (h.uncancelled.symm.trans hc) Bool.false_ne_true
  | push hc hw ticker hk hr => exact .inl ⟨.push, by simp [hr, announce]⟩
  | pushFailing hc hw hk hr =>
    rw [h₀] at hk
    have := Ticker.limit_of_reset hk
    omega
  | tick hc hw hd ticker hk hr => exact .inl ⟨.timer, by simp [hr, announce]⟩
  | tickFailing hc hw hd hk hr =>
    rw [h₀] at hk
    have := Ticker.limit_of_tick hk
    omega
  | wait hc hw hd hr =>
    rw [h₀] at hd
    have hlate : now < t₀.due := by simpa [Ticker.ready] using hd
    exact .inr ⟨hr, by omega⟩

/-- It calls the handler, or goes on waiting. -/
theorem step (h : Waits d f) (ha : Attentive settings f) (hfit : s.fits time) (hc : s ≠ .cancel)
    (hk : s ≠ .abort) (hl : time + settings.maxWorkStaleness.toMillis < instantLimit) :
    (∃ t, .work t ∈ (f.step s).2) ∨ Waits d (f.step s).1 := by
  cases s with
  | cancel => exact absurd rfl hc
  | abort => exact absurd rfl hk
  | notify => exact .inr ⟨h.point, h.uncancelled, h.due⟩
  | lapse id =>
    obtain ⟨held, hf⟩ := lapse_eq f id
    rw [Feed.step, hf]
    exact .inr ⟨h.point, h.uncancelled, h.due⟩
  | turn now slot answer =>
    have hnow : now = time := hfit
    subst hnow
    have hturn : f.turn now slot answer = f.lookForEvent now := by
      unfold turn
      rw [h.point]
    rw [Feed.step, hturn]
    rcases h.look ha (lookForEvent_cases f now) hl with hwork | ⟨hr, -⟩
    · exact .inl hwork
    · rw [hr]
      exact .inr h

/-- A feed that waits on an ideal clock calls the handler by the time its ticker is due, unless it
is cancelled by then or that time does not come. -/
theorem run (h : Waits d f) (ha : Attentive settings f) (hrun : OnClock f now ms)
    (hnow : now ≤ time) (hd : d ≤ time) (hkept : ∀ m ∈ ms, m.stimulus ≠ .abort)
    (hlimit : time + settings.maxWorkStaleness.toMillis < instantLimit) :
    WorksBy time f ms ∨ (∃ m ∈ ms, m.stimulus = .cancel ∧ m.time ≤ time) ∨
      ∀ m ∈ ms, m.time ≤ time := by
  refine hrun.meets (fun f => Waits d f ∧ Attentive settings f) ⟨h, ha⟩ hnow (fun f hf => ?_)
    (fun f m hm hf hfit hle hs => ?_)
  · obtain ⟨t, ht, hdue⟩ := hf.1.due
    refine ⟨t.due, ?_, Nat.le_trans hdue hd⟩
    show f.alarm = some t.due
    rw [alarm, hf.1.point, ht]
    rfl
  · have hl : m.time + settings.maxWorkStaleness.toMillis < instantLimit :=
      Nat.lt_of_le_of_lt (Nat.add_le_add_right hle _) hlimit
    rcases hf.1.step hf.2 hfit hs (hkept m hm) hl with hwork | hwaits
    · exact .inl hwork
    · exact .inr ⟨hwaits, hf.2.step m.stimulus⟩

/-- A feed with its ticker armed that finds the node synced calls the handler, or waits for an
event from then on. -/
theorem of_armed (h : Armed d f) (ha : Attentive settings f) (hc : f.cancelled = false)
    (hcheck : (Event.happened f.point s).isSyncedAnswer = true) (hfit : s.fits time)
    (hl : time + settings.maxWorkStaleness.toMillis < instantLimit) :
    (∃ t, .work t ∈ (f.step s).2) ∨ Waits d (f.step s).1 := by
  obtain ⟨now, slot, i, hs, hp, hi⟩ := of_isSyncedAnswer hcheck
  subst hs
  have hnow : now = time := hfit
  subst hnow
  have hlooks : f.looks (.turn now slot (some (.info (.ok i)))) = true := by
    simp [looks, hp, hc, Answer.isSynced, hi]
  have hstep := turn_of_looks hlooks
  have hw : Waits d f.waiting := by
    refine ⟨waiting_point f, (waiting_cancelled f).trans hc, ?_⟩
    rw [waiting_ticker]
    exact h.due (ticks_of_looks hlooks)
  rw [Feed.step, hstep]
  rcases hw.look (ha.waiting hlooks) (lookForEvent_cases f.waiting now) hl with hwork | ⟨hr, -⟩
  · exact .inl hwork
  · rw [hr]
    exact .inr hw

end Waits

/-! ### Time goes on -/

abbrev GoesPast (f : Feed) (now time : Nat) (ms : List Moment) : Prop :=
  clocked.GoesPast (fun m => m.stimulus ≠ .abort) f now time ms

theorem goesPast_of_quiet (h : f.alarm = none) (now time : Nat) :
    ∃ more, GoesPast f now time more :=
  Clocked.exists_goesPast_of_quiet h (fun t => ⟨⟨t, .notify⟩, rfl, trivial, nofun⟩) now time

/-- A feed that looks when its ticker is due waits no more. -/
theorem alarm_lookForEvent {t : Ticker} (ht : f.ticker = some t) (hdue : t.due ≤ now) :
    (f.lookForEvent now).1.alarm = none := by
  cases lookForEvent_cases f now with
  | cancelled hc hr => rw [hr]; rfl
  | push hc hw ticker hk hr => rw [hr]; rfl
  | pushFailing hc hw hk hr => rw [hr]; rfl
  | tick hc hw hd ticker hk hr => rw [hr]; rfl
  | tickFailing hc hw hd hk hr => rw [hr]; rfl
  | wait hc hw hd hr =>
    rw [ht] at hd
    have hlate : now < t.due := by simpa [Ticker.ready] using hd
    exact absurd hdue (Nat.not_le.mpr hlate)

/-- On an ideal clock time can always go on: a feed that waits gets its turn when its ticker is
due. -/
theorem goes_past (ha : Attentive settings f) (now time : Nat) :
    ∃ more, GoesPast f now time more := by
  by_cases hp : f.point = .awaiting
  · obtain ⟨t, ht, -⟩ := ha.ticker (by rw [hp]; rfl)
    have halarm : f.alarm = some t.due := by rw [alarm, hp, ht]; rfl
    have hturn : f.turn (max now t.due) none none = f.lookForEvent (max now t.due) := by
      unfold turn
      rw [hp]
    have hquiet : (f.step (.turn (max now t.due) none none)).1.alarm = none := by
      rw [step, hturn]
      exact alarm_lookForEvent ht (Nat.le_max_right _ _)
    obtain ⟨more, hmore⟩ := goesPast_of_quiet hquiet (max now t.due) time
    refine ⟨⟨max now t.due, .turn (max now t.due) none none⟩ :: more,
      .cons (Nat.le_max_left _ _) rfl (fun due hdue => ?_) (fun h => by cases h) hmore⟩
    cases halarm.symm.trans hdue
    exact Nat.le_refl _
  · refine goesPast_of_quiet ?_ now time
    unfold alarm
    split
    · rename_i h
      exact absurd h hp
    · rfl

/-- On an ideal clock work gets no older than a period, or than it takes until the node is found
synced again.  Say that the handler is called, or the first attempt to register ends, and that the
next sync check to succeed does so at `check`.  The handler is called by the end of that period or
by then, whichever is later, once time gets there, unless the feed is cancelled before or the
ticker can not be set, as instants end before.  And time does get there: however a run has gone, it
can go on past any moment. -/
theorem next_work_within_period (settings : Settings) (run : List Moment)
    (hrun : OnClock (start settings) 0 run) (hkept : ∀ m ∈ run, m.stimulus ≠ .abort) :
    (∀ before m between check since,
      run = before ++ m :: between ++ check :: since →
      ((start settings).through before).startsPeriod m.stimulus →
      (∀ e ∈ ((start settings).through (before ++ [m])).history (stimuli between),
        e.isSyncedAnswer = false) →
      (Event.happened ((start settings).through (before ++ m :: between)).point
        check.stimulus).isSyncedAnswer = true →
      let latest := max check.time (m.time + settings.maxWorkStaleness.toMillis)
      latest + settings.maxWorkStaleness.toMillis < instantLimit →
      (∃ e ∈ since, latest < e.time) →
        WorksBy latest ((start settings).through (before ++ m :: between)) (check :: since) ∨
          ∃ e ∈ run, e.stimulus = .cancel ∧ e.time ≤ latest) ∧
    ∀ time, ∃ more, OnClock (start settings) 0 (run ++ more) ∧
      (∀ m ∈ run ++ more, m.stimulus ≠ .abort) ∧ ∃ m ∈ more, time < m.time := by
  refine ⟨fun before m between check since he hm hn hc => ?_, fun time => ?_⟩
  · dsimp only
    intro hlimit hpast
    subst he
    have hfirst : OnClock (start settings) 0 (before ++ m :: (between ++ check :: since)) := by
      rwa [List.append_assoc, List.cons_append] at hrun
    obtain ⟨-, -, hfitm, -⟩ := hfirst.inOrder.split
    obtain ⟨hearlier, -, hfit, -⟩ := hrun.inOrder.split
    have ha := attentive_through settings (before ++ m :: between)
    have harmed : Armed (m.time + settings.maxWorkStaleness.toMillis)
        ((start settings).through (before ++ m :: between)) := by
      rw [through_append] at hn ⊢
      exact (Armed.of_startsPeriod (attentive_through settings before) hfitm hm).through hn
    cases hcancel : ((start settings).through (before ++ m :: between)).cancelled with
    | true =>
      obtain ⟨e, he, hs⟩ := cancel_mem hcancel rfl
      have hle : e.time ≤ check.time := hearlier e he
      exact .inr ⟨e, List.mem_append_left _ he, hs, by omega⟩
    | false =>
      have hafter : OnClock (((start settings).through (before ++ m :: between)).step
          check.stimulus).1 check.time since := hrun.right.2.2.2
      generalize (start settings).through (before ++ m :: between) = g at *
      rcases Waits.of_armed harmed ha hcancel hc hfit (by omega) with hwork | hwaits
      · exact .inl ⟨[], check, since, rfl, hwork, Nat.le_max_left _ _⟩
      · rcases hwaits.run (ha.step check.stimulus) hafter (Nat.le_max_left _ _)
          (Nat.le_max_right _ _)
          (fun e he => hkept e (List.mem_append_right _ (List.mem_cons_of_mem _ he))) hlimit with
          hworks | ⟨e, he, hs, hle⟩ | hle
        · exact .inl hworks.cons
        · exact .inr ⟨e, List.mem_append_right _ (List.mem_cons_of_mem _ he), hs, hle⟩
        · obtain ⟨e, he, hlate⟩ := hpast
          exact absurd hlate (Nat.not_lt.mpr (hle e he))
  · obtain ⟨more, hmore⟩ :=
      goes_past (attentive_through settings run) (clocked.clockAfter 0 run) time
    exact ⟨more, hmore.after hrun hkept⟩

/-- A feed on its way to its first call, for a notification. -/
def beforePush : List Moment := [
  ⟨0, .turn 0 (some 0) none⟩,
  ⟨10, .turn 10 (some 0) (some (.registered (.ok ⟨1, true⟩)))⟩,
  ⟨20, .turn 20 (some 0) (some (.info (.ok { isSynced := true })))⟩,
  ⟨12000, .notify⟩]

/-- After the call the node is found synced in no time, and then nothing is heard of it. -/
def silence : List Moment := [⟨42000, .turn 42000 (some 0) none⟩, ⟨42001, .notify⟩]

theorem next_work_after_silence :
    WorksBy 42000
      ((start halfMinute).through (beforePush ++
        [⟨12000, .turn 12000 (some 0) none⟩, ⟨12001, .turn 12001 (some 0) (some .handled)⟩]))
      (⟨12005, .turn 12005 (some 0) (some (.info (.ok { isSynced := true })))⟩ :: silence) := by
  have hrun : OnClock (start halfMinute) 0 (beforePush ++
      ⟨12000, .turn 12000 (some 0) none⟩ :: [⟨12001, .turn 12001 (some 0) (some .handled)⟩] ++
      ⟨12005, .turn 12005 (some 0) (some (.info (.ok { isSynced := true })))⟩ :: silence) := by
    refine ⟨by decide, rfl, nofun, by decide, rfl, nofun, by decide, rfl, nofun,
      by decide, trivial, ?_, by decide, rfl, ?_, by decide, rfl, nofun, by decide, rfl, nofun,
      by decide, rfl, ?_, by decide, trivial, nofun, trivial⟩
    all_goals
      rintro _ ⟨⟩
      decide
  have h := (next_work_within_period halfMinute _ hrun (by simp [beforePush, silence])).1
    beforePush _ _ _ silence rfl (.inl ⟨.push, .tail _ (.tail _ (.head _))⟩) (by decide) rfl
    (by decide) ⟨_, List.mem_cons_of_mem _ List.mem_cons_self, by decide⟩
  have hlatest : max 12005 (12000 + halfMinute.maxWorkStaleness.toMillis) = 42000 := by decide
  rw [hlatest] at h
  refine h.resolve_right ?_
  rintro ⟨e, he, hs, -⟩
  revert e
  simp [beforePush, silence]

end WorkBridge.Feed
