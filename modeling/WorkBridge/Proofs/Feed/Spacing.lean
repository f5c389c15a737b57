import WorkBridge.Proofs.Feed.Staleness

/-!
How far apart the calls for the ticker are.

A call for the ticker takes a tick that is due.  After the first attempt to register, and after
every call for a notification, no tick is due for a full period; after a call for the ticker none
is due for a period less the tolerance.  So whatever was due before is not delivered a second
time, however long the feed was kept from looking: `fallback_keeps_distance`.

What a moment has put off stays put off (`PutOff`): a tick that is taken and a notification only
ever move the next tick on.
-/

namespace WorkBridge.Feed

open Node (ClientId)

/-! ### Runs in the order of time -/

abbrev InOrder (now : Nat) (ms : List Moment) : Prop := clocked.InOrder now ms

variable {settings : Settings} {f : Feed} {s : Stimulus} {now time d : Nat} {m e : Moment}
  {ms ns : List Moment}

/-! ### Calls and the ticker -/

/-- The first attempt to register ends. -/
def endsFirst (f : Feed) (s : Stimulus) : Prop :=
  f.point.isFirst = true ∧ (f.step s).1.point.isFirst = false

theorem exists_endsFirst (h : f.point.isFirst = true) (hn : (f.through ms).point.isFirst = false) :
    ∃ before m between, ms = before ++ m :: between ∧
      (f.through before).endsFirst m.stimulus := by
  obtain ⟨before, m, between, he, hb, hm⟩ :=
    clocked.exists_step (P := fun f => f.point.isFirst = false) (ne_false_of_eq_true h) hn
  exact ⟨before, m, between, he, eq_true_of_ne_false hb, hm⟩

/-- Only a feed that looks calls the handler. -/
theorem look_of_work (hfit : s.fits time) {t : Trigger} (h : .work t ∈ (f.step s).2) :
    f.looks s = true ∧ Look f.waiting time (f.step s) := by
  cases s with
  | turn now slot answer =>
    have hnow : now = time := hfit
    subst hnow
    rw [step] at h ⊢
    cases turn_cases f now slot answer with
    | stay hp hi hr =>
      rw [hr] at h
      cases h
    | first hp hf =>
      cases hf with
      | registering hr hw => exact absurd h (hw t)
      | ticking ticker ht hr => exact absurd h (hr.no_work t)
      | failing hr hq => exact absurd h (hr.no_work t)
    | aside hf hp hr => exact absurd h (hr.no_work t)
    | look hl hr => exact ⟨hl, hr⟩
  | abort =>
    unfold step abort at h
    dsimp only at h
    split at h
    · cases h
    · exact absurd h ((Aside.fail f).abandoning.no_work t)
  | _ => cases h

/-- A call for the ticker takes a tick that is due. -/
theorem tick_of_timer (hfit : s.fits time) (h : .work .timer ∈ (f.step s).2) :
    f.point.ticks = true ∧ ∃ t t', f.ticker = some t ∧ t.due ≤ time ∧ t.tick? time = some t' ∧
      (f.step s).1.ticker = some t' := by
  obtain ⟨hl, hlook⟩ := look_of_work hfit h
  refine ⟨ticks_of_looks hl, ?_⟩
  generalize f.step s = r at h hlook
  cases hlook with
  | cancelled hc hr =>
    subst hr
    exact absurd h ((Aside.stop f.waiting).no_work .timer)
  | push hc hw ticker hk hr =>
    subst hr
    simp [announce] at h
  | pushFailing hc hw hk hr =>
    subst hr
    exact absurd h ((Aside.fail _).no_work .timer)
  | tick hc hw hd ticker hk hr =>
    subst hr
    rw [waiting_ticker] at hd hk
    obtain ⟨t, ht, htick⟩ := Option.bind_eq_some_iff.mp hk
    rw [ht] at hd
    exact ⟨t, ticker, ht, of_decide_eq_true hd, htick, rfl⟩
  | tickFailing hc hw hd hk hr =>
    subst hr
    exact absurd h ((Aside.fail _).no_work .timer)
  | wait hc hw hd hr =>
    subst hr
    cases h

/-- A call for a notification sets the ticker back. -/
theorem reset_of_push (hfit : s.fits time) (h : .work .push ∈ (f.step s).2) :
    f.point.ticks = true ∧ ∃ t, f.ticker = some t ∧
      (f.step s).1.ticker = some { t with due := time + t.period } := by
  obtain ⟨hl, hlook⟩ := look_of_work hfit h
  refine ⟨ticks_of_looks hl, ?_⟩
  generalize f.step s = r at h hlook
  cases hlook with
  | cancelled hc hr =>
    subst hr
    exact absurd h ((Aside.stop f.waiting).no_work .push)
  | push hc hw ticker hk hr =>
    subst hr
    rw [waiting_ticker] at hk
    obtain ⟨t, ht, hreset⟩ := Option.bind_eq_some_iff.mp hk
    exact ⟨t, ht, congrArg some (Ticker.eq_of_reset hreset)⟩
  | pushFailing hc hw hk hr =>
    subst hr
    exact absurd h ((Aside.fail _).no_work .push)
  | tick hc hw hd ticker hk hr =>
    subst hr
    simp [announce] at h
  | tickFailing hc hw hd hk hr =>
    subst hr
    exact absurd h ((Aside.fail _).no_work .push)
  | wait hc hw hd hr =>
    subst hr
    cases h

/-! ### What is put off -/

/-- As long as the feed goes on, no tick is due before a time. -/
def PutOff (d : Nat) (f : Feed) : Prop :=
  f.point.ticks = true → ∃ t, f.ticker = some t ∧ d ≤ t.due

namespace PutOff

/-- A tick that is taken and a notification move the next tick on, if anything. -/
theorem look {r : Feed × List Output} (h : PutOff d f) (ha : Attentive settings f)
    (hp : f.point = .awaiting) (hl : Look f now r)
    (hd : d ≤ now + settings.maxWorkStaleness.toMillis) : PutOff d r.1 := by
  have hticks : f.point.ticks = true := by rw [hp]; rfl
  obtain ⟨t, ht, hdue⟩ := h hticks
  obtain ⟨t₁, ht₁, hperiod⟩ := ha.ticker hticks
  cases ht.symm.trans ht₁
  cases hl with
  | cancelled hc hr => subst hr; exact nofun
  | push hc hw ticker hk hr =>
    rw [ht] at hk
    have hreset := Ticker.eq_of_reset hk
    subst hr
    refine fun _ => ⟨ticker, rfl, ?_⟩
    rw [hreset, hperiod]
    exact hd
  | pushFailing hc hw hk hr => subst hr; exact nofun
  | tick hc hw hready ticker hk hr =>
    rw [ht] at hk hready
    have hle := Ticker.due_le_of_tick hk
    subst hr
    exact fun _ => ⟨ticker, rfl, Nat.le_trans hdue hle⟩
  | tickFailing hc hw hready hk hr => subst hr; exact nofun
  | wait hc hw hready hr => subst hr; exact h

theorem first (ha : Attentive settings f) {r : Feed × List Output} (hf : First f now r)
    (hd : d ≤ now + settings.maxWorkStaleness.toMillis) : PutOff d r.1 := by
  cases hf with
  | registering hr hw =>
    rw [hr]
    exact nofun
  | ticking ticker ht hr =>
    refine fun _ => ⟨ticker, hr.ticker, ?_⟩
    rw [Ticker.eq_of_start ht, ha.same]
    exact hd
  | failing hr hq =>
    intro hticks
    rw [hq] at hticks
    cases hticks

theorem step (h : PutOff d f) (ha : Attentive settings f) (hfit : s.fits time)
    (hd : d ≤ time + settings.maxWorkStaleness.toMillis) : PutOff d (f.step s).1 := by
  cases s with
  | cancel => exact h
  | notify => exact h
  | lapse id =>
    obtain ⟨held, hf⟩ := lapse_eq f id
    rw [Feed.step, hf]
    exact h
  | abort =>
    unfold Feed.step abort
    dsimp only
    split
    · exact h
    · intro hticks
      cases hticks
  | turn now slot answer =>
    have hnow : now = time := hfit
    subst hnow
    rw [Feed.step]
    cases turn_cases f now slot answer with
    | stay hp hi hr =>
      rw [hr]
      exact h
    | first hp hf => exact first ha hf hd
    | aside hf hp hr =>
      intro _
      rw [hr.ticker]
      exact h hf
    | look hl hr =>
      have hw : PutOff d f.waiting := fun _ => by
        rw [waiting_ticker]
        exact h (ticks_of_looks hl)
      exact hw.look (ha.waiting hl) (waiting_point f) hr hd

theorem through (h : PutOff d f) (ha : Attentive settings f) (hrun : InOrder now ms)
    (hd : d ≤ now + settings.maxWorkStaleness.toMillis) : PutOff d (f.through ms) := by
  have hboth : PutOff d (f.through ms) ∧ Attentive settings (f.through ms) := by
    refine clocked.through_of_steps (P := fun f => PutOff d f ∧ Attentive settings f) ⟨h, ha⟩
      fun before m after he hf => ?_
    subst he
    obtain ⟨-, hle, hfit, -⟩ := hrun.split
    have hd' : d ≤ m.time + settings.maxWorkStaleness.toMillis :=
      Nat.le_trans hd (Nat.add_le_add_right hle _)
    exact ⟨hf.1.step hf.2 hfit hd', hf.2.step m.stimulus⟩
  exact hboth.1

theorem of_endsFirst (ha : Attentive settings f) (hfit : s.fits time) (h : f.endsFirst s) :
    PutOff (time + settings.maxWorkStaleness.toMillis) (f.step s).1 :=
  -- Before the attempt has ended there is no ticker that could be due.
  step (fun hticks => by
    have hn := not_first_of_ticks hticks
    rw [h.1] at hn
    cases hn) ha hfit (Nat.le_refl _)

theorem of_push (ha : Attentive settings f) (hfit : s.fits time)
    (h : .work .push ∈ (f.step s).2) :
    PutOff (time + settings.maxWorkStaleness.toMillis) (f.step s).1 := by
  obtain ⟨hticks, t, ht, hreset⟩ := reset_of_push hfit h
  obtain ⟨t₁, ht₁, hperiod⟩ := ha.ticker hticks
  cases ht.symm.trans ht₁
  exact fun _ => ⟨_, hreset, Nat.add_le_add_left (Nat.le_of_eq hperiod.symm) time⟩

theorem of_timer (ha : Attentive settings f) (hfit : s.fits time)
    (h : .work .timer ∈ (f.step s).2) :
    PutOff (time + settings.maxWorkStaleness.toMillis - Ticker.tolerance) (f.step s).1 := by
  obtain ⟨hticks, t, t', ht, -, htick, hnext⟩ := tick_of_timer hfit h
  obtain ⟨t₁, ht₁, hperiod⟩ := ha.ticker hticks
  cases ht.symm.trans ht₁
  have hle := Ticker.le_due_of_tick htick
  rw [hperiod] at hle
  exact fun _ => ⟨t', hnext, by omega⟩

end PutOff

/-- The calls for the ticker keep their distance, however late the feed gets its turns.  Such a call
takes a tick that is due, and it comes after the first attempt to register has ended.  That tick is
due no earlier than a period after the end of that attempt and after any earlier call for a
notification, and no earlier than a period less the tolerance after any earlier call for the ticker.
So a tick that was due as either was made is not the one that is taken: of all the ticks that a feed
has missed at most one is delivered, if the period is longer than the tolerance, and a notification
takes the place of all of them. -/
theorem fallback_keeps_distance (settings : Settings) (run : List Moment) (hrun : InOrder 0 run) :
    let period := settings.maxWorkStaleness.toMillis
    ∀ earlier e since, run = earlier ++ e :: since →
      .work .timer ∈ (((start settings).through earlier).step e.stimulus).2 →
        ∃ tick, ((start settings).through earlier).ticker = some tick ∧ tick.due ≤ e.time ∧
          (∃ before m between, earlier = before ++ m :: between ∧
            ((start settings).through before).endsFirst m.stimulus) ∧
          ∀ before m between, earlier = before ++ m :: between →
            let f := (start settings).through before
            (f.endsFirst m.stimulus → m.time + period ≤ tick.due) ∧
            (.work .push ∈ (f.step m.stimulus).2 → m.time + period ≤ tick.due) ∧
            (.work .timer ∈ (f.step m.stimulus).2 →
              m.time + period ≤ tick.due + Ticker.tolerance ∧
                (Ticker.tolerance < period → m.time < tick.due)) := by
  dsimp only
  intro earlier e since he hw
  subst he
  obtain ⟨-, -, hfit', -⟩ := hrun.split
  obtain ⟨hticks, tick, t', ht, hdue, -, -⟩ := tick_of_timer hfit' hw
  refine ⟨tick, ht, hdue, exists_endsFirst rfl (not_first_of_ticks hticks), ?_⟩
  intro before m between hsplit
  subst hsplit
  have hmoments : InOrder 0 (before ++ m :: (between ++ e :: since)) := by
    rwa [List.append_assoc, List.cons_append] at hrun
  obtain ⟨-, -, hfit, hsince⟩ := hmoments.split
  have ha := attentive_through settings before
  rw [through_append] at hticks ht
  generalize (start settings).through before = f at ha hticks ht ⊢
  -- What the moment puts off is put off until the tick is taken.
  have kept {d : Nat} (h : PutOff d (f.step m.stimulus).1)
      (hd : d ≤ m.time + settings.maxWorkStaleness.toMillis) : d ≤ tick.due := by
    obtain ⟨t, ht', hle⟩ := h.through (ha.step m.stimulus) (hsince.left) hd hticks
    cases ht.symm.trans ht'
    exact hle
  refine ⟨fun h => kept (.of_endsFirst ha hfit h) (Nat.le_refl _),
    fun h => kept (.of_push ha hfit h) (Nat.le_refl _), fun h => ?_⟩
  have hle := kept (.of_timer ha hfit h) (Nat.sub_le _ _)
  refine ⟨by omega, fun hp => by omega⟩

/-- A feed that is kept from looking twice: a notification takes the place of the tick that it has
missed by then, and later a tick is taken late. -/
def delayed : List Moment := [
  ⟨0, .turn 0 (some 0) none⟩,
  ⟨10, .turn 10 (some 0) (some (.registered (.ok ⟨1, true⟩)))⟩,
  ⟨50000, .notify⟩,
  ⟨100000, .turn 100000 (some 0) (some (.info (.ok { isSynced := true })))⟩,
  ⟨100001, .turn 100001 (some 0) (some .handled)⟩,
  ⟨135000, .turn 135000 (some 0) (some (.info (.ok { isSynced := true })))⟩,
  ⟨135001, .turn 135001 (some 0) (some .handled)⟩,
  ⟨135002, .turn 135002 (some 0) (some (.info (.ok { isSynced := true })))⟩]

theorem fallback_after_delays :
    InOrder 0 (delayed ++ [⟨165003, .turn 165003 (some 0) none⟩]) ∧
      .work .timer ∈ (((start halfMinute).through delayed).step (.turn 165003 (some 0) none)).2 ∧
      ∃ tick, ((start halfMinute).through delayed).ticker = some tick ∧ tick.due ≤ 165003 ∧
        10 + 30000 ≤ tick.due ∧ 100000 + 30000 ≤ tick.due ∧
        135000 + 30000 ≤ tick.due + Ticker.tolerance ∧ 135000 < tick.due := by
  have hrun : InOrder 0 (delayed ++ [⟨165003, .turn 165003 (some 0) none⟩]) := by
    refine ⟨by decide, rfl, by decide, rfl, by decide, trivial, by decide, rfl, by decide, rfl,
      by decide, rfl, by decide, rfl, by decide, rfl, by decide, rfl, trivial⟩
  have hwork : .work .timer ∈
      (((start halfMinute).through delayed).step (.turn 165003 (some 0) none)).2 :=
    .tail _ (.tail _ (.head _))
  obtain ⟨tick, ht, hdue, -, hdistance⟩ :=
    fallback_keeps_distance halfMinute _ hrun delayed _ [] rfl hwork
  have hperiod : halfMinute.maxWorkStaleness.toMillis = 30000 := by decide
  rw [hperiod] at hdistance
  obtain ⟨hfirst, -, -⟩ := hdistance (delayed.take 1) _ (delayed.drop 2) rfl
  obtain ⟨-, hpush, -⟩ := hdistance (delayed.take 3) _ (delayed.drop 4) rfl
  obtain ⟨-, -, htimer⟩ := hdistance (delayed.take 5) _ (delayed.drop 6) rfl
  obtain ⟨hlast, hmissed⟩ := htimer (.tail _ (.tail _ (.head _)))
  exact ⟨hrun, hwork, tick, ht, hdue, hfirst ⟨rfl, rfl⟩, hpush (.tail _ (.tail _ (.head _))), hlast,
    hmissed (by decide)⟩

end WorkBridge.Feed
