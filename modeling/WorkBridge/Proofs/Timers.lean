import WorkBridge.Options.Arguments
import WorkBridge.Manager
import WorkBridge.Proofs.Feed.Ending
import WorkBridge.Proofs.Stats.Ending

/-!
What the tickers make of the spans of a configuration: `timers_fail_past_limit`.

A span of zero is refused with the configuration, so a ticker can only fail where an instant one
period ahead is past the limit.  No span is too long for the configuration, and a task whose span
is does not survive the making of its ticker.
-/

namespace WorkBridge

open Node (ClientId)

/-! ### Accepted spans -/

namespace Config

variable {config : Config}

theorem ne_zero_of_isZero {s : Span} (h : s.isZero = false) : s.toMillis ≠ 0 :=
  fun hz => Bool.false_ne_true (h.symm.trans (Span.isZero_of_toMillis hz))

theorem spans_of_check (h : config.check = .ok config) :
    config.maxWorkStaleness.toMillis ≠ 0 ∧ config.statsInterval.toMillis ≠ 0 := by
  have hf : config.fault? = none := by
    unfold check at h
    split at h
    · cases h
    · assumption
  unfold fault? at hf
  split at hf
  · cases hf
  · rename_i hstale
    split at hf
    · cases hf
    · rename_i hfind
      have hstats := List.find?_eq_none.mp hfind ("stats interval", config.statsInterval)
        List.mem_cons_self
      exact ⟨ne_zero_of_isZero (by simpa using hstale), ne_zero_of_isZero (by simpa using hstats)⟩

end Config

/-! ### The feed -/

namespace Feed

variable {settings : Settings} {f : Feed} {s : Stimulus} {now : Nat} {slot : Option ClientId}
  {answer : Option Answer}

/-- What happens in time: no call breaks off, the task is not thrown away, and an instant one
period ahead can be computed. -/
def Stimulus.isTimely (period : Nat) : Stimulus → Prop
  | .abort => False
  | .turn now _ answer => answer ≠ some .crashed ∧ now + period < instantLimit
  | _ => True

theorem registrationCancelled_stops
    (ht : Ticker.start? now f.settings.maxWorkStaleness.toMillis ≠ none) (p : Purpose) :
    (f.registrationCancelled now p).1.point = .stopped := by
  unfold registrationCancelled
  cases p with
  | first =>
    dsimp only
    split
    · rfl
    · exact absurd ‹_› ht
  | renewal => rfl

/-- A cancelled feed stops in good order. -/
theorem cancelled_turn (hc : f.cancelled = true) (hn : f.point ≠ .failed)
    (ha : answer ≠ some .crashed)
    (ht : Ticker.start? now f.settings.maxWorkStaleness.toMillis ≠ none) :
    (f.turn now slot answer).1.point ≠ .failed := by
  have given {p : Purpose} : (f.registrationCancelled now p).1.point ≠ .failed := by
    simp [registrationCancelled_stops ht]
  have stopped : f.stop.1.point ≠ .failed := by simp [stop]
  cases moved_turn f now slot answer with
  | still _ _ hr =>
    rw [hr]
    exact hn
  | start _ hr =>
    have hreg : f.register now slot .first = f.registrationCancelled now .first := if_pos hc
    rw [hr, hreg]
    exact given
  | look _ hr =>
    rw [hr, lookForEvent, if_pos hc]
    exact stopped
  | handled _ _ hr =>
    rw [hr, check, if_pos hc]
    exact stopped
  | giveUp p _ _ hr =>
    rw [hr]
    exact given
  | drop _ _ hr =>
    rw [hr]
    exact stopped
  | stop _ _ hr =>
    rw [hr]
    exact stopped
  | fail _ hi => exact absurd hi ha
  | registered _ _ _ hf => cases hc.symm.trans hf
  | checked _ _ hf => cases hc.symm.trans hf
  | query _ _ hf => cases hc.symm.trans hf
  | reconnected _ _ hf => cases hc.symm.trans hf
  | resume _ _ hf => cases hc.symm.trans hf
  | crash _ hf => cases hc.symm.trans hf

theorem timely_step (ha : Attentive settings f) (hz : settings.maxWorkStaleness.toMillis ≠ 0)
    (hs : s.isTimely settings.maxWorkStaleness.toMillis) (hn : f.point ≠ .failed) :
    (f.step s).1.point ≠ .failed := by
  cases s with
  | cancel => exact hn
  | notify => exact hn
  | lapse id =>
    obtain ⟨held, hf⟩ := lapse_eq f id
    rw [step, hf]
    exact hn
  | abort => exact hs.elim
  | turn now slot answer =>
    cases hended : f.isEnded with
    | true =>
      rw [step, (turn_of_ended hended now slot answer).1]
      exact hn
    | false =>
      cases hc : f.cancelled with
      | true =>
        refine cancelled_turn hc hn hs.1 ?_
        rw [ha.same]
        exact Ticker.start_ne_none hz hs.2
      | false =>
        have hgoes : (f.step (.turn now slot answer)).1.isEnded = false :=
          goes_on_step (s := .turn now slot answer) ha hz hs hc hended
        intro hp
        rw [isEnded, hp] at hgoes
        cases hgoes

theorem timely_run (settings : Settings) (hz : settings.maxWorkStaleness.toMillis ≠ 0)
    (ss : List Stimulus) (hs : ∀ s ∈ ss, s.isTimely settings.maxWorkStaleness.toMillis) :
    ((start settings).after ss).point ≠ .failed := by
  induction ss using List.reverseRecOn with
  | nil => nofun
  | append_singleton ss s ih =>
    have hbefore := ih fun s' hs' => hs s' (List.mem_append_left _ hs')
    have hlast := hs s (List.mem_append_right _ List.mem_cons_self)
    rw [after_snoc]
    exact timely_step (attentive settings ss) hz hlast hbefore

/-- The first attempt to register ends with a ticker, or for want of one. -/
theorem first_fails_iff (ha : Attentive settings f) (hz : settings.maxWorkStaleness.toMillis ≠ 0)
    (hp : f.point.isFirst = true) (hc : answer ≠ some .crashed)
    (hr : (f.step (.turn now slot answer)).1.point.isFirst = false) :
    (f.step (.turn now slot answer)).1.point = .failed ↔
      instantLimit ≤ now + settings.maxWorkStaleness.toMillis := by
  constructor
  · intro hfailed
    by_contra hl
    have hn : f.point ≠ .failed := by
      intro hq
      rw [hq] at hp
      cases hp
    exact timely_step (s := .turn now slot answer) ha hz ⟨hc, Nat.lt_of_not_le hl⟩ hn hfailed
  · intro hl
    have hcases := turn_cases f now slot answer
    rw [step] at hr ⊢
    generalize f.turn now slot answer = r at hcases hr ⊢
    -- A turn that leaves the first attempt behind ends with the ticker or with the failure.
    cases hcases with
    | stay hq hi he =>
      rw [he, hp] at hr
      cases hr
    | first hq hf =>
      cases hf with
      | registering he hw =>
        rw [he] at hr
        cases hr
      | ticking ticker ht h =>
        rw [ha.same, Ticker.start_of_limit hl] at ht
        cases ht
      | failing h hq => exact hq
    | aside hf hq h =>
      cases hpoint : f.point with
      | registering p => cases p <;> simp [hpoint, Point.isFirst, Point.ticks] at hp hf
      | _ => simp [hpoint, Point.isFirst, Point.ticks] at hp hf
    | look hl' h =>
      unfold looks at hl'
      cases hpoint : f.point <;> simp [hpoint, Point.isFirst] at hp hl'

/-- A push that is taken sets the ticker back, or the task fails. -/
theorem push_fails_iff (ha : Attentive settings f) (hc : f.cancelled = false)
    (hl : f.looks (.turn now slot answer) = true) (hw : f.waiting.signal.isWoken = true) :
    (f.step (.turn now slot answer)).1.point = .failed ↔
      instantLimit ≤ now + settings.maxWorkStaleness.toMillis := by
  have hwaiting := ha.waiting hl
  obtain ⟨t, ht, hperiod⟩ := hwaiting.ticker (by rw [waiting_point]; rfl)
  have hlook := lookForEvent_cases f.waiting now
  rw [step, turn_of_looks hl]
  generalize f.waiting.lookForEvent now = r at hlook ⊢
  cases hlook with
  | cancelled hc' h =>
    rw [waiting_cancelled, hc] at hc'
    cases hc'
  | push hc' hw' ticker hticker h =>
    have hlt : ¬instantLimit ≤ now + settings.maxWorkStaleness.toMillis := by
      intro hlimit
      rw [← hperiod] at hlimit
      rw [ht, Option.bind_some, Ticker.reset_of_limit hlimit] at hticker
      cases hticker
    rw [h]
    exact ⟨fun hf => (by cases hf), fun hlimit => absurd hlimit hlt⟩
  | pushFailing hc' hw' hticker h =>
    rw [h]
    exact ⟨fun _ => hwaiting.limit (waiting_point f) hticker, fun _ => rfl⟩
  | tick hc' hw' => cases hw.symm.trans hw'
  | tickFailing hc' hw' => cases hw.symm.trans hw'
  | wait hc' hw' => cases hw.symm.trans hw'

end Feed

/-! ### The poller -/

namespace Stats.Poller

variable {settings : Settings} {p : Poller} {s : Stimulus} {now : Nat} {slot : Option ClientId}
  {answer : Option Answer}

def Stimulus.isTimely (period : Nat) : Stimulus → Prop
  | .abort => False
  | .turn now _ answer => answer ≠ some .crashed ∧ now + period < instantLimit
  | _ => True

theorem awaitTick_point (p : Poller) : p.awaitTick.1.point ≠ .failed := by
  unfold awaitTick
  split <;> nofun

theorem proceed_point (p : Poller) (progress : Progress) :
    (p.proceed progress).1.point ≠ .failed := by
  unfold proceed
  split
  · nofun
  · exact awaitTick_point p
  · nofun

theorem timely_step (h : Regular settings p) (hz : settings.interval.toMillis ≠ 0)
    (hs : s.isTimely settings.interval.toMillis) (hn : p.point ≠ .failed) :
    (p.step s).1.point ≠ .failed := by
  cases s with
  | cancel => exact hn
  | abort => exact hs.elim
  | turn now slot answer =>
    obtain ⟨hcrash, hlimit⟩ := hs
    have hcases := turn_cases p now slot answer
    rw [step]
    generalize p.turn now slot answer = r at hcases ⊢
    cases hcases with
    | stay hi => exact hn
    | hello hp ticker ht e => exact awaitTick_point _
    | helloFailing hp ht e =>
      rw [h.same] at ht
      have := Ticker.limit_of_start ht
      omega
    | cancelled hc => exact fun hf => by cases hf
    | abandoned hc => exact fun hf => by cases hf
    | tick hp hc t ticker ht hd hk => exact proceed_point _ _
    | tickFailing hp hc t ht hk =>
      have := Ticker.limit_of_tick hk
      rw [h.period t ht] at this
      omega
    | dag client i hp hc ha => exact proceed_point _ _
    | estimate client info tip i hp hc ha => exact proceed_point _ _
    | recorded hp ha => exact awaitTick_point _
    | crashed ha => exact absurd ha hcrash

theorem timely_run (settings : Settings) (hz : settings.interval.toMillis ≠ 0)
    (ss : List Stimulus) (hs : ∀ s ∈ ss, s.isTimely settings.interval.toMillis) :
    ((start settings).after ss).point ≠ .failed := by
  induction ss using List.reverseRecOn with
  | nil => nofun
  | append_singleton ss s ih =>
    have hbefore := ih fun s' hs' => hs s' (List.mem_append_left _ hs')
    have hlast := hs s (List.mem_append_right _ List.mem_cons_self)
    rw [after_snoc]
    exact timely_step (regular settings ss) hz hlast hbefore

/-- The first turn makes the ticker, or the task fails. -/
theorem hello_fails_iff (h : Regular settings p) (hz : settings.interval.toMillis ≠ 0)
    (hp : p.point = .ready) (now : Nat) (slot : Option ClientId) (answer : Option Answer) :
    (p.step (.turn now slot answer)).1.point = .failed ↔
      instantLimit ≤ now + settings.interval.toMillis := by
  unfold step turn
  rw [hp]
  dsimp only
  rw [h.same]
  constructor
  · intro hfailed
    split at hfailed
    · exact absurd hfailed (awaitTick_point _)
    · have := Ticker.limit_of_start ‹_›
      omega
  · intro hl
    rw [Ticker.start_of_limit hl]
    rfl

end Stats.Poller

/-! ### Whole runs -/

open Stats (Poller)

theorem Span.toMillis_ofMillis (ms : Nat) : (Span.ofMillis ms).toMillis = ms := by
  unfold ofMillis toMillis
  dsimp only
  split <;> omega

theorem Span.toMillis_ofSeconds (s : Nat) : (Span.ofSeconds s).toMillis = s * 1000 := by
  unfold ofSeconds toMillis
  simp

theorem Options.Arguments.spans_of_config {a : Options.Arguments} {config : Config}
    (h : a.config = .ok config) :
    config.maxWorkStaleness.toMillis = a.value .blockWaitTime ∧
      config.statsInterval.toMillis = a.value .statsInterval * 1000 := by
  unfold Options.Arguments.config Config.check at h
  split at h
  · cases h
  · cases h
    exact ⟨Span.toMillis_ofMillis _, Span.toMillis_ofSeconds _⟩

/-- With a configuration that is accepted a timer fails exactly where the instant one period ahead
is past the limit of instants.

* Where it never is, the feed and the poller do not break off, whatever else happens to them.
* The feed makes its ticker after its first attempt to register and sets it back at a push, and
  either breaks it off exactly if the instant is past the limit.
* The poller makes its ticker in its first turn, which breaks it off exactly in that case.
* The period of the feed that options give is in milliseconds and so never reaches the limit; that
  of the poller is in seconds and may. -/
theorem timers_fail_past_limit (config : Config) (hc : config.check = .ok config) :
    let m : Manager := { config }
    let staleness := config.maxWorkStaleness.toMillis
    let interval := config.statsInterval.toMillis
    (∀ ss, (∀ s ∈ ss, s.isTimely staleness) →
      ((Feed.start m.feedSettings).after ss).point ≠ .failed) ∧
    (∀ ss now slot answer,
      let f := (Feed.start m.feedSettings).after ss
      let point := (f.step (.turn now slot answer)).1.point
      (f.point.isFirst = true → point.isFirst = false → answer ≠ some .crashed →
        (point = .failed ↔ instantLimit ≤ now + staleness)) ∧
      (f.looks (.turn now slot answer) = true → f.cancelled = false →
        f.waiting.signal.isWoken = true → (point = .failed ↔ instantLimit ≤ now + staleness))) ∧
    (∀ ss, (∀ s ∈ ss, s.isTimely interval) →
      ((Poller.start m.pollerSettings).after ss).point ≠ .failed) ∧
    (∀ ss now slot answer,
      let p := (Poller.start m.pollerSettings).after ss
      p.point = .ready → ((p.step (.turn now slot answer)).1.point = .failed ↔
        instantLimit ≤ now + interval)) ∧
    ∀ a : Options.Arguments, a.config = .ok config → a.value .blockWaitTime < UInt64.size →
      (∀ now, now + UInt64.size ≤ instantLimit → now + staleness < instantLimit) ∧
        interval = a.value .statsInterval * 1000 := by
  intro m staleness interval
  obtain ⟨hstaleness, hinterval⟩ := Config.spans_of_check hc
  refine ⟨?_, ?_, ?_, ?_, ?_⟩
  · exact Feed.timely_run m.feedSettings hstaleness
  · intro ss now slot answer
    have ha := Feed.attentive m.feedSettings ss
    refine ⟨fun hp hr hn => ?_, fun hl hu hw => ?_⟩
    · have hfirst := Feed.first_fails_iff ha hstaleness hp hn hr
      exact hfirst
    · have hpush := Feed.push_fails_iff ha hu hl hw
      exact hpush
  · exact Poller.timely_run m.pollerSettings hinterval
  · intro ss now slot answer p hp
    exact Poller.hello_fails_iff (Poller.regular m.pollerSettings ss) hinterval hp now slot answer
  · intro a ha hlt
    obtain ⟨hs, hi⟩ := Options.Arguments.spans_of_config ha
    refine ⟨fun now hnow => ?_, hi⟩
    show now + config.maxWorkStaleness.toMillis < instantLimit
    rw [hs]
    exact Nat.lt_of_lt_of_le (Nat.add_lt_add_left hlt now) hnow

theorem timers_hold_by_default :
    ((Poller.start (Manager.pollerSettings { config := {} })).after
      [.turn 0 none none, .turn 30000 none none]).point ≠ .failed :=
  (timers_fail_past_limit {} rfl).2.2.1 _ <| List.forall_mem_cons.mpr
    ⟨⟨nofun, by decide⟩, List.forall_mem_singleton.mpr ⟨nofun, by decide⟩⟩

/-- With the longest interval between two samples that can be asked for. -/
def rarelySampled : Config :=
  { maxWorkStaleness := .ofMillis 3000, statsInterval := .ofSeconds (UInt64.size - 1) }

/-- It is accepted, and the poller breaks off in its first turn, whenever that is. -/
theorem rarelySampled_fails :
    (Options.Arguments.parse ["--stats.interval", "18446744073709551615"]
      fun _ => none).toOption.map (·.config) = some (.ok rarelySampled) ∧
    ∀ now slot answer,
      ((Poller.start (Manager.pollerSettings { config := rarelySampled })).step
        (.turn now slot answer)).1.point = .failed := by
  have hspan : (Manager.pollerSettings { config := rarelySampled }).interval.toMillis =
      (UInt64.size - 1) * 1000 := Span.toMillis_ofSeconds _
  have hregular : Poller.Regular (Manager.pollerSettings { config := rarelySampled })
      (Poller.start (Manager.pollerSettings { config := rarelySampled })) := Poller.regular _ []
  refine ⟨rfl, fun now slot answer => ?_⟩
  refine (Poller.hello_fails_iff hregular ?_ rfl now slot answer).mpr ?_
  · rw [hspan]
    decide
  · rw [hspan]
    have hle : instantLimit ≤ (UInt64.size - 1) * 1000 := by decide
    exact Nat.le_trans hle (Nat.le_add_left _ _)

end WorkBridge
