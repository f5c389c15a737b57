import WorkBridge.Proofs.Feed.Ending
import WorkBridge.Proofs.Feed.Pace

/-!
How often a feed reconnects.

What a run of a feed shows of its pace (`beats`) follows the rule: every step leads from a place
in it to the place where the feed is then (`Abides.step`), and so does every run.
-/

namespace WorkBridge.Feed

open Node (ClientId)

/-! ### The beats of a run -/

def Output.beat? : Output → Option Beat
  | .query _ => some .asked
  | .reconnect => some .called
  | .work _ => some .worked
  | _ => none

def verdict : Sync.Finding → List Beat
  | .synced => [.passed]
  | .notSynced => []
  | .failed _ => [.failed]

/-- What a turn learns before it does anything. -/
def heard (f : Feed) : Stimulus → List Beat
  | .turn now _ answer =>
    if f.cancelled then []
    else
      match f.point, answer with
      | .checking, some (.info r) => verdict (f.settings.monitor.judge r)
      | .reconnecting, some (.reconnected r) => [.reconnected r.isOk]
      | .degraded wakeAt, _ => if wakeAt ≤ now then [.resumed now] else []
      | _, _ => []
  | _ => []

def canTick (f : Feed) (now : Nat) : Bool :=
  (Ticker.start? now f.settings.maxWorkStaleness.toMillis).isSome

/-- Whether a sync check comes after an attempt to register. -/
def checksAfter (f : Feed) (now : Nat) : Purpose → Bool
  | .first => f.canTick now
  | .renewal => true

/-- Whether a turn that finds no client comes to a sync check.  An attempt to register that it
makes before that is refused at once. -/
def reachesCheck (f : Feed) (now : Nat) (answer : Option Answer) : Bool :=
  match f.point, answer with
  | .ready, _ => f.checksAfter now .first
  | .registering p, some (.registered _) => f.checksAfter now p
  | .resting wakeAt, _ => wakeAt ≤ now
  | .reconnecting, some (.reconnected r) => r.isOk
  | .handling, some .handled => true
  | .degraded wakeAt, _ => wakeAt ≤ now
  | _, _ => false

/-- A sync check without a client fails before the node is asked. -/
def failsUnasked (slot : Option ClientId) (reached : Bool) : List Beat :=
  if slot.isNone && reached then [.failed] else []

theorem failsUnasked_false (slot : Option ClientId) : failsUnasked slot false = [] := by
  simp [failsUnasked]

def unasked (f : Feed) : Stimulus → List Beat
  | .turn now slot answer => failsUnasked slot (!f.cancelled && f.reachesCheck now answer)
  | _ => []

/-- Whether a turn ends in a pause that it did not find the feed in. -/
def pauses (f g : Feed) : Stimulus → List Beat
  | .turn now _ _ =>
    match g.point with
    | .degraded wakeAt => if f.point = .degraded wakeAt then [] else [.paused now]
    | _ => []
  | _ => []

def stepBeats (f : Feed) (s : Stimulus) : List Beat :=
  f.heard s ++ f.unasked s ++ (f.step s).2.filterMap Output.beat? ++ f.pauses (f.step s).1 s

def beats (f : Feed) : List Stimulus → List Beat
  | [] => []
  | s :: rest => f.stepBeats s ++ (f.step s).1.beats rest

/-! ### Every turn keeps the rule -/

/-- Whether a reconnect that succeeded comes just before an attempt to register. -/
def Purpose.isFresh : Purpose → Bool
  | .first => false
  | .renewal => true

/-- Where a feed is in the rule. -/
def Place (interval : Nat) (f : Feed) (p : Pace) : Prop :=
  match f.point with
  | .ready => p = .checking false ∧ f.reconnected = false
  | .registering purpose => p = .checking purpose.isFresh ∧ f.reconnected = purpose.isFresh
  | .checking => p = .checking f.reconnected
  | .resting _ => p = .checking f.reconnected
  | .reconnecting => p = .calling ∧ f.reconnected = false
  | .awaiting => p = .synced ∧ f.reconnected = false
  | .handling => p = .checking false ∧ f.reconnected = false
  | .degraded wakeAt =>
    f.reconnected = false ∧ ∃ since, p = .pausing since ∧ wakeAt = since + interval
  | .stopped => ∀ fresh, p ≠ .faulty fresh
  | .failed => ∀ fresh, p ≠ .faulty fresh

structure Abides (settings : Settings) (f : Feed) (p : Pace) : Prop where
  same : f.settings = settings
  place : f.Place settings.reconnectRetryInterval.toMillis p

/-- A feed that has ended is anywhere but behind a sync check that failed. -/
theorem Place.ended {interval : Nat} {f : Feed} {p : Pace} (he : f.isEnded = true)
    (hn : ∀ fresh, p ≠ .faulty fresh) : f.Place interval p := by
  rw [Place]
  rcases isEnded_iff.mp he with hp | hp <;>
  · rw [hp]
    exact hn

/-- No turn ends between a sync check that fails and what comes of it. -/
theorem Place.ne_faulty {interval : Nat} {f : Feed} {p : Pace} (h : f.Place interval p)
    (fresh : Bool) : p ≠ .faulty fresh := by
  rintro rfl
  unfold Place at h
  split at h <;> simp at h

def pause (now : Nat) (f : Feed) : List Beat :=
  match f.point with
  | .degraded _ => [.paused now]
  | _ => []

/-- What is done, behind the beats that come before it, leads on to where the feed is then. -/
def Leads (settings : Settings) (p : Pace) (now : Nat) (first : List Beat)
    (r : Feed × List Output) : Prop :=
  ∃ q, p.walk settings.reconnectRetryInterval.toMillis
    (first ++ r.2.filterMap Output.beat? ++ pause now r.1) = some q ∧ Abides settings r.1 q

variable {settings : Settings} {f g : Feed} {s : Stimulus} {p : Pace} {now : Nat}
  {slot : Option ClientId} {answer : Option Answer} {r : Feed × List Output} {first : List Beat}
  {fresh : Bool}

theorem beat_releaseHeld (f : Feed) : f.releaseHeld.filterMap Output.beat? = [] := by
  unfold releaseHeld
  split <;> rfl

namespace Leads

theorem log {e : LogEntry} (h : Leads settings p now first r) :
    Leads settings p now first (r.1, .log e :: r.2) := h

theorem append {out : List Output} (ho : out.filterMap Output.beat? = [])
    (h : Leads settings p now first r) : Leads settings p now first (r.1, out ++ r.2) := by
  obtain ⟨q, hq, ha⟩ := h
  refine ⟨q, ?_, ha⟩
  rw [List.filterMap_append, ho]
  exact hq

/-- The end of the task. -/
theorem ended (hs : r.1.settings = settings) (he : r.1.isEnded = true)
    (hw : ∃ q, p.walk settings.reconnectRetryInterval.toMillis
      (first ++ r.2.filterMap Output.beat?) = some q ∧ ∀ fresh, q ≠ .faulty fresh) :
    Leads settings p now first r := by
  obtain ⟨q, hq, hn⟩ := hw
  refine ⟨q, ?_, hs, .ended he hn⟩
  rcases isEnded_iff.mp he with hp | hp <;> simpa [pause, hp] using hq

theorem stop (hs : f.settings = settings) (hn : ∀ fresh, p ≠ .faulty fresh) :
    Leads settings p now [] f.stop := by
  refine ended hs rfl ⟨p, ?_, hn⟩
  show p.walk _ ((f.releaseHeld ++ [_]).filterMap Output.beat?) = some p
  rw [List.filterMap_append, beat_releaseHeld]
  rfl

theorem fail (hs : f.settings = settings) (hn : ∀ fresh, p ≠ .faulty fresh) :
    Leads settings p now [] f.fail := by
  refine ended hs rfl ⟨p, ?_, hn⟩
  show p.walk _ (f.releaseHeld.filterMap Output.beat?) = some p
  rw [beat_releaseHeld]
  rfl

theorem backOff (hs : f.settings = settings) (hc : f.cancelled = false)
    (hr : f.reconnected = false) (hp : p = .faulty true ∨ p = .refused) :
    Leads settings p now [] (f.backOff now) := by
  unfold Feed.backOff
  rw [hc]
  refine ⟨.pausing now, ?_, hs, hr, now, rfl, by rw [← hs]⟩
  rcases hp with rfl | rfl <;> rfl

theorem startReconnect (hs : f.settings = settings) (hc : f.cancelled = false)
    (hr : f.reconnected = false) : Leads settings (.faulty false) now [] f.startReconnect := by
  unfold Feed.startReconnect
  rw [hc]
  exact ⟨.calling, rfl, hs, rfl, hr⟩

/-! #### Sync checks -/

theorem checkFailed (hs : f.settings = settings) (hc : f.cancelled = false)
    (hr : f.reconnected = fresh) (e : Node.Error) :
    Leads settings (.faulty fresh) now [] (f.checkFailed now e) := by
  unfold Feed.checkFailed
  rw [hr]
  cases fresh with
  | true => exact (backOff (f := { f with reconnected := false }) hs hc rfl (.inl rfl)).log
  | false => exact (startReconnect hs hc hr).log

theorem query (hs : f.settings = settings) (hc : f.cancelled = false)
    (hr : f.reconnected = fresh) :
    Leads settings (.checking fresh) now (failsUnasked slot true) (f.query now slot) := by
  unfold Feed.query
  cases slot with
  | none =>
    obtain ⟨q, hq, ha⟩ : Leads settings (.faulty fresh) now [] (f.checkFailed now .notConnected) :=
      checkFailed hs hc hr _
    exact ⟨q, hq, ha⟩
  | some c =>
    refine ⟨.checking fresh, rfl, hs, ?_⟩
    show Pace.checking fresh = .checking f.reconnected
    rw [hr]

theorem check (hs : f.settings = settings) (hc : f.cancelled = false)
    (hr : f.reconnected = fresh) :
    Leads settings (.checking fresh) now (failsUnasked slot true) (f.check now slot) := by
  unfold Feed.check
  rw [hc]
  exact query hs hc hr

theorem startTicking (hs : f.settings = settings) (hc : f.cancelled = false)
    (hr : f.reconnected = fresh) :
    Leads settings (.checking fresh) now (failsUnasked slot (f.canTick now))
      (f.startTicking now slot) := by
  unfold Feed.startTicking canTick
  cases ht : Ticker.start? now f.settings.maxWorkStaleness.toMillis with
  | some ticker => exact check (f := { f with ticker := some ticker }) hs hc hr
  | none =>
    dsimp only [Option.isSome]
    rw [failsUnasked_false]
    exact fail hs nofun

/-! #### Registering -/

theorem hold (f : Feed) (i : Except Node.Error Grant) :
    ∃ held, (f.hold i).1 = { f with held } ∧ (f.hold i).2.1.filterMap Output.beat? = [] := by
  have quiet (said : List Output) (hs : said.filterMap Output.beat? = []) :
      (f.releaseHeld ++ said).filterMap Output.beat? = [] := by
    rw [List.filterMap_append, beat_releaseHeld, hs]
    rfl
  cases i with
  | ok g => exact ⟨some g, rfl, quiet _ rfl⟩
  | error e => exact ⟨none, rfl, quiet _ rfl⟩

theorem registered (hs : f.settings = settings) (hc : f.cancelled = false)
    (hr : f.reconnected = fresh) (purpose : Purpose) (i : Except Node.Error Grant) :
    Leads settings (.checking fresh) now (failsUnasked slot (f.checksAfter now purpose))
      (f.registered now slot purpose i) := by
  obtain ⟨held, hf, ho⟩ := hold f i
  cases purpose with
  | first =>
    have h : Leads settings (.checking fresh) now (failsUnasked slot (f.canTick now))
        ((f.hold i).1.startTicking now slot) := by
      rw [hf]
      exact startTicking (f := { f with held }) hs hc hr
    exact append ho h.log
  | renewal =>
    have h : Leads settings (.checking fresh) now (failsUnasked slot true)
        ((f.hold i).1.check now slot) := by
      rw [hf]
      exact check (f := { f with held }) hs hc hr
    exact append ho h

theorem register (hs : f.settings = settings) (hc : f.cancelled = false) (purpose : Purpose)
    (hr : f.reconnected = purpose.isFresh) :
    Leads settings (.checking purpose.isFresh) now (failsUnasked slot (f.checksAfter now purpose))
      (f.register now slot purpose) := by
  unfold Feed.register
  rw [hc]
  cases slot with
  | none => exact registered hs hc hr purpose (.error .notConnected)
  | some c =>
    exact ⟨.checking purpose.isFresh, rfl, hs, rfl, hr⟩

theorem reconnectEnded (hs : f.settings = settings) (hc : f.cancelled = false)
    (hr : f.reconnected = false) (i : Except Node.Error Connection.Outcome) :
    Leads settings .calling now ([.reconnected i.isOk] ++ failsUnasked slot i.isOk)
      (f.reconnectEnded now slot i) := by
  unfold Feed.reconnectEnded
  cases i with
  | ok o =>
    dsimp only
    split
    · exact register (f := { f with reconnected := true }) hs hc .renewal rfl
    · exact check (f := { f with reconnected := true }) hs hc rfl
  | error e =>
    obtain ⟨q, hq, ha⟩ : Leads settings .refused now [] (f.backOff now) :=
      backOff hs hc hr (.inr rfl)
    refine ⟨q, ?_, ha⟩
    show Pace.walk _ .calling ([.reconnected false] ++ failsUnasked slot false ++ _ ++ _) = some q
    rw [failsUnasked_false]
    exact hq

/-! #### Waiting for an event -/

theorem announce (hs : f.settings = settings) (hr : f.reconnected = false) (t : Trigger) :
    Leads settings .synced now [] (f.announce t) := ⟨.checking false, rfl, hs, rfl, hr⟩

theorem look (hs : f.settings = settings) (hp : f.point = .awaiting) (hr : f.reconnected = false)
    (hl : Look f now r) : Leads settings .synced now [] r := by
  cases hl with
  | cancelled hc h => rw [h]; exact stop hs nofun
  | push hc hw ticker ht h =>
    rw [h]
    exact announce (f := { f with signal := f.signal.take, ticker := some ticker }) hs hr .push
  | pushFailing hc hw ht h =>
    rw [h]
    exact fail (f := { f with signal := f.signal.take }) hs nofun
  | tick hc hw hd ticker ht h =>
    rw [h]
    exact announce (f := { f with signal := f.signal.leave, ticker := some ticker }) hs hr .timer
  | tickFailing hc hw hd ht h =>
    rw [h]
    exact fail (f := { f with signal := f.signal.leave }) hs nofun
  | wait hc hw hd h =>
    rw [h]
    refine ⟨.synced, ?_, hs, ?_⟩
    · simp [pause, hp, Pace.walk]
    · simp [Place, hp, hr]

theorem checked (hs : f.settings = settings) (hc : f.cancelled = false)
    (hr : f.reconnected = fresh) (i : Except Node.ClientError Node.Info) :
    Leads settings (.checking fresh) now (verdict (f.settings.monitor.judge i))
      (f.checked now i) := by
  unfold Feed.checked
  dsimp only
  cases f.settings.monitor.judge i with
  | synced =>
    let g : Feed :=
      { f with reconnected := false, point := .awaiting, signal := f.signal.listen }
    have h : Leads settings .synced now [] (g.lookForEvent now) :=
      look (f := g) hs rfl rfl (lookForEvent_cases g now)
    unfold Feed.awaitEvent
    rw [if_neg (by simp [hc])]
    exact h
  | notSynced =>
    refine ⟨.checking fresh, rfl, hs, ?_⟩
    show Pace.checking fresh = .checking f.reconnected
    rw [hr]
  | failed e =>
    have h : Leads settings (.faulty fresh) now [] (f.checkFailed now e) := checkFailed hs hc hr e
    exact h

end Leads

theorem no_pause (hg : ∀ wakeAt, g.point ≠ .degraded wakeAt) (now : Nat) :
    pause now g = [] ∧ f.pauses g s = [] := by
  constructor
  · unfold pause
    split
    · exact absurd ‹_› (hg _)
    · rfl
  · unfold pauses
    split
    · split
      · exact absurd ‹_› (hg _)
      · rfl
    · rfl

/-- A sync check that no reconnect comes before does not end in a pause. -/
theorem check_point (hr : f.reconnected = false) (now wakeAt : Nat) (slot : Option ClientId) :
    (f.check now slot).1.point ≠ .degraded wakeAt := by
  unfold check query checkFailed startReconnect
  rw [hr]
  cases f.cancelled <;> cases slot <;> simp [stop]

/-- The beats of a step lead on from a place in the rule to where the feed is then. -/
def Keeps (settings : Settings) (f : Feed) (p : Pace) (s : Stimulus) : Prop :=
  ∃ q, p.walk settings.reconnectRetryInterval.toMillis (f.stepBeats s) = some q ∧
    Abides settings (f.step s).1 q

namespace Keeps

/-- A step that leaves the feed where it is and does nothing. -/
theorem stay (hg : Abides settings (f.step s).1 p)
    (hr : (f.step s).2 = []) (hp : (f.step s).1.point = f.point) (hh : f.heard s = [])
    (hu : f.unasked s = []) : Keeps settings f p s := by
  have hpause : f.pauses (f.step s).1 s = [] := by
    unfold pauses
    rw [hp]
    split
    · split
      · rename_i hd
        exact if_pos hd
      · rfl
    · rfl
  refine ⟨p, ?_, hg⟩
  unfold stepBeats
  rw [hh, hu, hr, hpause]
  rfl

/-- A turn from anywhere but a pause, and what is learned before anything is done. -/
theorem of_leads (hp : ∀ wakeAt, f.point ≠ .degraded wakeAt) (ht : f.turn now slot answer = r)
    (hb : f.heard (.turn now slot answer) ++ f.unasked (.turn now slot answer) = first)
    (h : Leads settings p now first r) : Keeps settings f p (.turn now slot answer) := by
  have hpause : ∀ g : Feed, f.pauses g (.turn now slot answer) = pause now g := by
    intro g
    unfold pauses pause
    dsimp only
    split
    · rw [if_neg (hp _)]
    · rfl
  subst ht hb
  obtain ⟨q, hq, ha⟩ := h
  refine ⟨q, ?_, ha⟩
  unfold stepBeats
  rw [hpause]
  exact hq

/-- The turn that ends a pause. -/
theorem resume (h : Abides settings f p) (hc : f.cancelled = false) {wakeAt : Nat}
    (hp : f.point = .degraded wakeAt) (hnow : wakeAt ≤ now) :
    Keeps settings f p (.turn now slot answer) := by
  have hplace := h.place
  unfold Place at hplace
  rw [hp] at hplace
  obtain ⟨hr, since, rfl, hwake⟩ := hplace
  have hturn : f.turn now slot answer = f.check now slot := by
    unfold turn
    simp only [hp, hc, hnow, Bool.false_eq_true, if_false, if_true]
  have hheard : f.heard (.turn now slot answer) = [.resumed now] := by
    simp [heard, hp, hc, hnow]
  have hunasked : f.unasked (.turn now slot answer) = failsUnasked slot true := by
    simp [unasked, reachesCheck, hp, hc, hnow]
  obtain ⟨hno, hpauses⟩ :=
    no_pause (f := f) (s := .turn now slot answer) (fun w => check_point hr now w slot) now
  obtain ⟨q, hq, ha⟩ : Leads settings (.checking false) now (failsUnasked slot true)
      (f.check now slot) := .check h.same hc hr
  rw [hno, List.append_nil] at hq
  have hstep : f.step (.turn now slot answer) = f.check now slot := hturn
  refine ⟨q, ?_, by rw [hstep]; exact ha⟩
  unfold stepBeats
  rw [hstep, hheard, hunasked, hpauses, List.append_nil, List.append_assoc,
    List.singleton_append, Pace.walk_cons]
  have hnext : Pace.next settings.reconnectRetryInterval.toMillis (.pausing since)
      (.resumed now) = some (.checking false) := by
    simp only [Pace.next]
    rw [if_pos (by omega)]
  rw [hnext]
  exact hq

theorem stayTurn (h : Abides settings f p) (hr : f.turn now slot answer = (f, []))
    (hh : f.heard (.turn now slot answer) = []) (hu : f.unasked (.turn now slot answer) = []) :
    Keeps settings f p (.turn now slot answer) := by
  refine stay ?_ ?_ ?_ hh hu
  all_goals simp only [step, hr]
  exact h

/-- A turn with nothing to go on with learns nothing. -/
theorem silent_of_still (hn : f.point.goesOn now answer = false) (slot : Option ClientId) :
    f.heard (.turn now slot answer) = [] ∧ f.unasked (.turn now slot answer) = [] := by
  unfold heard unasked reachesCheck
  cases hp : f.point <;> rw [hp] at hn <;> rcases answer with _ | (_ | _ | _ | _ | _) <;>
    simp_all [Point.goesOn, Answer.suits, Point.isCalling, failsUnasked]

/-- Nor does one in which the feed learns that what it called broke off. -/
theorem silent_of_crash (hp : f.point.isCalling = true ∨ f.point = .handling) (now : Nat)
    (slot : Option ClientId) : f.heard (.turn now slot (some .crashed)) = [] ∧
      f.unasked (.turn now slot (some .crashed)) = [] := by
  unfold heard unasked reachesCheck
  cases hq : f.point <;> simp_all [Point.isCalling, failsUnasked]

/-- A step that ends the task and begins nothing. -/
theorem ending (h : Abides settings f p) (ha : Attentive settings f) (ho : Over (f.step s))
    (hh : f.heard s = []) (hu : f.unasked s = []) : Keeps settings f p s := by
  have hquiet : (f.step s).2.filterMap Output.beat? = [] := by
    refine List.filterMap_eq_nil_iff.mpr ?_
    intro o hm
    have hstart := ho.quiet o hm
    cases o <;> first | rfl | cases hstart
  have hpauses : f.pauses (f.step s).1 s = [] := by
    refine (no_pause (fun wakeAt hp => ?_) 0).2
    rcases isEnded_iff.mp ho.ended with hq | hq <;> cases hp.symm.trans hq
  refine ⟨p, ?_, (ha.step s).same, .ended ho.ended h.place.ne_faulty⟩
  rw [stepBeats, hh, hu, hquiet, hpauses]
  rfl

theorem turn (h : Abides settings f p) (ha : Attentive settings f) (hc : f.cancelled = false)
    (now : Nat) (slot : Option ClientId) (answer : Option Answer) :
    Keeps settings f p (.turn now slot answer) := by
  have hs := h.same
  have hplace := h.place
  unfold Place at hplace
  cases moved_turn f now slot answer with
  | still hn _ hr =>
    obtain ⟨hheard, hunasked⟩ := silent_of_still hn slot
    exact .stayTurn h hr hheard hunasked
  | start hp hr =>
    rw [hp] at hplace
    obtain ⟨rfl, hrec⟩ := hplace
    refine .of_leads (by simp [hp]) hr ?_ (Leads.register hs hc .first hrec).log
    simp [heard, unasked, reachesCheck, hp, hc]
  | registered purpose i hp _ hi hr =>
    rw [hp] at hplace
    obtain ⟨rfl, hrec⟩ := hplace
    refine .of_leads (by simp [hp]) hr ?_ (.registered hs hc hrec purpose _)
    simp [heard, unasked, reachesCheck, hp, hc, hi]
  | checked i hp _ hi hr =>
    rw [hp] at hplace
    subst hplace
    refine .of_leads (by simp [hp]) hr ?_ (.checked hs hc rfl i)
    simp [heard, unasked, reachesCheck, failsUnasked, hp, hc, hi]
  | query wakeAt hp _ hw hr =>
    rw [hp] at hplace
    subst hplace
    refine .of_leads (by simp [hp]) hr ?_ (.query hs hc rfl)
    simp [heard, unasked, reachesCheck, hp, hc, hw]
  | reconnected i hp _ hi hr =>
    rw [hp] at hplace
    obtain ⟨rfl, hrec⟩ := hplace
    refine .of_leads (by simp [hp]) hr ?_ (.reconnectEnded hs hc hrec i)
    simp [heard, unasked, reachesCheck, hp, hc, hi]
  | look hp hr =>
    rw [hp] at hplace
    obtain ⟨rfl, hrec⟩ := hplace
    refine .of_leads (by simp [hp]) hr ?_ (.look hs hp hrec (lookForEvent_cases f now))
    simp [heard, unasked, reachesCheck, failsUnasked, hp, hc]
  | handled hp hi hr =>
    rw [hp] at hplace
    obtain ⟨rfl, hrec⟩ := hplace
    refine .of_leads (by simp [hp]) hr ?_ (.check hs hc hrec)
    simp [heard, unasked, reachesCheck, hp, hc, hi]
  | resume wakeAt hp _ hw _ => exact .resume h hc hp hw
  | crash hp _ hi hr =>
    subst hi
    obtain ⟨hheard, hunasked⟩ := silent_of_crash (.inl hp) now slot
    refine .ending h ha ?_ hheard hunasked
    rw [Feed.step, hr]
    exact (Over.fail f).abandoning
  | fail hp hi hr =>
    subst hi
    obtain ⟨hheard, hunasked⟩ := silent_of_crash (.inr hp) now slot
    refine .ending h ha ?_ hheard hunasked
    rw [Feed.step, hr]
    exact Over.fail f
  | giveUp _ _ hn => cases hc.symm.trans hn
  | drop _ hn => cases hc.symm.trans hn
  | stop _ hn => cases hc.symm.trans hn

end Keeps

/-- Every step of a feed keeps the rule. -/
theorem Abides.step (h : Abides settings f p) (ha : Attentive settings f) (s : Stimulus) :
    Keeps settings f p s := by
  cases s with
  | cancel => exact .stay ⟨h.same, h.place⟩ rfl rfl rfl rfl
  | notify => exact .stay ⟨h.same, h.place⟩ rfl rfl rfl rfl
  | lapse id =>
    obtain ⟨held, hf⟩ := lapse_eq f id
    refine .stay ?_ rfl ?_ rfl rfl
    all_goals simp only [Feed.step, hf]
    exact ⟨h.same, h.place⟩
  | abort =>
    by_cases he : f.isEnded = true
    · refine .stay ?_ ?_ ?_ rfl rfl
      all_goals simp only [Feed.step, abort, he, if_true]
      exact h
    · refine .ending h ha ?_ rfl rfl
      simp only [Feed.step, abort, he]
      exact (Over.fail f).abandoning
  | turn now slot answer =>
    by_cases hc : f.cancelled = true
    · have hheard : f.heard (.turn now slot answer) = [] := by simp [heard, hc]
      have hunasked : f.unasked (.turn now slot answer) = [] := by
        simp [unasked, failsUnasked, hc]
      rcases turn_of_cancelled hc now slot answer with hover | ⟨hr, -⟩
      · exact .ending h ha hover hheard hunasked
      · exact .stayTurn h hr hheard hunasked
    · exact .turn h ha (by simpa using hc) now slot answer

/-- And so does every run. -/
theorem Abides.run (h : Abides settings f p) (ha : Attentive settings f) (ss : List Stimulus) :
    ∃ q, p.walk settings.reconnectRetryInterval.toMillis (f.beats ss) = some q ∧
      Abides settings (f.after ss) q := by
  induction ss generalizing f p with
  | nil => exact ⟨p, rfl, h⟩
  | cons s ss ih =>
    obtain ⟨m, hm, hstep⟩ := h.step ha s
    obtain ⟨q, hq, hrest⟩ := ih hstep (ha.step s)
    exact ⟨q, Pace.walk_append_eq_some.mpr ⟨m, hm, hq⟩, hrest⟩

/-- A feed does not reconnect all the time, whatever the node answers: between two reconnects it
pauses for the full interval or calls the handler, and a sync check that fails is followed by one
remedy before the next. -/
theorem reconnects_keep_pace (settings : Settings) (ss : List Stimulus) :
    Paced settings.reconnectRetryInterval.toMillis ((start settings).beats ss) := by
  have h : Abides settings (start settings) (.checking false) := ⟨rfl, rfl, rfl⟩
  obtain ⟨q, hq, hend⟩ := h.run (.start settings) ss
  exact Pace.paced hq hend.place.ne_faulty

end WorkBridge.Feed
