import WorkBridge.Proofs.Feed.History

/-!
What a turn can do.

`moved_turn` says which of its functions a feed goes on with in a turn, and when; what holds of
every turn is read off it.  A feed that gets its turn does one of three things.  It goes on
waiting; it takes an `Aside` from the wait for new work (it registers, checks, reconnects, pauses
or ends); or it looks for an event, which is the only way to new work.  `turn_cases` says so, and
`lookForEvent_cases` says what looking comes to.
-/

namespace WorkBridge.Feed

open Node (ClientId)

/-- Whether a feed is at its first attempt to register, with no ticker yet. -/
def Point.isFirst : Point → Bool
  | .ready => true
  | .registering .first => true
  | _ => false

/-- Whether a feed at that point has a ticker and goes on. -/
def Point.ticks : Point → Bool
  | .ready => false
  | .registering .first => false
  | .stopped => false
  | .failed => false
  | _ => true

theorem isEnded_iff {f : Feed} : f.isEnded = true ↔ f.point = .stopped ∨ f.point = .failed := by
  rw [isEnded]
  cases f.point <;> simp

/-! ### What a feed goes on with -/

/-- Whether a feed at that point waits for an answer that it gives up when it is cancelled. -/
def Point.isCalling : Point → Bool
  | .registering _ => true
  | .checking => true
  | .reconnecting => true
  | _ => false

theorem Point.ticks_of_isCalling {p : Point} (h : p.isCalling = true) (hf : p.isFirst = false) :
    p.ticks = true := by
  cases p with
  | registering purpose => cases purpose <;> first | rfl | cases hf
  | _ => first | rfl | cases h

/-- Whether an answer is one to what a feed at that point waits for. -/
def Answer.suits : Answer → Point → Bool
  | .registered _, .registering _ => true
  | .info _, .checking => true
  | .reconnected _, .reconnecting => true
  | .handled, .handling => true
  | .crashed, p => p.isCalling || p = .handling
  | _, _ => false

/-- Whether a feed at that point has something to go on with in its turn. -/
def Point.goesOn (now : Nat) (answer : Option Answer) : Point → Bool
  | .ready => true
  | .resting wakeAt => wakeAt ≤ now
  | .awaiting => true
  | .degraded wakeAt => wakeAt ≤ now
  | .stopped => false
  | .failed => false
  | p => answer.any (·.suits p)

def startEntry (f : Feed) : LogEntry :=
  entry .info "Starting block template feed"
    [("max_work_staleness", f.settings.maxWorkStaleness.text)]

/-- What a feed goes on with in a turn.  One that is cancelled goes on with nothing but its end,
unless the handler still runs. -/
inductive Moved (f : Feed) (now : Nat) (slot : Option ClientId) (answer : Option Answer)
    (r : Feed × List Output) : Prop
  | still (hn : f.point.goesOn now answer = false)
      (hc : f.cancelled = true → f.isEnded = true ∨ f.point = .handling) (hr : r = (f, []))
  | start (hp : f.point = .ready)
      (hr : r = ((f.register now slot .first).1,
        .log f.startEntry :: (f.register now slot .first).2))
  | registered (p : Purpose) (i : Except Node.ClientError Grant) (hp : f.point = .registering p)
      (hc : f.cancelled = false) (ha : answer = some (.registered i))
      (hr : r = f.registered now slot p (i.mapError .registration))
  | checked (i : Except Node.ClientError Node.Info) (hp : f.point = .checking)
      (hc : f.cancelled = false) (ha : answer = some (.info i)) (hr : r = f.checked now i)
  | query (wakeAt : Nat) (hp : f.point = .resting wakeAt) (hc : f.cancelled = false)
      (hw : wakeAt ≤ now) (hr : r = f.query now slot)
  | reconnected (i : Except Node.Error Connection.Outcome) (hp : f.point = .reconnecting)
      (hc : f.cancelled = false) (ha : answer = some (.reconnected i))
      (hr : r = f.reconnectEnded now slot i)
  | look (hp : f.point = .awaiting) (hr : r = f.lookForEvent now)
  | handled (hp : f.point = .handling) (ha : answer = some .handled) (hr : r = f.check now slot)
  | resume (wakeAt : Nat) (hp : f.point = .degraded wakeAt) (hc : f.cancelled = false)
      (hw : wakeAt ≤ now) (hr : r = f.check now slot)
  | giveUp (p : Purpose) (hp : f.point = .registering p) (hc : f.cancelled = true)
      (hr : r = abandoning (f.registrationCancelled now p))
  | drop (hp : f.point = .checking ∨ f.point = .reconnecting) (hc : f.cancelled = true)
      (hr : r = abandoning f.stop)
  | stop (hp : ∃ wakeAt, f.point = .resting wakeAt ∨ f.point = .degraded wakeAt)
      (hc : f.cancelled = true) (hr : r = f.stop)
  | crash (hp : f.point.isCalling = true) (hc : f.cancelled = false)
      (ha : answer = some .crashed) (hr : r = abandoning f.fail)
  | fail (hp : f.point = .handling) (ha : answer = some .crashed) (hr : r = f.fail)

namespace Moved

variable {f : Feed} {now : Nat} {slot : Option ClientId} {answer : Option Answer}

theorem of_uncancelled {r : Feed × List Output} (hc : f.cancelled = false)
    (hn : f.point.goesOn now answer = false) (hr : r = (f, [])) : Moved f now slot answer r :=
  .still hn (fun h => absurd (h.symm.trans hc) nofun) hr

/-- The turns in which an answer is waited for: a feed that is cancelled gives it up. -/
theorem of_isCalling (hcalls : f.point.isCalling = true) :
    Moved f now slot answer (f.turn now slot answer) := by
  unfold turn
  cases hp : f.point with
  | registering p =>
    cases hc : f.cancelled with
    | true => exact .giveUp p hp hc rfl
    | false =>
      cases answer with
      | none => exact .of_uncancelled hc (by rw [hp]; rfl) rfl
      | some a =>
        cases a with
        | registered i => exact .registered p i hp hc rfl rfl
        | crashed => exact .crash hcalls hc rfl rfl
        | _ => exact .of_uncancelled hc (by rw [hp]; rfl) rfl
  | checking =>
    cases hc : f.cancelled with
    | true => exact .drop (.inl hp) hc rfl
    | false =>
      cases answer with
      | none => exact .of_uncancelled hc (by rw [hp]; rfl) rfl
      | some a =>
        cases a with
        | info i => exact .checked i hp hc rfl rfl
        | crashed => exact .crash hcalls hc rfl rfl
        | _ => exact .of_uncancelled hc (by rw [hp]; rfl) rfl
  | reconnecting =>
    cases hc : f.cancelled with
    | true => exact .drop (.inr hp) hc rfl
    | false =>
      cases answer with
      | none => exact .of_uncancelled hc (by rw [hp]; rfl) rfl
      | some a =>
        cases a with
        | reconnected i => exact .reconnected i hp hc rfl rfl
        | crashed => exact .crash hcalls hc rfl rfl
        | _ => exact .of_uncancelled hc (by rw [hp]; rfl) rfl
  | _ =>
    rw [hp] at hcalls
    cases hcalls

end Moved

theorem moved_turn (f : Feed) (now : Nat) (slot : Option ClientId) (answer : Option Answer) :
    Moved f now slot answer (f.turn now slot answer) := by
  by_cases hcalls : f.point.isCalling = true
  · exact .of_isCalling hcalls
  unfold turn
  cases hp : f.point with
  | ready => exact .start hp rfl
  | resting wakeAt =>
    cases hc : f.cancelled with
    | true => exact .stop ⟨wakeAt, .inl hp⟩ hc rfl
    | false =>
      by_cases hw : wakeAt ≤ now
      · exact .query wakeAt hp hc hw (if_pos hw)
      · exact .of_uncancelled hc (by rw [hp]; exact decide_eq_false hw) (if_neg hw)
  | awaiting => exact .look hp rfl
  | handling =>
    cases answer with
    | none => exact .still (by rw [hp]; rfl) (fun _ => .inr hp) rfl
    | some a =>
      cases a with
      | handled => exact .handled hp rfl rfl
      | crashed => exact .fail hp rfl rfl
      | _ => exact .still (by rw [hp]; rfl) (fun _ => .inr hp) rfl
  | degraded wakeAt =>
    cases hc : f.cancelled with
    | true => exact .stop ⟨wakeAt, .inr hp⟩ hc rfl
    | false =>
      by_cases hw : wakeAt ≤ now
      · exact .resume wakeAt hp hc hw (if_pos hw)
      · exact .of_uncancelled hc (by rw [hp]; exact decide_eq_false hw) (if_neg hw)
  | stopped => exact .still (by rw [hp]; rfl) (fun _ => .inl (by rw [isEnded, hp])) rfl
  | failed => exact .still (by rw [hp]; rfl) (fun _ => .inl (by rw [isEnded, hp])) rfl
  | registering p => exact absurd (by rw [hp]; rfl) hcalls
  | checking => exact absurd (by rw [hp]; rfl) hcalls
  | reconnecting => exact absurd (by rw [hp]; rfl) hcalls

/-- What comes of a feed that does not look for an event: no new work, and when the feed is
left checking, the last that it did was to ask. -/
structure Aside (f : Feed) (r : Feed × List Output) : Prop where
  settings : r.1.settings = f.settings
  cancelled : r.1.cancelled = f.cancelled
  ticker : r.1.ticker = f.ticker
  signal : r.1.signal = f.signal ∨ r.1.isEnded = true ∧ r.1.signal = f.signal.leave
  not_awaiting : r.1.point ≠ .awaiting
  not_handling : r.1.point ≠ .handling
  not_first : r.1.point.isFirst = false
  no_work : ∀ t, .work t ∉ r.2
  asks : r.1.point = .checking → ∃ said c, r.2 = said ++ [.query c]

namespace Aside

variable {f g : Feed} {r : Feed × List Output}

theorem congr (h : Aside g r) (settings : g.settings = f.settings)
    (cancelled : g.cancelled = f.cancelled) (ticker : g.ticker = f.ticker)
    (signal : g.signal = f.signal) : Aside f r where
  settings := h.settings.trans settings
  cancelled := h.cancelled.trans cancelled
  ticker := h.ticker.trans ticker
  signal := signal ▸ h.signal
  not_awaiting := h.not_awaiting
  not_handling := h.not_handling
  not_first := h.not_first
  no_work := h.no_work
  asks := h.asks

/-- What is done before the rest makes no difference unless it is new work. -/
theorem append {out : List Output} (h : Aside f r) (ho : ∀ t, .work t ∉ out) :
    Aside f (r.1, out ++ r.2) where
  settings := h.settings
  cancelled := h.cancelled
  ticker := h.ticker
  signal := h.signal
  not_awaiting := h.not_awaiting
  not_handling := h.not_handling
  not_first := h.not_first
  no_work := fun t ht => (List.mem_append.mp ht).elim (ho t) (h.no_work t)
  asks := by
    intro hp
    obtain ⟨said, c, hr⟩ := h.asks hp
    exact ⟨out ++ said, c, by rw [hr, List.append_assoc]⟩

theorem log {e : LogEntry} (h : Aside f r) : Aside f (r.1, .log e :: r.2) :=
  h.append (by simp : ∀ t, Output.work t ∉ [Output.log e])

theorem not_mem_releaseHeld (f : Feed) (t : Trigger) : .work t ∉ f.releaseHeld := by
  unfold releaseHeld
  split <;> simp

theorem abandoning (h : Aside f r) : Aside f (abandoning r) :=
  h.append (by simp : ∀ t, Output.work t ∉ [Output.abandon])

theorem stop (f : Feed) : Aside f f.stop where
  settings := rfl
  cancelled := rfl
  ticker := rfl
  signal := .inr ⟨rfl, rfl⟩
  not_awaiting := nofun
  not_handling := nofun
  not_first := rfl
  no_work := fun t => by simp [Feed.stop, not_mem_releaseHeld f t]
  asks := nofun

theorem fail (f : Feed) : Aside f f.fail where
  settings := rfl
  cancelled := rfl
  ticker := rfl
  signal := .inr ⟨rfl, rfl⟩
  not_awaiting := nofun
  not_handling := nofun
  not_first := rfl
  no_work := not_mem_releaseHeld f
  asks := nofun

/-- Going to another point, with nothing done that has to be looked at. -/
theorem move (f : Feed) (p : Point) (out : List Output) (hw : ∀ t, .work t ∉ out)
    (ha : p ≠ .awaiting) (hh : p ≠ .handling) (hf : p.isFirst = false)
    (hc : p = .checking → ∃ said c, out = said ++ [.query c]) :
    Aside f ({ f with point := p }, out) where
  settings := rfl
  cancelled := rfl
  ticker := rfl
  signal := .inl rfl
  not_awaiting := ha
  not_handling := hh
  not_first := hf
  no_work := hw
  asks := hc

theorem backOff (f : Feed) (now : Nat) : Aside f (f.backOff now) := by
  unfold Feed.backOff
  split
  · exact stop f
  · exact move f _ _ (by simp) nofun nofun rfl nofun

theorem startReconnect (f : Feed) : Aside f f.startReconnect := by
  unfold Feed.startReconnect
  split
  · exact stop f
  · exact move f _ _ (by simp) nofun nofun rfl nofun

theorem checkFailed (f : Feed) (now : Nat) (e : Node.Error) : Aside f (f.checkFailed now e) := by
  unfold Feed.checkFailed
  split
  · have h : Aside f ({ f with reconnected := false }.backOff now) :=
      (backOff _ now).congr rfl rfl rfl rfl
    exact h.log
  · exact (startReconnect f).log

theorem query (f : Feed) (now : Nat) (slot : Option ClientId) : Aside f (f.query now slot) := by
  unfold Feed.query
  split
  · exact move f _ _ (by simp) nofun nofun rfl fun _ => ⟨[], _, rfl⟩
  · exact checkFailed f now _

theorem check (f : Feed) (now : Nat) (slot : Option ClientId) : Aside f (f.check now slot) := by
  unfold Feed.check
  split
  · exact stop f
  · exact query f now slot

/-! ### Registering -/

theorem hold (f : Feed) (r : Except Node.Error Grant) :
    ∃ held, (f.hold r).1 = { f with held } ∧ ∀ t, .work t ∉ (f.hold r).2.1 := by
  unfold Feed.hold
  cases r with
  | ok g => exact ⟨some g, rfl, fun t => by simp [not_mem_releaseHeld f t]⟩
  | error e => exact ⟨none, rfl, fun t => by simp [not_mem_releaseHeld f t]⟩

theorem registered_renewal (f : Feed) (now : Nat) (slot : Option ClientId)
    (r : Except Node.Error Grant) : Aside f (f.registered now slot .renewal r) := by
  obtain ⟨held, hf, ho⟩ := hold f r
  have h : Aside f ((f.hold r).1.check now slot) :=
    (check _ now slot).congr (by rw [hf]) (by rw [hf]) (by rw [hf]) (by rw [hf])
  exact h.append ho

theorem register_renewal (f : Feed) (now : Nat) (slot : Option ClientId) :
    Aside f (f.register now slot .renewal) := by
  unfold Feed.register
  split
  · exact stop f
  · split
    · exact move f _ _ (by simp) nofun nofun rfl nofun
    · exact registered_renewal f now none _

theorem reconnectEnded (f : Feed) (now : Nat) (slot : Option ClientId)
    (r : Except Node.Error Connection.Outcome) : Aside f (f.reconnectEnded now slot r) := by
  unfold Feed.reconnectEnded
  split
  · have hr : Aside f ({ f with reconnected := true }.register now slot .renewal) :=
      (register_renewal _ now slot).congr rfl rfl rfl rfl
    have hc : Aside f ({ f with reconnected := true }.check now slot) :=
      (check _ now slot).congr rfl rfl rfl rfl
    dsimp only
    split
    · exact hr
    · exact hc
  · exact (backOff f now).log

end Aside

/-- What comes of the first attempt to register: it goes on, or it ends with a new ticker, or the
task breaks off. -/
inductive First (f : Feed) (now : Nat) (r : Feed × List Output) : Prop
  | registering (hp : r.1 = { f with point := .registering .first })
      (hw : ∀ t, .work t ∉ r.2)
  | ticking (ticker : Ticker)
      (ht : Ticker.start? now f.settings.maxWorkStaleness.toMillis = some ticker)
      (h : Aside { f with ticker := some ticker } r)
  | failing (h : Aside f r) (hp : r.1.point = .failed)

namespace First

variable {f : Feed} {now : Nat} {r : Feed × List Output}

theorem append {out : List Output} (h : First f now r) (ho : ∀ t, .work t ∉ out) :
    First f now (r.1, out ++ r.2) := by
  cases h with
  | registering hp hw =>
    exact .registering hp fun t ht => (List.mem_append.mp ht).elim (ho t) (hw t)
  | ticking ticker ht h => exact .ticking ticker ht (h.append ho)
  | failing h hp => exact .failing (h.append ho) hp

theorem abandoning (h : First f now r) : First f now (abandoning r) :=
  h.append (by simp : ∀ t, Output.work t ∉ [Output.abandon])

theorem log {e : LogEntry} (h : First f now r) : First f now (r.1, .log e :: r.2) :=
  h.append (by simp : ∀ t, Output.work t ∉ [Output.log e])

/-- It makes no difference which registration is held. -/
theorem startTicking (f : Feed) (held : Option Grant) (now : Nat) (slot : Option ClientId) :
    First f now ({ f with held }.startTicking now slot) := by
  unfold Feed.startTicking
  split
  · rename_i ticker h
    exact .ticking ticker h ((Aside.check _ now slot).congr rfl rfl rfl rfl)
  · exact .failing ((Aside.fail _).congr rfl rfl rfl rfl) rfl

theorem registrationCancelled (f : Feed) (now : Nat) :
    First f now (f.registrationCancelled now .first) := by
  unfold Feed.registrationCancelled
  dsimp only
  split
  · rename_i ticker h
    exact .ticking ticker h (.stop _)
  · exact .failing (.fail f) rfl

theorem registered (f : Feed) (now : Nat) (slot : Option ClientId)
    (r : Except Node.Error Grant) : First f now (f.registered now slot .first r) := by
  obtain ⟨held, hf, ho⟩ := Aside.hold f r
  have h : First f now ((f.hold r).1.startTicking now slot) := by
    rw [hf]
    exact startTicking f held now slot
  exact h.log.append ho

theorem register (f : Feed) (now : Nat) (slot : Option ClientId) :
    First f now (f.register now slot .first) := by
  unfold Feed.register
  split
  · exact registrationCancelled f now
  · split
    · exact .registering rfl (by simp)
    · exact registered f now none _

end First

/-! ### Looking for an event -/

/-- What looking for an event comes to. -/
inductive Look (f : Feed) (now : Nat) (r : Feed × List Output) : Prop
  | cancelled (hc : f.cancelled = true) (h : r = f.stop)
  | push (hc : f.cancelled = false) (hw : f.signal.isWoken = true) (ticker : Ticker)
      (ht : f.ticker.bind (·.reset? now) = some ticker)
      (h : r = { f with signal := f.signal.take, ticker := some ticker }.announce .push)
  | pushFailing (hc : f.cancelled = false) (hw : f.signal.isWoken = true)
      (ht : f.ticker.bind (·.reset? now) = none) (h : r = { f with signal := f.signal.take }.fail)
  | tick (hc : f.cancelled = false) (hw : f.signal.isWoken = false)
      (hd : f.ticker.any (·.ready now) = true) (ticker : Ticker)
      (ht : f.ticker.bind (·.tick? now) = some ticker)
      (h : r = { f with signal := f.signal.leave, ticker := some ticker }.announce .timer)
  | tickFailing (hc : f.cancelled = false) (hw : f.signal.isWoken = false)
      (hd : f.ticker.any (·.ready now) = true) (ht : f.ticker.bind (·.tick? now) = none)
      (h : r = { f with signal := f.signal.leave }.fail)
  | wait (hc : f.cancelled = false) (hw : f.signal.isWoken = false)
      (hd : f.ticker.any (·.ready now) = false) (h : r = (f, []))

theorem lookForEvent_cases (f : Feed) (now : Nat) : Look f now (f.lookForEvent now) := by
  unfold lookForEvent
  cases hc : f.cancelled with
  | true => exact .cancelled hc rfl
  | false =>
    cases hw : f.signal.isWoken with
    | true =>
      cases ht : f.ticker.bind (·.reset? now) with
      | some ticker => exact .push hc hw ticker ht (by simp [announcePush, ht])
      | none => exact .pushFailing hc hw ht (by simp [announcePush, ht])
    | false =>
      cases hd : f.ticker.any (·.ready now) with
      | false => exact .wait hc hw hd rfl
      | true =>
        cases ht : f.ticker.bind (·.tick? now) with
        | some ticker => exact .tick hc hw hd ticker ht (by simp [announceTick, ht])
        | none => exact .tickFailing hc hw hd ht (by simp [announceTick, ht])

/-- Whether an answer says that the node is synced. -/
def Answer.isSynced : Answer → Bool
  | .info (.ok i) => i.isSynced
  | _ => false

theorem isSynced_of_judge {m : Sync.Monitor} {r : Except Node.ClientError Node.Info}
    (h : m.judge r = .synced) : (Answer.info r).isSynced = true := by
  cases r with
  | ok info =>
    cases hs : info.isSynced with
    | true => exact hs
    | false => simp [Sync.Monitor.judge, hs] at h
  | error e =>
    unfold Sync.Monitor.judge at h
    dsimp only at h
    split at h <;> cases h

/-- Whether a stimulus makes the feed look for an event: a turn while it waits, or the turn in
which it learns that the node is synced and begins to wait. -/
def looks (f : Feed) : Stimulus → Bool
  | .turn _ _ answer =>
    match f.point with
    | .awaiting => true
    | .checking => !f.cancelled && answer.any (·.isSynced)
    | _ => false
  | _ => false

/-- The feed at the moment at which it looks. -/
def waiting (f : Feed) : Feed :=
  match f.point with
  | .awaiting => f
  | _ => { f with reconnected := false, point := .awaiting, signal := f.signal.listen }

theorem waiting_point (f : Feed) : f.waiting.point = .awaiting := by
  unfold waiting
  split
  · assumption
  · rfl

/-! ### Turns -/

/-- What a turn comes to. -/
inductive Turned (f : Feed) (now : Nat) (slot : Option ClientId) (answer : Option Answer)
    (r : Feed × List Output) : Prop
  | stay (hp : f.point ≠ .awaiting) (ha : f.point = .checking → ∀ i, answer ≠ some (.info i))
      (h : r = (f, []))
  | first (hp : f.point.isFirst = true) (h : First f now r)
  | aside (hf : f.point.ticks = true) (hp : f.point ≠ .awaiting) (h : Aside f r)
  | look (hl : f.looks (.turn now slot answer) = true) (h : Look f.waiting now r)

theorem Turned.aside_from {f : Feed} {now : Nat} {slot : Option ClientId} {answer : Option Answer}
    {r : Feed × List Output} {p : Point} (hp : f.point = p) (ht : p.ticks = true)
    (hn : p ≠ .awaiting) (h : Aside f r) : Turned f now slot answer r := by
  subst hp
  exact .aside ht hn h

theorem checked_cases {f : Feed} (hp : f.point = .checking) (hc : f.cancelled = false) (now : Nat)
    (slot : Option ClientId) (r : Except Node.ClientError Node.Info) :
    Turned f now slot (some (.info r)) (f.checked now r) := by
  unfold checked
  dsimp only
  split
  · rename_i hj
    have hs : (Answer.info r).isSynced = true := isSynced_of_judge hj
    have h := lookForEvent_cases f.waiting now
    refine .look (by simp [looks, hp, hc, hs]) ?_
    simpa [awaitEvent, waiting, hp, hc] using h
  · exact .aside_from hp rfl nofun (.checkFailed f now _)
  · exact .aside_from hp rfl nofun (.move f _ _ (by simp) nofun nofun rfl nofun)

/-- A turn in which the feed looks for an event does nothing else. -/
theorem turn_of_looks {f : Feed} {now : Nat} {slot : Option ClientId} {answer : Option Answer}
    (h : f.looks (.turn now slot answer) = true) :
    f.turn now slot answer = f.waiting.lookForEvent now := by
  unfold looks at h
  dsimp only at h
  split at h
  · rename_i hp
    unfold turn waiting
    simp only [hp]
  · rename_i hp
    simp only [Bool.and_eq_true, Bool.not_eq_true', Option.any_eq_true] at h
    obtain ⟨hc, a, rfl, ha⟩ := h
    cases a with
    | info r =>
      cases r with
      | ok i =>
        have hj : f.settings.monitor.judge (.ok i) = .synced := by
          simp only [Answer.isSynced] at ha
          simp [Sync.Monitor.judge, ha]
        unfold turn waiting
        simp [hp, hc, checked, hj, awaitEvent]
      | error e => cases ha
    | _ => cases ha
  · cases h

theorem turn_cases (f : Feed) (now : Nat) (slot : Option ClientId) (answer : Option Answer) :
    Turned f now slot answer (f.turn now slot answer) := by
  cases moved_turn f now slot answer with
  | still hn hc hr =>
    rw [hr]
    refine .stay (fun hp => ?_) (fun hp i hi => ?_) rfl
    · rw [hp] at hn
      cases hn
    · rw [hp, hi] at hn
      cases hn
  | start hp hr =>
    rw [hr]
    exact .first (by rw [hp]; rfl) (First.register f now slot).log
  | registered p i hp hc ha hr =>
    rw [hr]
    cases p with
    | first => exact .first (by rw [hp]; rfl) (.registered f now slot _)
    | renewal => exact .aside_from hp rfl nofun (.registered_renewal f now slot _)
  | checked i hp hc ha hr =>
    rw [hr, ha]
    exact checked_cases hp hc now slot i
  | query wakeAt hp hc hw hr =>
    rw [hr]
    exact .aside_from hp rfl nofun (.query f now slot)
  | reconnected i hp hc ha hr =>
    rw [hr]
    exact .aside_from hp rfl nofun (.reconnectEnded f now slot i)
  | look hp hr =>
    rw [hr]
    refine .look (by simp [looks, hp]) ?_
    simpa [waiting, hp] using lookForEvent_cases f now
  | handled hp ha hr =>
    rw [hr]
    exact .aside_from hp rfl nofun (.check f now slot)
  | resume wakeAt hp hc hw hr =>
    rw [hr]
    exact .aside_from hp rfl nofun (.check f now slot)
  | giveUp p hp hc hr =>
    rw [hr]
    cases p with
    | first => exact .first (by rw [hp]; rfl) (First.registrationCancelled f now).abandoning
    | renewal => exact .aside_from hp rfl nofun (Aside.stop f).abandoning
  | drop hp hc hr =>
    rw [hr]
    rcases hp with hp | hp <;>
    · exact .aside_from hp rfl nofun (Aside.stop f).abandoning
  | stop hp hc hr =>
    rw [hr]
    obtain ⟨wakeAt, hp | hp⟩ := hp <;>
    · exact .aside_from hp rfl nofun (.stop f)
  | crash hp hc ha hr =>
    have hfail : Aside f (abandoning f.fail) := (Aside.fail f).abandoning
    rw [hr]
    cases hf : f.point.isFirst with
    | true => exact .first hf (.failing hfail rfl)
    | false =>
      have hn : f.point ≠ .awaiting := by
        intro h
        rw [h] at hp
        cases hp
      exact .aside (Point.ticks_of_isCalling hp hf) hn hfail
  | fail hp ha hr =>
    rw [hr]
    exact .aside_from hp rfl nofun (.fail f)

/-! ### What a step leaves as it is -/

theorem lapse_eq (f : Feed) (id : Nat) : ∃ held, f.lapse id = { f with held } := by
  unfold lapse
  split
  · split
    · exact ⟨_, rfl⟩
    · exact ⟨f.held, rfl⟩
  · exact ⟨f.held, rfl⟩

theorem waiting_cancelled (f : Feed) : f.waiting.cancelled = f.cancelled := by
  unfold waiting
  split <;> rfl

theorem waiting_ticker (f : Feed) : f.waiting.ticker = f.ticker := by
  unfold waiting
  split <;> rfl

theorem First.cancelled_eq {f : Feed} {now : Nat} {r : Feed × List Output} (h : First f now r) :
    r.1.cancelled = f.cancelled := by
  cases h with
  | registering hp hw => rw [hp]
  | ticking ticker ht h => exact h.cancelled
  | failing h hp => exact h.cancelled

theorem Look.cancelled_eq {f : Feed} {now : Nat} {r : Feed × List Output} (h : Look f now r) :
    r.1.cancelled = f.cancelled := by
  cases h with
  | cancelled hc h => rw [h]; rfl
  | push hc hw ticker ht h => rw [h]; rfl
  | pushFailing hc hw ht h => rw [h]; rfl
  | tick hc hw hd ticker ht h => rw [h]; rfl
  | tickFailing hc hw hd ht h => rw [h]; rfl
  | wait hc hw hd h => rw [h]

theorem cancelled_step (f : Feed) {s : Stimulus} (h : s ≠ .cancel) :
    (f.step s).1.cancelled = f.cancelled := by
  cases s with
  | cancel => exact absurd rfl h
  | notify => rfl
  | lapse id =>
    obtain ⟨held, hf⟩ := lapse_eq f id
    rw [step, hf]
  | abort =>
    unfold step abort
    dsimp only
    split <;> rfl
  | turn now slot answer =>
    rw [step]
    cases turn_cases f now slot answer with
    | stay hp ha hr => rw [hr]
    | first hp hf => exact hf.cancelled_eq
    | aside hf hp hr => exact hr.cancelled
    | look hl hr => rw [hr.cancelled_eq, waiting_cancelled]

end WorkBridge.Feed
