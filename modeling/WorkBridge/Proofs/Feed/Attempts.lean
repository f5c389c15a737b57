import WorkBridge.Proofs.Feed.Ending
import WorkBridge.Proofs.Metrics.Reading

/-!
The attempts of a feed to register, and what they leave.

An attempt ends in one turn, in which the feed takes what was granted, or nothing, in place of what
it held, and tells the gauge of it (`Reckoned`).  Nothing else gives it a registration or writes the
gauge; between attempts a registration can only be given up as the feed ends, and its
notifications can end by themselves (`held_step`).
-/

namespace WorkBridge.Feed

open Node (ClientId)

/-- Notifications on some registrations have ended. -/
def Grant.expire (g : Grant) (ids : List Nat) : Grant :=
  { g with active := g.active && !ids.contains g.id }

def Stimulus.lapses : Stimulus → List Nat
  | .lapse id => [id]
  | _ => []

/-- What an output makes the gauge of notifications show. -/
def Output.push? : Output → Option Bool
  | .update u => u.pushed?
  | _ => none

def pushes (out : List Output) : List Bool := out.filterMap Output.push?

def outputs (f : Feed) : List Stimulus → List Output
  | [] => []
  | s :: rest => (f.step s).2 ++ (f.step s).1.outputs rest

/-- Whether an attempt to register can end in a turn that finds the feed there. -/
def Point.registers : Point → Bool
  | .ready => true
  | .registering _ => true
  | .reconnecting => true
  | _ => false

/-- Whether the feed has to register again after a reconnect. -/
def renews (f : Feed) (o : Connection.Outcome) : Bool := o = .replaced || !f.pushActive

/-- The end of an attempt to register.  Where there is no client it ends as it is made; one that is
under way as the feed is cancelled has no end. -/
def attempt? (f : Feed) : Stimulus → Option (Except Node.Error Grant)
  | .turn _ slot answer =>
    if f.cancelled then none
    else
      match f.point with
      | .ready => if slot = none then some (.error .notConnected) else none
      | .registering _ =>
        match answer with
        | some (.registered r) => some (r.mapError .registration)
        | _ => none
      | .reconnecting =>
        match answer with
        | some (.reconnected (.ok o)) =>
          if slot = none ∧ f.renews o then some (.error .notConnected) else none
        | _ => none
      | _ => none
  | _ => none

/-- The ends of all attempts of a run. -/
def attempts (f : Feed) : List Stimulus → List (Except Node.Error Grant)
  | [] => []
  | s :: rest => (f.attempt? s).toList ++ (f.step s).1.attempts rest

/-- What is held after an attempt that has ended, if one has. -/
def heldAfter (f : Feed) : Option (Except Node.Error Grant) → Option Grant
  | none => f.held
  | some (.ok g) => some g
  | some (.error _) => none

/-- What a turn tells of an attempt and what it leaves of it. -/
structure Reckoned (f : Feed) (a : Option (Except Node.Error Grant)) (r : Feed × List Output) :
    Prop where
  told : pushes r.2 = a.toList.map Except.isOk
  held : r.1.held = bif r.1.isEnded then none else f.heldAfter a

variable {settings : Settings} {f g : Feed} {s : Stimulus} {now : Nat} {slot : Option ClientId}
  {answer : Option Answer} {a : Option (Except Node.Error Grant)} {r : Feed × List Output}

@[simp]
theorem Grant.expire_nil (g : Grant) : g.expire [] = g := by
  simp [expire]

theorem pushes_append (out rest : List Output) : pushes (out ++ rest) = pushes out ++ pushes rest :=
  List.filterMap_append

theorem pushes_releaseHeld (f : Feed) : pushes f.releaseHeld = [] := by
  unfold releaseHeld
  split <;> rfl

theorem reconnectEnded_ok (f : Feed) (now : Nat) (slot : Option ClientId)
    (o : Connection.Outcome) :
    f.reconnectEnded now slot (.ok o) =
      if f.renews o then { f with reconnected := true }.register now slot .renewal
      else { f with reconnected := true }.check now slot := by
  have hr : (o = .replaced ∨ (!{ f with reconnected := true }.pushActive) = true) =
      (f.renews o = true) := by simp [renews, pushActive]
  unfold reconnectEnded
  simp only [hr]

namespace Reckoned

theorem congr (h : Reckoned g a r) (hh : g.held = f.held) : Reckoned f a r := by
  refine ⟨h.told, h.held.trans ?_⟩
  unfold heldAfter
  rw [hh]

theorem log {e : LogEntry} (h : Reckoned f a r) : Reckoned f a (r.1, .log e :: r.2) :=
  ⟨h.told, h.held⟩

theorem abandoning (h : Reckoned f a r) : Reckoned f a (abandoning r) := ⟨h.told, h.held⟩

theorem stop (f : Feed) : Reckoned f none f.stop where
  told := by
    rw [Feed.stop, pushes_append, pushes_releaseHeld]
    rfl
  held := rfl

theorem fail (f : Feed) : Reckoned f none f.fail := ⟨pushes_releaseHeld f, rfl⟩

theorem goOn (hh : r.1.held = f.held) (hn : r.1.isEnded = false) (ho : pushes r.2 = []) :
    Reckoned f none r where
  told := ho
  held := by
    rw [hn]
    exact hh

theorem backOff (f : Feed) (now : Nat) : Reckoned f none (f.backOff now) := by
  unfold Feed.backOff
  split
  · exact stop f
  · exact goOn rfl rfl rfl

theorem startReconnect (f : Feed) : Reckoned f none f.startReconnect := by
  unfold Feed.startReconnect
  split
  · exact stop f
  · exact goOn rfl rfl rfl

theorem checkFailed (f : Feed) (now : Nat) (e : Node.Error) :
    Reckoned f none (f.checkFailed now e) := by
  unfold Feed.checkFailed
  split
  · have h : Reckoned f none ({ f with reconnected := false }.backOff now) :=
      (backOff { f with reconnected := false } now).congr rfl
    exact h.log
  · exact (startReconnect f).log

theorem query (f : Feed) (now : Nat) (slot : Option ClientId) :
    Reckoned f none (f.query now slot) := by
  unfold Feed.query
  split
  · exact goOn rfl rfl rfl
  · exact checkFailed f now _

theorem check (f : Feed) (now : Nat) (slot : Option ClientId) :
    Reckoned f none (f.check now slot) := by
  unfold Feed.check
  split
  · exact stop f
  · exact query f now slot

theorem startTicking (f : Feed) (now : Nat) (slot : Option ClientId) :
    Reckoned f none (f.startTicking now slot) := by
  unfold Feed.startTicking
  split
  · rename_i ticker _
    exact (check { f with ticker := some ticker } now slot).congr rfl
  · exact fail f

theorem registrationCancelled (f : Feed) (now : Nat) (p : Purpose) :
    Reckoned f none (f.registrationCancelled now p) := by
  unfold Feed.registrationCancelled
  split
  · split
    · rename_i ticker _
      exact (stop { f with ticker := some ticker }).congr rfl
    · exact fail f
  · exact stop f

/-- The gauge is told, and what was granted is held. -/
theorem hold (f : Feed) (i : Except Node.Error Grant) :
    (f.hold i).1.held = f.heldAfter (some i) ∧ pushes (f.hold i).2.1 = [i.isOk] := by
  cases i <;>
  · refine ⟨rfl, ?_⟩
    simp only [Feed.hold]
    rw [pushes_append, pushes_releaseHeld]
    rfl

theorem registered (f : Feed) (now : Nat) (slot : Option ClientId) (p : Purpose)
    (i : Except Node.Error Grant) : Reckoned f (some i) (f.registered now slot p i) := by
  obtain ⟨hheld, hpushes⟩ := hold f i
  -- What comes after makes no other attempt.
  have after {rest : Feed × List Output} (hr : Reckoned (f.hold i).1 none rest) :
      Reckoned f (some i) (rest.1, (f.hold i).2.1 ++ rest.2) := by
    refine ⟨?_, hr.held.trans ?_⟩
    · rw [pushes_append, hpushes, hr.told]
      rfl
    · rw [heldAfter, hheld]
  cases p with
  | first => exact after (startTicking (f.hold i).1 now slot).log
  | renewal => exact after (check (f.hold i).1 now slot)

theorem register (f : Feed) (now : Nat) (slot : Option ClientId) (p : Purpose) :
    Reckoned f (if f.cancelled = false ∧ slot = none then some (.error .notConnected) else none)
      (f.register now slot p) := by
  unfold Feed.register
  cases hc : f.cancelled with
  | true => exact registrationCancelled f now p
  | false =>
    cases slot with
    | some c => exact goOn rfl rfl rfl
    | none => exact registered f now none p _

theorem reconnectEnded (hc : f.cancelled = false) (now : Nat) (slot : Option ClientId)
    (o : Connection.Outcome) :
    Reckoned f (if slot = none ∧ f.renews o then some (.error .notConnected) else none)
      (f.reconnectEnded now slot (.ok o)) := by
  rw [reconnectEnded_ok]
  cases f.renews o with
  | true =>
    have h := register { f with reconnected := true } now slot .renewal
    rw [if_pos rfl]
    simpa [hc] using h.congr (f := f) rfl
  | false => simpa using (check { f with reconnected := true } now slot).congr (f := f) rfl

theorem look (hp : f.point = .awaiting) (h : Look f now r) : Reckoned f none r := by
  cases h with
  | cancelled hc h => rw [h]; exact stop f
  | push hc hw ticker ht h => rw [h]; exact goOn rfl rfl rfl
  | pushFailing hc hw ht h => rw [h]; exact (fail { f with signal := f.signal.take }).congr rfl
  | tick hc hw hd ticker ht h => rw [h]; exact goOn rfl rfl rfl
  | tickFailing hc hw hd ht h => rw [h]; exact (fail { f with signal := f.signal.leave }).congr rfl
  | wait hc hw hd h => rw [h]; exact goOn rfl (by simp [isEnded, hp]) rfl

theorem checked (hc : f.cancelled = false) (now : Nat) (i : Except Node.ClientError Node.Info) :
    Reckoned f none (f.checked now i) := by
  unfold Feed.checked
  dsimp only
  split
  · unfold Feed.awaitEvent
    rw [if_neg (by simp [hc])]
    exact (look rfl (lookForEvent_cases _ now)).congr rfl
  · exact checkFailed f now _
  · exact goOn rfl rfl rfl

end Reckoned

/-! #### When an attempt ends in a turn -/

/-- An attempt ends where the feed registers, or where there is no client to register on. -/
theorem attempt?_of_other (hp : f.point.registers = false) (now : Nat) (slot : Option ClientId)
    (answer : Option Answer) : f.attempt? (.turn now slot answer) = none := by
  unfold attempt?
  cases hq : f.point with
  | ready => rw [hq] at hp; cases hp
  | registering p => rw [hq] at hp; cases hp
  | reconnecting => rw [hq] at hp; cases hp
  | _ => exact ite_self none

theorem attempt?_of_cancelled (hc : f.cancelled = true) (now : Nat) (slot : Option ClientId)
    (answer : Option Answer) : f.attempt? (.turn now slot answer) = none := if_pos hc

theorem attempt?_of_still (hn : f.point.goesOn now answer = false) (slot : Option ClientId) :
    f.attempt? (.turn now slot answer) = none := by
  cases hp : f.point with
  | ready =>
    rw [hp] at hn
    cases hn
  | registering p =>
    have ha : ∀ i, answer ≠ some (.registered i) := by
      rintro i rfl
      rw [hp] at hn
      cases hn
    unfold attempt?
    rw [hp]
    dsimp only
    split
    · rfl
    · split
      · exact absurd rfl (ha _)
      · rfl
  | reconnecting =>
    have ha : ∀ o, answer ≠ some (.reconnected (.ok o)) := by
      rintro o rfl
      rw [hp] at hn
      cases hn
    unfold attempt?
    rw [hp]
    dsimp only
    split
    · rfl
    · split
      · exact absurd rfl (ha _)
      · rfl
  | _ => exact attempt?_of_other (by rw [hp]; rfl) now slot answer

theorem attempt?_of_crash (hp : f.point ≠ .ready) (now : Nat) (slot : Option ClientId) :
    f.attempt? (.turn now slot (some .crashed)) = none := by
  unfold attempt?
  cases hq : f.point with
  | ready => exact absurd hq hp
  | _ => exact ite_self none

theorem reckoned_turn (ht : f.Tidy) (now : Nat) (slot : Option ClientId)
    (answer : Option Answer) :
    Reckoned f (f.attempt? (.turn now slot answer)) (f.turn now slot answer) := by
  cases moved_turn f now slot answer with
  | still hn _ hr =>
    rw [hr, attempt?_of_still hn]
    refine ⟨rfl, ?_⟩
    cases he : f.isEnded with
    | true => exact ht he
    | false => rfl
  | start hp hr =>
    have h : Reckoned f _ (_, .log f.startEntry :: _) := (Reckoned.register f now slot .first).log
    rw [hr]
    cases hc : f.cancelled <;> simpa [attempt?, hp, hc] using h
  | registered p i hp hc hi hr =>
    have ha : f.attempt? (.turn now slot answer) = some (i.mapError .registration) := by
      simp [attempt?, hp, hc, hi]
    rw [hr, ha]
    exact .registered f now slot p _
  | checked i hp hc _ hr =>
    rw [hr, attempt?_of_other (by rw [hp]; rfl)]
    exact .checked hc now i
  | query wakeAt hp _ _ hr =>
    rw [hr, attempt?_of_other (by rw [hp]; rfl)]
    exact .query f now slot
  | reconnected i hp hc hi hr =>
    rw [hr]
    cases i with
    | ok o => simpa [attempt?, hp, hc, hi] using Reckoned.reconnectEnded hc now slot o
    | error e => simpa [attempt?, hp, hc, hi, reconnectEnded] using (Reckoned.backOff f now).log
  | look hp hr =>
    rw [hr, attempt?_of_other (by rw [hp]; rfl)]
    exact .look hp (lookForEvent_cases f now)
  | handled hp _ hr =>
    rw [hr, attempt?_of_other (by rw [hp]; rfl)]
    exact .check f now slot
  | resume wakeAt hp _ _ hr =>
    rw [hr, attempt?_of_other (by rw [hp]; rfl)]
    exact .check f now slot
  | giveUp p _ hc hr =>
    rw [hr, attempt?_of_cancelled hc]
    exact (Reckoned.registrationCancelled f now p).abandoning
  | drop _ hc hr =>
    rw [hr, attempt?_of_cancelled hc]
    exact (Reckoned.stop f).abandoning
  | stop _ hc hr =>
    rw [hr, attempt?_of_cancelled hc]
    exact .stop f
  | crash hp _ hi hr =>
    have hn : f.point ≠ .ready := by
      intro h
      rw [h] at hp
      cases hp
    rw [hr, hi, attempt?_of_crash hn]
    exact (Reckoned.fail f).abandoning
  | fail hp _ hr =>
    rw [hr, attempt?_of_other (by rw [hp]; rfl)]
    exact .fail f

/-! ### Steps -/

theorem held_lapse (f : Feed) (id : Nat) : (f.lapse id).held = f.held.map (·.expire [id]) := by
  unfold lapse
  cases hh : f.held with
  | none => simpa using hh
  | some g =>
    by_cases hg : g.id = id
    · simp [hg, Grant.expire]
    · simp [hg, hh, Grant.expire]

theorem pushes_step (ht : f.Tidy) (s : Stimulus) :
    pushes (f.step s).2 = (f.attempt? s).toList.map Except.isOk := by
  cases s with
  | turn now slot answer => exact (reckoned_turn ht now slot answer).told
  | abort =>
    unfold step abort
    dsimp only
    split
    · rfl
    · exact pushes_releaseHeld f
  | _ => rfl

/-- All that a step can do to the registration that is held. -/
theorem held_step (ht : f.Tidy) (s : Stimulus) :
    (f.step s).1.held = bif (f.step s).1.isEnded then none
      else (f.heldAfter (f.attempt? s)).map (·.expire s.lapses) := by
  -- Nothing but a turn and a lapse touches it.
  have untouched (g : Feed) (hh : g.held = f.held) (he : g.isEnded = f.isEnded) :
      g.held = bif g.isEnded then none else (f.heldAfter none).map (·.expire []) := by
    cases hn : f.isEnded with
    | true => simpa [he, hn, hh] using ht hn
    | false => simp [he, hn, hh, heldAfter]
  cases s with
  | cancel => exact untouched _ rfl rfl
  | notify => exact untouched _ rfl rfl
  | lapse id =>
    obtain ⟨held, hf⟩ := lapse_eq f id
    have he : (f.lapse id).isEnded = f.isEnded := by rw [hf]; rfl
    show (f.lapse id).held = _
    rw [held_lapse]
    show _ = bif (f.lapse id).isEnded then none else f.held.map _
    rw [he]
    cases hn : f.isEnded with
    | true => simp [ht hn]
    | false => rfl
  | abort =>
    unfold step abort
    cases hn : f.isEnded with
    | true => simpa [hn] using ht hn
    | false => rfl
  | turn now slot answer =>
    have h := (reckoned_turn ht now slot answer).held
    simpa [step, Stimulus.lapses] using h

theorem lapses_of_attempt (h : (f.attempt? s).isSome = true) : s.lapses = [] := by
  cases s with
  | lapse id => cases h
  | _ => rfl

theorem isEnded_step (he : f.isEnded = true) (s : Stimulus) : (f.step s).1.isEnded = true := by
  cases s with
  | cancel => exact he
  | notify => exact he
  | lapse id =>
    obtain ⟨held, hf⟩ := lapse_eq f id
    rw [step, hf]
    exact he
  | abort => simp [step, abort, he]
  | turn now slot answer =>
    rw [step, (turn_of_ended he now slot answer).1]
    exact he

theorem Tidy.step (ht : f.Tidy) (s : Stimulus) : (f.step s).1.Tidy := by
  intro he
  rw [held_step ht, he]
  rfl

theorem Tidy.after (ht : f.Tidy) (ss : List Stimulus) : (f.after ss).Tidy := by
  induction ss generalizing f with
  | nil => exact ht
  | cons s ss ih => exact ih (ht.step s)

theorem tidy_start (settings : Settings) : (start settings).Tidy := nofun

/-! ### Runs -/

theorem attempts_append (f : Feed) (ss ts : List Stimulus) :
    f.attempts (ss ++ ts) = f.attempts ss ++ (f.after ss).attempts ts := by
  induction ss generalizing f with
  | nil => rfl
  | cons s ss ih => rw [List.cons_append, attempts, attempts, ih, List.append_assoc, after_cons]

theorem attempts_snoc (f : Feed) (ss : List Stimulus) (s : Stimulus) :
    f.attempts (ss ++ [s]) = f.attempts ss ++ ((f.after ss).attempt? s).toList := by
  rw [attempts_append, attempts, attempts, List.append_nil]

theorem pushes_outputs (ht : f.Tidy) (ss : List Stimulus) :
    pushes (f.outputs ss) = (f.attempts ss).map Except.isOk := by
  induction ss generalizing f with
  | nil => rfl
  | cons s ss ih =>
    rw [outputs, attempts, pushes_append, pushes_step ht, ih (ht.step s), List.map_append]

end WorkBridge.Feed
