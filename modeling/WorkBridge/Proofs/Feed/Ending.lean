import WorkBridge.Proofs.Feed.PendingPush

/-!
How a feed ends.

A cancelled feed asks for nothing and calls nobody, and its next turn ends it, unless the handler
still runs.  A feed that is not cancelled ends only with what it called or for want of a ticker.
Either way it has given up by then each registration that it took (`Settled`).
-/

namespace WorkBridge.Feed

open Node (ClientId)

namespace Output

/-- Whether something is asked for, or the handler is called. -/
def isStart : Output → Bool
  | .register _ => true
  | .query _ => true
  | .reconnect => true
  | .work _ => true
  | _ => false

def released? : Output → Option Nat
  | .release id => some id
  | _ => none

end Output

def released (out : List Output) : List Nat := out.filterMap Output.released?

def heldIds (f : Feed) : List Nat := f.held.toList.map (·.id)

def grantIds : Except Node.Error Grant → List Nat
  | .ok g => [g.id]
  | .error _ => []

/-- The registration that a feed takes.  One that comes as the feed is cancelled is not looked at:
it goes with the call that it answers. -/
def taken (f : Feed) : Stimulus → List Nat
  | .turn _ _ (some (.registered (.ok g))) =>
    match f.point with
    | .registering _ => if f.cancelled then [] else [g.id]
    | _ => []
  | _ => []

/-- All registrations that a feed takes in a run. -/
def granted (f : Feed) : List Stimulus → List Nat
  | [] => []
  | s :: rest => f.taken s ++ (f.step s).1.granted rest

/-- All registrations that a feed gives up in a run. -/
def givenUp (f : Feed) : List Stimulus → List Nat
  | [] => []
  | s :: rest => released (f.step s).2 ++ (f.step s).1.givenUp rest

/-- Why a turn may end the task: it is cancelled, what it called breaks off, or there is no next
instant for its ticker. -/
def Excuse (f : Feed) (now : Nat) (answer : Option Answer) : Prop :=
  f.cancelled = true ∨ answer = some .crashed ∨ f.settings.maxWorkStaleness.toMillis = 0 ∨
    instantLimit ≤ now + f.settings.maxWorkStaleness.toMillis

/-- What is held before and what is taken is given up or held after, and nothing is held at the
end, for which there is a reason. -/
structure Settled (f : Feed) (ids : List Nat) (why : Prop) (r : Feed × List Output) : Prop where
  books : f.heldIds ++ ids = released r.2 ++ r.1.heldIds
  ended : r.1.isEnded = true → why ∧ r.1.held = none

variable {settings : Settings} {f g : Feed} {s : Stimulus} {ids : List Nat} {why : Prop} {now : Nat}
  {answer : Option Answer} {r : Feed × List Output}

theorem released_append (out rest : List Output) :
    released (out ++ rest) = released out ++ released rest :=
  List.filterMap_append

theorem released_releaseHeld (f : Feed) : released f.releaseHeld = f.heldIds := by
  unfold releaseHeld heldIds
  cases f.held <;> rfl

namespace Settled

theorem congr (h : Settled g ids why r) (hh : g.held = f.held) : Settled f ids why r := by
  refine ⟨?_, h.ended⟩
  rw [← h.books, heldIds, heldIds, hh]

theorem append {out : List Output} (h : Settled f ids why r) (ho : released out = []) :
    Settled f ids why (r.1, out ++ r.2) := by
  refine ⟨?_, h.ended⟩
  rw [released_append, ho, List.nil_append]
  exact h.books

theorem log {e : LogEntry} (h : Settled f ids why r) : Settled f ids why (r.1, .log e :: r.2) :=
  h.append (rfl : released [.log e] = [])

theorem abandoning (h : Settled f ids why r) : Settled f ids why (abandoning r) :=
  h.append (rfl : released [.abandon] = [])

theorem still (f : Feed) (hn : f.isEnded = false) : Settled f [] why (f, []) where
  books := List.append_nil _
  ended := fun he => absurd (hn.symm.trans he) Bool.false_ne_true

theorem stop (f : Feed) (hw : why) : Settled f [] why f.stop where
  books := by
    have : released f.stop.2 = f.heldIds := by
      rw [Feed.stop, released_append, released_releaseHeld]
      exact List.append_nil _
    rw [this]
    rfl
  ended := fun _ => ⟨hw, rfl⟩

theorem fail (f : Feed) (hw : why) : Settled f [] why f.fail where
  books := by
    have : released f.fail.2 = f.heldIds := released_releaseHeld f
    rw [this]
    rfl
  ended := fun _ => ⟨hw, rfl⟩

/-- Going on, with nothing taken and nothing given up. -/
theorem goOn (hh : r.1.held = f.held) (hn : r.1.isEnded = false) (ho : released r.2 = []) :
    Settled f [] why r where
  books := by rw [ho, heldIds, heldIds, hh, List.append_nil, List.nil_append]
  ended := fun he => absurd (hn.symm.trans he) Bool.false_ne_true

theorem backOff (f : Feed) : Settled f [] (f.Excuse now answer) (f.backOff now) := by
  unfold Feed.backOff
  split
  · rename_i hc
    exact stop f (.inl hc)
  · exact goOn rfl rfl rfl

theorem startReconnect (f : Feed) : Settled f [] (f.Excuse now answer) f.startReconnect := by
  unfold Feed.startReconnect
  split
  · rename_i hc
    exact stop f (.inl hc)
  · exact goOn rfl rfl rfl

theorem checkFailed (f : Feed) (e : Node.Error) :
    Settled f [] (f.Excuse now answer) (f.checkFailed now e) := by
  unfold Feed.checkFailed
  split
  · have h : Settled f [] (f.Excuse now answer) ({ f with reconnected := false }.backOff now) :=
      (backOff { f with reconnected := false }).congr rfl
    exact h.log
  · exact (startReconnect f).log

theorem query (f : Feed) (slot : Option ClientId) :
    Settled f [] (f.Excuse now answer) (f.query now slot) := by
  unfold Feed.query
  split
  · exact goOn rfl rfl rfl
  · exact checkFailed f _

theorem check (f : Feed) (slot : Option ClientId) :
    Settled f [] (f.Excuse now answer) (f.check now slot) := by
  unfold Feed.check
  split
  · rename_i hc
    exact stop f (.inl hc)
  · exact query f slot

theorem startTicking (f : Feed) (slot : Option ClientId) :
    Settled f [] (f.Excuse now answer) (f.startTicking now slot) := by
  unfold Feed.startTicking
  split
  · rename_i ticker h
    exact (check { f with ticker := some ticker } slot).congr rfl
  · rename_i h
    exact fail f (.inr (.inr (Ticker.limit_of_start h)))

theorem registrationCancelled (f : Feed) (hc : f.cancelled = true) (p : Purpose) :
    Settled f [] (f.Excuse now answer) (f.registrationCancelled now p) := by
  unfold Feed.registrationCancelled
  split
  · split
    · rename_i ticker h
      exact (stop { f with ticker := some ticker } (.inl hc)).congr rfl
    · exact fail f (.inl hc)
  · exact stop f (.inl hc)

/-- What was held is given up, and what has been granted is held in its place. -/
theorem hold (f : Feed) (r : Except Node.Error Grant) :
    ∃ held, (f.hold r).1 = { f with held } ∧ (held.toList.map (·.id)) = grantIds r ∧
      released (f.hold r).2.1 = f.heldIds := by
  cases r with
  | ok g =>
    refine ⟨some g, rfl, rfl, ?_⟩
    simp only [Feed.hold]
    rw [released_append, released_releaseHeld]
    exact List.append_nil _
  | error e =>
    refine ⟨none, rfl, rfl, ?_⟩
    simp only [Feed.hold]
    rw [released_append, released_releaseHeld]
    exact List.append_nil _

theorem registered (f : Feed) (slot : Option ClientId) (p : Purpose) (r : Except Node.Error Grant) :
    Settled f (grantIds r) (f.Excuse now answer) (f.registered now slot p r) := by
  obtain ⟨held, hf, hi, ho⟩ := hold f r
  -- What comes after holds the new registration, or gives it up.
  have after {rest : Feed × List Output} {out : List Output} (hout : released out = f.heldIds)
      (hr : Settled { f with held } [] (f.Excuse now answer) rest) :
      Settled f (grantIds r) (f.Excuse now answer) (rest.1, out ++ rest.2) := by
    refine ⟨?_, hr.ended⟩
    have hb := hr.books
    rw [List.append_nil, heldIds, hi] at hb
    rw [released_append, hout, hb, List.append_assoc]
  cases p with
  | first =>
    unfold Feed.registered
    dsimp only
    rw [hf]
    have hr : Settled { f with held } [] (f.Excuse now answer)
        ({ f with held }.startTicking now slot) := startTicking _ slot
    exact after ho hr.log
  | renewal =>
    unfold Feed.registered
    dsimp only
    rw [hf]
    exact after ho (check { f with held } slot)

theorem register (f : Feed) (slot : Option ClientId) (p : Purpose) :
    Settled f [] (f.Excuse now answer) (f.register now slot p) := by
  unfold Feed.register
  split
  · rename_i hc
    exact registrationCancelled f hc p
  · split
    · exact goOn rfl rfl rfl
    · exact registered f none p (.error .notConnected)

theorem reconnectEnded (f : Feed) (slot : Option ClientId)
    (r : Except Node.Error Connection.Outcome) :
    Settled f [] (f.Excuse now answer) (f.reconnectEnded now slot r) := by
  unfold Feed.reconnectEnded
  split
  · dsimp only
    split
    · exact (register { f with reconnected := true } slot .renewal).congr rfl
    · exact (check { f with reconnected := true } slot).congr rfl
  · exact (backOff f).log

theorem look (ha : Attentive settings f) (hp : f.point = .awaiting) (h : Look f now r) :
    Settled f [] (f.Excuse now answer) r := by
  cases h with
  | cancelled hc hr =>
    rw [hr]
    exact stop f (.inl hc)
  | push hc hw ticker ht hr => rw [hr]; exact goOn rfl rfl rfl
  | pushFailing hc hw ht hr =>
    rw [hr]
    have hlimit := ha.limit hp ht
    rw [← ha.same] at hlimit
    exact (fail { f with signal := f.signal.take } (.inr (.inr (.inr hlimit)))).congr rfl
  | tick hc hw hd ticker ht hr => rw [hr]; exact goOn rfl rfl rfl
  | tickFailing hc hw hd ht hr =>
    rw [hr]
    obtain ⟨t, hf, hperiod⟩ := ha.ticker (by rw [hp]; rfl)
    rw [hf] at ht
    have hlimit := Ticker.limit_of_tick ht
    rw [hperiod, ← ha.same] at hlimit
    exact (fail { f with signal := f.signal.leave } (.inr (.inr (.inr hlimit)))).congr rfl
  | wait hc hw hd hr =>
    rw [hr]
    exact still f (by unfold isEnded; rw [hp])

theorem waiting (h : Settled f.waiting [] (f.waiting.Excuse now answer) r) :
    Settled f [] (f.Excuse now answer) r := by
  unfold Feed.waiting at h
  split at h
  · exact h
  · exact h.congr rfl

theorem checked (ha : Attentive settings f) (hp : f.point = .checking) (hc : f.cancelled = false)
    (i : Except Node.ClientError Node.Info) :
    Settled f [] (f.Excuse now answer) (f.checked now i) := by
  unfold Feed.checked
  dsimp only
  split
  · rename_i hj
    have hl : f.looks (.turn now none (some (.info i))) = true := by
      simp [looks, hp, hc, isSynced_of_judge hj]
    have hlook := lookForEvent_cases f.waiting now
    have hs : Settled f [] (f.Excuse now answer) (f.waiting.lookForEvent now) :=
      (look (ha.waiting hl) (waiting_point f) hlook).waiting
    simpa [awaitEvent, Feed.waiting, hp, hc] using hs
  · exact checkFailed f _
  · exact goOn rfl rfl rfl

end Settled

/-! #### What a turn takes -/

theorem taken_of_other (hp : ∀ p, f.point ≠ .registering p) (now : Nat) (slot : Option ClientId)
    (answer : Option Answer) : f.taken (.turn now slot answer) = [] := by
  unfold taken
  split
  · split
    · rename_i p hp'
      exact absurd hp' (hp p)
    · rfl
  · rfl

theorem taken_of_cancelled (hc : f.cancelled = true) (now : Nat) (slot : Option ClientId)
    (answer : Option Answer) : f.taken (.turn now slot answer) = [] := by
  unfold taken
  split
  · rw [if_pos hc]
    split <;> rfl
  · rfl

theorem taken_of_still (hn : f.point.goesOn now answer = false) (slot : Option ClientId) :
    f.taken (.turn now slot answer) = [] := by
  unfold taken
  split
  · split
    · rename_i hs _ _ hp
      cases hs
      rw [hp] at hn
      cases hn
    · rfl
  · rfl

theorem taken_registered {p : Purpose} (hp : f.point = .registering p) (hc : f.cancelled = false)
    (i : Except Node.ClientError Grant) (now : Nat) (slot : Option ClientId) :
    f.taken (.turn now slot (some (.registered i))) = grantIds (i.mapError .registration) := by
  cases i with
  | ok g => simp [taken, hp, hc, grantIds, Except.mapError]
  | error e => rfl

theorem settled_turn (ha : Attentive settings f) (hn : f.isEnded = false) (now : Nat)
    (slot : Option ClientId) (answer : Option Answer) :
    Settled f (f.taken (.turn now slot answer)) (f.Excuse now answer) (f.turn now slot answer) := by
  cases moved_turn f now slot answer with
  | still hs _ hr =>
    rw [hr, taken_of_still hs]
    exact .still f hn
  | start hp hr =>
    rw [hr, taken_of_other (by simp [hp])]
    exact (Settled.register f slot .first).log
  | registered p i hp hc hi hr =>
    subst hi
    rw [hr, taken_registered hp hc]
    exact .registered f slot p _
  | checked i hp hc _ hr =>
    rw [hr, taken_of_other (by simp [hp])]
    exact .checked ha hp hc i
  | query wakeAt hp _ _ hr =>
    rw [hr, taken_of_other (by simp [hp])]
    exact .query f slot
  | reconnected i hp _ _ hr =>
    rw [hr, taken_of_other (by simp [hp])]
    exact .reconnectEnded f slot i
  | look hp hr =>
    rw [hr, taken_of_other (by simp [hp])]
    exact .look ha hp (lookForEvent_cases f now)
  | handled hp _ hr =>
    rw [hr, taken_of_other (by simp [hp])]
    exact .check f slot
  | resume wakeAt hp _ _ hr =>
    rw [hr, taken_of_other (by simp [hp])]
    exact .check f slot
  | giveUp p _ hc hr =>
    rw [hr, taken_of_cancelled hc]
    exact (Settled.registrationCancelled f hc p).abandoning
  | drop _ hc hr =>
    rw [hr, taken_of_cancelled hc]
    exact (Settled.stop f (.inl hc)).abandoning
  | stop _ hc hr =>
    rw [hr, taken_of_cancelled hc]
    exact .stop f (.inl hc)
  | crash _ _ hi hr =>
    subst hi
    rw [hr]
    exact (Settled.fail f (.inr (.inl rfl))).abandoning
  | fail _ hi hr =>
    subst hi
    rw [hr]
    exact .fail f (.inr (.inl rfl))

/-! ### What is held and what is given up -/

/-- A feed that has ended holds nothing. -/
def Tidy (f : Feed) : Prop := f.isEnded = true → f.held = none

theorem turn_of_ended (hn : f.isEnded = true) (now : Nat) (slot : Option ClientId)
    (answer : Option Answer) :
    f.turn now slot answer = (f, []) ∧ f.taken (.turn now slot answer) = [] := by
  unfold isEnded at hn
  split at hn
  · rename_i hp
    unfold turn taken
    simp only [hp]
    exact ⟨trivial, by split <;> rfl⟩
  · rename_i hp
    unfold turn taken
    simp only [hp]
    exact ⟨trivial, by split <;> rfl⟩
  · cases hn

theorem lapse_held (f : Feed) (id : Nat) :
    (f.lapse id).heldIds = f.heldIds ∧ (f.held = none → (f.lapse id).held = none) := by
  unfold lapse
  cases hh : f.held with
  | none => exact ⟨rfl, fun _ => hh⟩
  | some g =>
    dsimp only
    split
    · exact ⟨by simp [heldIds, hh], nofun⟩
    · exact ⟨rfl, nofun⟩

theorem settled_step (ha : Attentive settings f) (ht : f.Tidy) (s : Stimulus) :
    f.heldIds ++ f.taken s = released (f.step s).2 ++ (f.step s).1.heldIds ∧
      (f.step s).1.Tidy := by
  cases s with
  | cancel => exact ⟨List.append_nil _, ht⟩
  | notify => exact ⟨List.append_nil _, ht⟩
  | lapse id =>
    obtain ⟨hids, hheld⟩ := lapse_held f id
    refine ⟨(List.append_nil _).trans hids.symm, fun he => hheld (ht ?_)⟩
    obtain ⟨held, hf⟩ := lapse_eq f id
    rw [step, hf] at he
    exact he
  | abort =>
    unfold step abort
    dsimp only
    split
    · exact ⟨List.append_nil _, ht⟩
    · have h := (Settled.fail f trivial).abandoning
      exact ⟨h.books, fun he => (h.ended he).2⟩
  | turn now slot answer =>
    rw [step]
    cases hn : f.isEnded with
    | true =>
      obtain ⟨hr, hz⟩ := turn_of_ended hn now slot answer
      rw [hr, hz]
      exact ⟨List.append_nil _, ht⟩
    | false =>
      have h := settled_turn ha hn now slot answer
      exact ⟨h.books, fun he => (h.ended he).2⟩

theorem settled_run (ha : Attentive settings f) (ht : f.Tidy) (ss : List Stimulus) :
    f.heldIds ++ f.granted ss = f.givenUp ss ++ (f.after ss).heldIds ∧ (f.after ss).Tidy := by
  induction ss generalizing f with
  | nil => exact ⟨List.append_nil _, ht⟩
  | cons s ss ih =>
    obtain ⟨hbooks, hstep⟩ := settled_step ha ht s
    obtain ⟨hrest, hend⟩ := ih (ha.step s) hstep
    refine ⟨?_, hend⟩
    calc f.heldIds ++ (f.taken s ++ (f.step s).1.granted ss)
        = released (f.step s).2 ++ ((f.step s).1.heldIds ++ (f.step s).1.granted ss) := by
          rw [← List.append_assoc, hbooks, List.append_assoc]
      _ = released (f.step s).2 ++ (f.step s).1.givenUp ss ++
            ((f.step s).1.after ss).heldIds := by rw [hrest, List.append_assoc]

/-! ### Without a cancellation -/

/-- What a feed has to take in its stride: all but a cancellation, a call that breaks off, the end
of its task, and a time from which no instant one period ahead can be computed. -/
def Stimulus.isHarmless (period : Nat) : Stimulus → Prop
  | .cancel => False
  | .abort => False
  | .turn now _ answer => answer ≠ some .crashed ∧ now + period < instantLimit
  | _ => True

theorem goes_on_step (ha : Attentive settings f) (hz : settings.maxWorkStaleness.toMillis ≠ 0)
    (hs : s.isHarmless settings.maxWorkStaleness.toMillis) (hc : f.cancelled = false)
    (hn : f.isEnded = false) : (f.step s).1.isEnded = false := by
  cases s with
  | cancel => exact hs.elim
  | abort => exact hs.elim
  | notify => exact hn
  | lapse id =>
    obtain ⟨held, hf⟩ := lapse_eq f id
    rw [step, hf]
    exact hn
  | turn now slot answer =>
    obtain ⟨hcrash, hlimit⟩ := hs
    have h := settled_turn ha hn now slot answer
    refine Bool.eq_false_iff.mpr fun he => ?_
    have hwhy := (h.ended he).1
    unfold Excuse at hwhy
    rw [ha.same] at hwhy
    rcases hwhy with hc' | hcrash' | hz' | hlimit'
    · exact absurd (hc.symm.trans hc') Bool.false_ne_true
    · exact hcrash hcrash'
    · exact hz hz'
    · omega

theorem goes_on (settings : Settings) (hz : settings.maxWorkStaleness.toMillis ≠ 0)
    {ss : List Stimulus} (hs : ∀ s ∈ ss, s.isHarmless settings.maxWorkStaleness.toMillis) :
    ((start settings).after ss).isEnded = false ∧
      ((start settings).after ss).cancelled = false := by
  induction ss using List.reverseRecOn with
  | nil => exact ⟨rfl, rfl⟩
  | append_singleton ss s ih =>
    obtain ⟨hn, hc⟩ := ih fun s' hs' => hs s' (List.mem_append_left _ hs')
    have hlast := hs s (List.mem_append_right _ List.mem_cons_self)
    rw [after_snoc]
    refine ⟨goes_on_step (attentive settings ss) hz hlast hc hn, ?_⟩
    rw [cancelled_step _ (by rintro rfl; exact hlast)]
    exact hc

/-! ### After a cancellation -/

/-- Nothing is asked for and the handler is not called. -/
def Quiet (out : List Output) : Prop := ∀ o ∈ out, o.isStart = false

theorem quiet_releaseHeld (f : Feed) : Quiet f.releaseHeld := by
  unfold releaseHeld
  split <;> simp [Quiet, Output.isStart]

theorem Quiet.append {out rest : List Output} (h : Quiet out) (hr : Quiet rest) :
    Quiet (out ++ rest) :=
  List.forall_mem_append.mpr ⟨h, hr⟩

/-- The end of a task, with nothing begun. -/
structure Over (r : Feed × List Output) : Prop where
  quiet : Quiet r.2
  ended : r.1.isEnded = true

namespace Over

theorem stop (f : Feed) : Over f.stop :=
  ⟨(quiet_releaseHeld f).append (by simp [Quiet, Output.isStart]), rfl⟩

theorem fail (f : Feed) : Over f.fail := ⟨quiet_releaseHeld f, rfl⟩

theorem abandoning (h : Over r) : Over (abandoning r) :=
  ⟨List.forall_mem_cons.mpr ⟨rfl, h.quiet⟩, h.ended⟩

theorem log {e : LogEntry} (h : Over r) : Over (r.1, .log e :: r.2) :=
  ⟨List.forall_mem_cons.mpr ⟨rfl, h.quiet⟩, h.ended⟩

theorem registrationCancelled (f : Feed) (now : Nat) (p : Purpose) :
    Over (f.registrationCancelled now p) := by
  unfold Feed.registrationCancelled
  split
  · split
    · exact stop _
    · exact fail f
  · exact stop f

end Over

/-- A turn of a cancelled feed is its last, or the handler still runs, or it had ended before. -/
theorem turn_of_cancelled (hc : f.cancelled = true) (now : Nat) (slot : Option ClientId)
    (answer : Option Answer) :
    Over (f.turn now slot answer) ∨ f.turn now slot answer = (f, []) ∧
      (f.isEnded = true ∨
        f.point = .handling ∧ answer ≠ some .handled ∧ answer ≠ some .crashed) := by
  cases moved_turn f now slot answer with
  | still hn hk hr =>
    refine .inr ⟨hr, (hk hc).imp_right fun hp => ⟨hp, ?_, ?_⟩⟩ <;>
    · rintro rfl
      rw [hp] at hn
      cases hn
  | start _ hr =>
    have hreg : f.register now slot .first = f.registrationCancelled now .first := if_pos hc
    rw [hr, hreg]
    exact .inl (Over.registrationCancelled f now .first).log
  | look _ hr =>
    rw [hr, lookForEvent, if_pos hc]
    exact .inl (.stop f)
  | handled _ _ hr =>
    rw [hr, check, if_pos hc]
    exact .inl (.stop f)
  | giveUp p _ _ hr =>
    rw [hr]
    exact .inl (Over.registrationCancelled f now p).abandoning
  | drop _ _ hr =>
    rw [hr]
    exact .inl (Over.stop f).abandoning
  | stop _ _ hr =>
    rw [hr]
    exact .inl (.stop f)
  | fail _ _ hr =>
    rw [hr]
    exact .inl (.fail f)
  | registered _ _ _ hn => cases hc.symm.trans hn
  | checked _ _ hn => cases hc.symm.trans hn
  | query _ _ hn => cases hc.symm.trans hn
  | reconnected _ _ hn => cases hc.symm.trans hn
  | resume _ _ hn => cases hc.symm.trans hn
  | crash _ hn => cases hc.symm.trans hn

theorem quiet_step (hc : f.cancelled = true) (s : Stimulus) : Quiet (f.step s).2 := by
  cases s with
  | abort =>
    unfold step abort
    dsimp only
    split
    · exact List.forall_mem_nil _
    · exact (Over.fail f).abandoning.quiet
  | turn now slot answer =>
    rw [step]
    rcases turn_of_cancelled hc now slot answer with h | ⟨h, -⟩
    · exact h.quiet
    · rw [h]
      exact List.forall_mem_nil _
  | _ => exact List.forall_mem_nil _

theorem cancelled_run (hc : f.cancelled = true) (ss : List Stimulus) :
    (f.after ss).cancelled = true := by
  induction ss generalizing f with
  | nil => exact hc
  | cons s ss ih =>
    refine ih ?_
    by_cases hs : s = .cancel
    · rw [hs]
      rfl
    · exact (cancelled_step f hs).trans hc

theorem quiet_run (hc : f.cancelled = true) (ss : List Stimulus) {o : Output}
    (ho : .did o ∈ f.history ss) : o.isStart = false := by
  induction ss generalizing f with
  | nil => cases ho
  | cons s ss ih =>
    rcases List.mem_append.mp ho with ho | ho
    · rcases List.mem_cons.mp ho with he | ho
      · cases he
      · obtain ⟨o', ho', he⟩ := List.mem_map.mp ho
        cases he
        exact quiet_step hc s _ ho'
    · exact ih (cancelled_run hc [s]) ho

end WorkBridge.Feed
