import WorkBridge.Proofs.Service.Crew

/-!
What the sampling of the network does to the rest of a service: nothing.

The surroundings say what comes of every request to the node as time goes on, but for those of the
poller, which may be answered in any way and at any time.  Whatever it is answered, a service that
is left to the same surroundings does the same at the same times (`sampling_interferes_nowhere`):
where the poller gets its turn nothing else happens, and nobody but a shutdown looks at it, which
waits for its end and so has it at once.
-/

namespace WorkBridge

open Connection (Supervisor)
open Manager (Token)
open Node (ClientId)
open Stats (Poller)

/-- What comes of requests, by the times at which they are made and at which it is looked for. -/
structure Surroundings where
  info (c : ClientId) (asked now : Nat) : Option (Except Node.ClientError Node.Info)
  register (c : ClientId) (asked now : Nat) : Option (Except Node.ClientError Feed.Grant)
  connect (asked now : Nat) : Option (Except Node.ClientError ClientId)
  reconnect (c : ClientId) (asked now : Nat) : Option (Except Node.ClientError Unit)
  disconnect (c : ClientId) (asked now : Nat) : Bool
  /-- Whether the handler of new work returns. -/
  handles (now : Nat) : Bool

namespace Service

/-! ### A service in its surroundings -/

/-- What happens at a moment, or who gets a turn.  A turn for which there is nothing to do does
nothing. -/
inductive Beat
  | start (token : Token)
  | shutDown
  | giveUp
  /-- The start gets its turn. -/
  | wait
  /-- The shutdown gets its turn as it waits for the ends of the tasks. -/
  | join
  /-- The close of the manager gets its turn. -/
  | close
  | cancel (token : Token)
  | notify
  | lapse (id : Nat)
  | feed
  | poller (answer : Option Poller.Answer)
  | guestAsks (n : Nat) (kind : Connection.Kind)
  | guest (n : Nat)
  | guestLeaves (n : Nat)

structure Moment where
  now : Nat
  beat : Beat

def Moment.isSampling (m : Moment) : Bool :=
  match m.beat with
  | .poller _ => true
  | _ => false

/-- What can be seen of a service, besides its samples. -/
inductive Sight
  | manager (o : Manager.Output)
  | connection (e : Supervisor.Effect)
  | feed (o : Feed.Output)
  /-- What the connection has changed to. -/
  | slot (client : Option ClientId) (connected : Bool)

/-- A shutdown logs how the tasks have ended, which does not count here. -/
def Output.sight? : Output → Option Sight
  | .manager (.log _) => none
  | .manager o => some (.manager o)
  | .connection e => some (.connection e)
  | .feed o => some (.feed o)
  | .poller _ => none

def changes (before after : Supervisor) : List Sight :=
  if after.slot = before.slot ∧ after.connected = before.connected then []
  else [.slot after.slot after.connected]

def sights (s : Service) : List Event → List Sight
  | [] => []
  | e :: es =>
    (s.step e).2.filterMap Output.sight? ++ changes s.connection (s.step e).1.connection ++
      (s.step e).1.sights es

/-- A service, and when it has asked for what it waits for. -/
structure Timed where
  service : Service
  startAsked : Nat := 0
  feedAsked : ClientId × Nat := (0, 0)
  connectionAsked : Nat := 0

namespace Timed

variable (n : Surroundings)

def startAnswer (w : Timed) (now : Nat) : Option (Except Node.ClientError Node.Info) :=
  match w.service.manager.call with
  | .starting _ { point := .asking c, .. } => n.info c w.startAsked now
  | _ => none

def feedAnswer (w : Timed) (f : Feed) (now : Nat) : Option Feed.Answer :=
  match f.point with
  | .registering _ => (n.register w.feedAsked.1 w.feedAsked.2 now).map .registered
  | .checking => (n.info w.feedAsked.1 w.feedAsked.2 now).map .info
  | .handling => some (if n.handles now then .handled else .crashed)
  | _ => none

/-- How a call of the connection can go on. -/
def wake (w : Timed) (ticket now : Nat) : Wake :=
  match w.service.connection.holder? ticket with
  | some { stage := .connecting, .. } =>
    ((n.connect w.connectionAsked now).map .connected).getD .proceed
  | some { stage := .reconnecting c, .. } =>
    ((n.reconnect c w.connectionAsked now).map .reconnected).getD .proceed
  | some { stage := .disconnecting c, .. } =>
    if n.disconnect c w.connectionAsked now then .disconnected else .proceed
  | _ => .proceed

def events (w : Timed) (m : Moment) : List Event :=
  match m.beat with
  | .start token => [.start token]
  | .shutDown => [.shutDown]
  | .giveUp => [.giveUp]
  | .wait => [.wait m.now (w.startAnswer n m.now)]
  | .join =>
    -- The poller is cancelled, and its recorder has returned.
    match w.service.manager.call with
    | .joining => [.poller m.now (some .recorded), .joined .poller, .joined .feed]
    | _ => []
  | .close => [.close (w.wake n closeTicket m.now)]
  | .cancel token => [.cancel token]
  | .notify => [.notify]
  | .lapse id => [.lapse id]
  | .feed =>
    match w.service.feed with
    | some (_, f) =>
      if f.point = .reconnecting ∧ f.cancelled = false then
        [.reconnect m.now (w.wake n feedTicket m.now)]
      else [.feed m.now (w.feedAnswer n f m.now)]
    | none => []
  | .poller answer => [.poller m.now answer]
  | .guestAsks i kind => [.guestAsks i kind]
  | .guest i => [.guest i (w.wake n (guestTicket i) m.now)]
  | .guestLeaves i => [.guestLeaves i]

def note (now : Nat) (w : Timed) : Sight → Timed
  | .manager (.query _) => { w with startAsked := now }
  | .connection (.request _) => { w with connectionAsked := now }
  | .feed (.register c) => { w with feedAsked := (c, now) }
  | .feed (.query c) => { w with feedAsked := (c, now) }
  | _ => w

def seen (w : Timed) (m : Moment) : List Sight := w.service.sights (w.events n m)

def step (w : Timed) (m : Moment) : Timed :=
  (w.seen n m).foldl (note m.now) { w with service := w.service.after (w.events n m) }

def after (w : Timed) (ms : List Moment) : Timed := ms.foldl (step n) w

/-- What is seen in a run, and when. -/
def history (w : Timed) : List Moment → List (Nat × Sight)
  | [] => []
  | m :: ms => (w.seen n m).map (m.now, ·) ++ (w.step n m).history ms

/-- A manager that has not been started, around its first client. -/
def opened (config : Config) (first : ClientId) : Timed where
  service := Service.opened config first

end Timed

/-! ### Services that differ in their pollers -/

def withPoller (s : Service) (q : Option (Token × Poller)) : Service := { s with poller := q }

/-- The same comes of an event for both, but for their pollers. -/
def Agrees (r r' : Service × List Output) : Prop :=
  ∃ q, r'.1 = r.1.withPoller q ∧ r'.2.filterMap Output.sight? = r.2.filterMap Output.sight?

variable {s : Service} {q : Option (Token × Poller)}

theorem withPoller_obey (s : Service) (q : Option (Token × Poller)) (o : Manager.Output) :
    ∃ q', (s.withPoller q).obey o = (s.obey o).withPoller q' := by
  cases o with
  | spawnPoller token settings => exact ⟨_, rfl⟩
  | cancel token => exact ⟨_, rfl⟩
  | _ => exact ⟨q, rfl⟩

theorem withPoller_obeys (s : Service) (q : Option (Token × Poller)) (out : List Manager.Output) :
    ∃ q', out.foldl obey (s.withPoller q) = (out.foldl obey s).withPoller q' := by
  induction out generalizing s q with
  | nil => exact ⟨q, rfl⟩
  | cons o out ih =>
    obtain ⟨q', hq⟩ := withPoller_obey s q o
    rw [List.foldl_cons, List.foldl_cons, hq]
    exact ih _ q'

theorem manage_agrees (s : Service) (q : Option (Token × Poller)) (e : Manager.Event) :
    Agrees (s.manage e) ((s.withPoller q).manage e) := by
  obtain ⟨q', hq⟩ := withPoller_obeys (s.withManager (s.manager.step e).1) q (s.manager.step e).2
  exact ⟨q', hq, rfl⟩

theorem withPoller_heeds (s : Service) (q : Option (Token × Poller)) (out : List Feed.Output) :
    out.foldl heed (s.withPoller q) = (out.foldl heed s).withPoller q := by
  induction out generalizing s with
  | nil => rfl
  | cons o out ih =>
    have ho : (s.withPoller q).heed o = (s.heed o).withPoller q := by cases o <;> rfl
    rw [List.foldl_cons, List.foldl_cons, ho, ih]

theorem feedTurn_agrees (s : Service) (q : Option (Token × Poller)) (k : Token) (f : Feed)
    (now : Nat) (answer : Option Feed.Answer) :
    Agrees (s.feedTurn k f now answer) ((s.withPoller q).feedTurn k f now answer) :=
  ⟨q, withPoller_heeds { s with feed := _ } q _, rfl⟩

def Event.isSampling : Event → Bool
  | .poller _ _ => true
  | .joined .poller => true
  | _ => false

/-- Nothing but the poller's own turn and its end depends on it. -/
theorem step_agrees (s : Service) (q : Option (Token × Poller)) {e : Event}
    (he : e.isSampling = false) : Agrees (s.step e) ((s.withPoller q).step e) := by
  have same {r : Service × List Output} : Agrees r (r.1.withPoller q, r.2) := ⟨q, rfl, rfl⟩
  -- Outputs that come before those of a part that agrees.
  have behind {r r' : Service × List Output} (out : List Output) (h : Agrees r r') :
      Agrees (r.1, out ++ r.2) (r'.1, out ++ r'.2) := by
    obtain ⟨q', hs, ho⟩ := h
    exact ⟨q', hs, by rw [List.filterMap_append, List.filterMap_append, ho]⟩
  cases e with
  | start k =>
    show Agrees (if s.isIdle then _ else _) (if s.isIdle then _ else _)
    split
    · exact manage_agrees s q _
    · exact same
  | shutDown =>
    show Agrees (if s.isIdle then _ else _) (if s.isIdle then _ else _)
    split
    · exact manage_agrees s q _
    · exact same
  | giveUp => exact manage_agrees (s.tell (.drop closeTicket)) q .giveUp
  | wait now answer =>
    unfold step
    dsimp only [withPoller]
    split
    · exact manage_agrees s q _
    · exact same
  | joined t =>
    cases t with
    | poller => cases he
    | feed =>
      unfold step
      have hended : (s.withPoller q).ended? .feed = s.ended? .feed := rfl
      dsimp only
      rw [hended]
      split
      · show Agrees (if Manager.Task.feed ∈ s.manager.tasks then _ else _)
          (if Manager.Task.feed ∈ s.manager.tasks then _ else _)
        split
        · exact manage_agrees s q _
        · exact same
      · exact same
  | close w =>
    unfold step
    dsimp only [withPoller]
    split
    · exact behind _ same
    · exact behind _ (manage_agrees _ q _)
  | cancel k => exact ⟨_, rfl, rfl⟩
  | notify => exact ⟨q, rfl, rfl⟩
  | lapse id => exact ⟨q, rfl, rfl⟩
  | feed now answer =>
    unfold step
    dsimp only [withPoller]
    split
    · exact same
    · exact same
    · exact feedTurn_agrees s q _ _ _ _
  | reconnect now w =>
    unfold step
    dsimp only [withPoller]
    split
    · split
      · exact behind _ (feedTurn_agrees _ q _ _ _ _)
      · exact same
    · exact same
  | poller now answer => cases he
  | guestAsks n kind => exact ⟨q, rfl, rfl⟩
  | guest n w => exact ⟨q, rfl, rfl⟩
  | guestLeaves n => exact ⟨q, rfl, rfl⟩

/-! ### The poller's own events -/

/-- Where the poller gets its turn nothing else happens. -/
theorem step_poller (s : Service) (now : Nat) (answer : Option Poller.Answer) :
    ∃ q, (s.step (.poller now answer)).1 = s.withPoller q ∧
      (s.step (.poller now answer)).2.filterMap Output.sight? = [] := by
  unfold step
  dsimp only
  split
  · refine ⟨_, rfl, ?_⟩
    show (List.map _ _).filterMap _ = []
    rw [List.filterMap_map]
    exact List.filterMap_eq_nil_iff.mpr fun o _ => rfl
  · exact ⟨s.poller, rfl, rfl⟩

/-- A poller that a shutdown waits for ends in its next turn. -/
theorem ended_poller (hs : Crew s) (hc : s.manager.call = .joining)
    (ht : .poller ∈ s.manager.tasks) (now : Nat) :
    ∃ broken, (s.step (.poller now (some .recorded))).1.ended? .poller = some broken := by
  obtain ⟨x, hx⟩ := Option.isSome_iff_exists.mp (hs.launched _ ht .poller)
  obtain ⟨⟨k, p⟩, hp, rfl⟩ := Option.map_eq_some_iff.mp hx
  obtain ⟨hk, hcancelled⟩ := hs.token _ _ hx
  have hcancelled : p.cancelled = true := hcancelled.trans (hs.shutting (.inl hc) k hk)
  have hended : (p.turn now s.connection.slot (some .recorded)).1.isEnded = true := by
    rcases Poller.turn_of_cancelled hcancelled now s.connection.slot (some .recorded) with
      h | ⟨h, hended | ⟨-, hne, -⟩⟩
    · exact h.ended
    · rw [h]
      exact hended
    · exact absurd rfl hne
  have hstep : (s.step (.poller now (some .recorded))).1 =
      s.withPoller (some (k, (p.turn now s.connection.slot (some .recorded)).1)) := by
    unfold step
    dsimp only
    rw [hp]
    rfl
  rw [hstep]
  exact ⟨_, if_pos hended⟩

theorem Agrees.trans {r r' r'' : Service × List Output} (h : Agrees r r') (h' : Agrees r' r'') :
    Agrees r r'' := by
  obtain ⟨q, hs, ho⟩ := h
  obtain ⟨q', hs', ho'⟩ := h'
  exact ⟨q', by rw [hs', hs]; rfl, ho'.trans ho⟩

/-- It only makes a difference to the log how a task has ended. -/
theorem joined_agrees (s : Service) (t : Manager.Task) (broken broken' : Bool) :
    Agrees (s.manage (.joined t broken)) (s.manage (.joined t broken')) := by
  have logged (b : Bool) (s' : Service) (e : LogEntry) (rest : List Manager.Output) :
      ((if b then [Manager.Output.log e] else []) ++ rest).foldl obey s' = rest.foldl obey s' ∧
        (((if b then [Manager.Output.log e] else []) ++ rest).map Output.manager).filterMap
          Output.sight? = (rest.map Output.manager).filterMap Output.sight? := by
    cases b <;> exact ⟨rfl, rfl⟩
  unfold manage Manager.step Manager.joined
  dsimp only
  split
  · exact ⟨_, (logged broken' _ _ _).1.trans (logged broken _ _ _).1.symm,
      (logged broken' s _ _).2.trans (logged broken s _ _).2.symm⟩
  · exact ⟨s.poller, rfl, rfl⟩

/-- A shutdown sees the end of the poller where it is there to be seen. -/
theorem joined_poller_agrees (s : Service) (q : Option (Token × Poller))
    (h : .poller ∈ s.manager.tasks →
      (s.ended? .poller).isSome = true ∧ ((s.withPoller q).ended? .poller).isSome = true) :
    Agrees (s.step (.joined .poller)) ((s.withPoller q).step (.joined .poller)) := by
  have same : Agrees (s, []) (s.withPoller q, []) := ⟨q, rfl, rfl⟩
  by_cases ht : .poller ∈ s.manager.tasks
  · have ht' : .poller ∈ (s.withPoller q).manager.tasks := ht
    obtain ⟨hb, hb'⟩ := h ht
    obtain ⟨broken, hb⟩ := Option.isSome_iff_exists.mp hb
    obtain ⟨broken', hb'⟩ := Option.isSome_iff_exists.mp hb'
    simp only [step, hb, hb', ht, ht', if_true]
    exact (manage_agrees s q _).trans (joined_agrees _ _ _ _)
  · -- The shutdown has seen its end before, or there was none.
    have ht' : .poller ∉ (s.withPoller q).manager.tasks := ht
    have still (s' : Service) (hn : .poller ∉ s'.manager.tasks) :
        s'.step (.joined .poller) = (s', []) := by
      unfold step
      dsimp only
      split
      · exact if_neg hn
      · rfl
    rw [still s ht, still _ ht']
    exact same

/-! ### Moments -/

def AgreesOn (s s' : Service) (es : List Event) : Prop :=
  s'.sights es = s.sights es ∧ ∃ q, s'.after es = (s.after es).withPoller q

theorem AgreesOn.nil (s : Service) (q : Option (Token × Poller)) :
    AgreesOn s (s.withPoller q) [] := ⟨rfl, q, rfl⟩

theorem AgreesOn.cons {e : Event} {es : List Event}
    (h : Agrees (s.step e) ((s.withPoller q).step e))
    (hrest : ∀ q', ((s.withPoller q).step e).1 = (s.step e).1.withPoller q' →
      AgreesOn (s.step e).1 ((s.step e).1.withPoller q') es) :
    AgreesOn s (s.withPoller q) (e :: es) := by
  obtain ⟨q', hs, ho⟩ := h
  obtain ⟨hsights, q'', hafter⟩ := hrest q' hs
  refine ⟨?_, q'', ?_⟩
  · unfold sights
    rw [ho, hs, hsights]
    rfl
  · show ((s.withPoller q).step e).1.after es = _
    rw [hs]
    exact hafter

theorem AgreesOn.single {e : Event} (he : e.isSampling = false) :
    AgreesOn s (s.withPoller q) [e] := .cons (step_agrees s q he) fun q' _ => .nil _ q'

theorem join_agrees (hs : Crew s) (hq : Crew (s.withPoller q)) (hc : s.manager.call = .joining)
    (now : Nat) :
    AgreesOn s (s.withPoller q)
      [.poller now (some .recorded), .joined .poller, .joined .feed] := by
  obtain ⟨q₁, h₁, ho₁⟩ := s.step_poller now (some .recorded)
  obtain ⟨q₂, h₂, ho₂⟩ := (s.withPoller q).step_poller now (some .recorded)
  -- Both pollers end in this turn, so that the shutdown sees both ends in the next event.
  have hpoller : Agrees (s.step (.poller now (some .recorded)))
      ((s.withPoller q).step (.poller now (some .recorded))) :=
    ⟨q₂, by rw [h₁, h₂]; rfl, ho₂.trans ho₁.symm⟩
  refine .cons hpoller fun q' hq' => .cons (joined_poller_agrees _ q' fun ht => ?_) fun q'' _ =>
    .single rfl
  rw [← hq']
  have ht : .poller ∈ s.manager.tasks := by rwa [h₁] at ht
  obtain ⟨broken, hb⟩ := ended_poller hs hc ht now
  obtain ⟨broken', hb'⟩ := ended_poller hq hc ht now
  rw [hb, hb']
  exact ⟨rfl, rfl⟩

namespace Timed

def withPoller (w : Timed) (q : Option (Token × Poller)) : Timed :=
  { w with service := w.service.withPoller q }

variable {n : Surroundings} {w : Timed} {m : Moment}

theorem events_agree (hs : Crew w.service) (hq : Crew (w.service.withPoller q))
    (hm : m.isSampling = false) :
    AgreesOn w.service (w.service.withPoller q) (w.events n m) := by
  obtain ⟨now, beat⟩ := m
  cases beat with
  | poller answer => cases hm
  | join =>
    unfold events
    dsimp only
    split
    · rename_i hc
      exact join_agrees hs hq hc now
    · exact .nil _ q
  | feed =>
    unfold events
    dsimp only
    split
    · split <;> exact .single rfl
    · exact .nil _ q
  | _ => exact .single rfl

theorem note_withPoller (now : Nat) (w : Timed) (q : Option (Token × Poller)) (x : Sight) :
    note now (w.withPoller q) x = (note now w x).withPoller q := by
  unfold note
  split <;> rfl

theorem notes_withPoller (now : Nat) (w : Timed) (q : Option (Token × Poller)) (xs : List Sight) :
    xs.foldl (note now) (w.withPoller q) = (xs.foldl (note now) w).withPoller q := by
  induction xs generalizing w with
  | nil => rfl
  | cons x xs ih => rw [List.foldl_cons, List.foldl_cons, note_withPoller, ih]

/-- The same is seen at a moment, whatever the poller is about. -/
theorem moment_agrees (hs : Crew w.service) (hq : Crew (w.service.withPoller q))
    (hm : m.isSampling = false) :
    (w.withPoller q).seen n m = w.seen n m ∧
      ∃ q', (w.withPoller q).step n m = (w.step n m).withPoller q' := by
  obtain ⟨hsights, q', hafter⟩ := events_agree (n := n) hs hq hm
  have hseen : (w.withPoller q).seen n m = w.seen n m := hsights
  refine ⟨hseen, q', ?_⟩
  unfold step
  rw [hseen]
  have hservice : ({ w.withPoller q with
      service := (w.withPoller q).service.after ((w.withPoller q).events n m) } : Timed) =
      ({ w with service := w.service.after (w.events n m) } : Timed).withPoller q' :=
    congrArg (fun service => ({ w with service } : Timed)) hafter
  rw [hservice, notes_withPoller]

/-- Nothing is seen as the poller gets its turn. -/
theorem sampling_agrees (hm : m.isSampling = true) :
    w.seen n m = [] ∧ ∃ q, w.step n m = w.withPoller q := by
  obtain ⟨now, beat⟩ := m
  cases beat with
  | poller answer =>
    obtain ⟨q, hs, ho⟩ := w.service.step_poller now answer
    have hseen : w.seen n ⟨now, .poller answer⟩ = [] := by
      show (w.service.step (.poller now answer)).2.filterMap _ ++ changes _ _ ++ [] = []
      rw [ho, hs]
      simp [changes, Service.withPoller]
    refine ⟨hseen, q, ?_⟩
    unfold step
    rw [hseen]
    exact congrArg (fun service => ({ w with service } : Timed)) hs
  | _ => cases hm

theorem service_notes (now : Nat) (w : Timed) (xs : List Sight) :
    (xs.foldl (note now) w).service = w.service := by
  induction xs generalizing w with
  | nil => rfl
  | cons x xs ih =>
    rw [List.foldl_cons, ih]
    unfold note
    split <;> rfl

theorem crew_step (hs : Crew w.service) (m : Moment) : Crew (w.step n m).service := by
  unfold step
  rw [service_notes]
  exact run_induction (fun _ e h => h.step e) hs _

theorem after_cons (n : Surroundings) (w : Timed) (m : Moment) (ms : List Moment) :
    w.after n (m :: ms) = (w.step n m).after n ms := rfl

/-- A run is seen as if the poller got no turn but for its end. -/
theorem history_without (hs : Crew w.service) (hq : Crew (w.service.withPoller q))
    (ms : List Moment) :
    (w.withPoller q).history n ms = w.history n (ms.filter (!·.isSampling)) ∧
      ∃ q', (w.withPoller q).after n ms =
        (w.after n (ms.filter (!·.isSampling))).withPoller q' := by
  -- The poller is another after each moment, so the induction is for all of them.
  induction ms generalizing w q with
  | nil => exact ⟨rfl, q, rfl⟩
  | cons m ms ih =>
    have hq' := crew_step (n := n) (w := w.withPoller q) hq m
    cases hm : m.isSampling with
    | true =>
      obtain ⟨hseen, q', hstep⟩ := sampling_agrees (n := n) (w := w.withPoller q) hm
      have hsame : (w.withPoller q).step n m = w.withPoller q' := hstep
      rw [hsame] at hq'
      rw [List.filter_cons_of_neg (by simp [hm]), history, hseen, after_cons, hsame]
      exact ih hs hq'
    | false =>
      obtain ⟨hseen, q', hstep⟩ := moment_agrees (n := n) hs hq hm
      rw [hstep] at hq'
      obtain ⟨hhistory, hafter⟩ := ih (crew_step (n := n) hs m) hq'
      rw [List.filter_cons_of_pos (by simp [hm]), history, history, hseen, after_cons, after_cons,
        hstep, hhistory]
      exact ⟨rfl, hafter⟩

/-- Two runs of a service in the same surroundings, in which the same happens and the same turns are
had at the same times, but for the poller, whose turns may come at any time and with any answers.
The same is seen of both at the same times: all that the feed asks for, the calls of its handler,
all requests of the connection and every change of its slot and state. -/
theorem sampling_interferes_nowhere (n : Surroundings) (config : Config) (first : ClientId)
    (ms ms' : List Moment) (h : ms'.filter (!·.isSampling) = ms.filter (!·.isSampling)) :
    (opened config first).history n ms' = (opened config first).history n ms ∧
      ∃ q, ((opened config first).after n ms').service =
        ((opened config first).after n ms).service.withPoller q := by
  have hs : Crew (opened config first).service := .opened config first
  obtain ⟨hseen, q, hafter⟩ := history_without (q := none) (n := n) hs hs ms
  obtain ⟨hseen', q', hafter'⟩ := history_without (q := none) (n := n) hs hs ms'
  have hopened : (opened config first).withPoller none = opened config first := rfl
  rw [hopened] at hseen hafter hseen' hafter'
  rw [h] at hseen' hafter'
  refine ⟨hseen'.trans hseen.symm, q', ?_⟩
  rw [hafter', hafter]
  rfl

/-- The node is synced and grants whatever it is asked for. -/
def obliging : Surroundings where
  info _ _ _ := some (.ok { isSynced := true })
  register _ _ _ := some (.ok ⟨1, true⟩)
  connect _ _ := some (.ok 8)
  reconnect _ _ _ := some (.ok ())
  disconnect _ _ _ := true
  handles _ := true

/-- The tasks are started, and the poller begins a sample. -/
def launching : List Moment := [
  ⟨0, .start 5⟩, ⟨0, .wait⟩, ⟨0, .wait⟩, ⟨0, .feed⟩, ⟨0, .feed⟩, ⟨0, .feed⟩, ⟨0, .poller none⟩,
  ⟨30000, .poller none⟩]

/-- There is new work, and a shutdown. -/
def leaving : List Moment := [
  ⟨31000, .notify⟩, ⟨31000, .feed⟩, ⟨31000, .feed⟩, ⟨31000, .shutDown⟩, ⟨31000, .feed⟩,
  ⟨31000, .join⟩, ⟨31000, .close⟩, ⟨31000, .close⟩]

/-- The sample takes long and the recorder breaks off. -/
def breaking : List Moment := [
  ⟨30500, .poller (some (.dag (.ok { tipHashes := ["aa"] })))⟩,
  ⟨30600, .poller (some (.estimate (.ok 1)))⟩, ⟨30600, .poller (some .crashed)⟩]

/-- The node does not answer, or the poller breaks off; there is the same work at the same time. -/
theorem work_without_samples :
    (launching ++ leaving).filter (!·.isSampling) =
        (launching ++ breaking ++ leaving).filter (!·.isSampling) ∧
      (((opened {} 7).after obliging launching).service.poller.any (·.2.isEnded)) = false ∧
      (((opened {} 7).after obliging (launching ++ breaking)).service.poller.any (·.2.isEnded)) =
        true ∧
      ((opened {} 7).history obliging (launching ++ leaving))[12]? =
        some (31000, .feed (.work .push)) ∧
      (opened {} 7).history obliging (launching ++ leaving) =
        (opened {} 7).history obliging (launching ++ breaking ++ leaving) :=
  ⟨rfl, rfl, rfl, rfl, (sampling_interferes_nowhere obliging {} 7 _ _ rfl).1⟩

end Timed

end Service
end WorkBridge
