import WorkBridge.Proofs.Service.Machine

/-!
What can happen in a service: `step_cases`, and for the manager in it `manage_cases`.
-/

namespace WorkBridge.Service

open Connection (Supervisor)
open Manager (Token)
open Node (ClientId)
open Stats (Poller)

def withManager (s : Service) (manager : Manager) : Service := { s with manager }

/-- The service with the tasks of a start launched. -/
def launched (s : Service) (token : Token) : Service :=
  { s with
    manager := (s.manager.launch token).1
    feed := some (token,
      { settings := s.manager.feedSettings, cancelled := s.cancelled.contains token })
    poller := some (token,
      { settings := s.manager.pollerSettings, cancelled := s.cancelled.contains token }) }

/-- The service with the token of the start, if there is one, cancelled. -/
def cancelStart (s : Service) : Service :=
  match s.manager.token with
  | some token => s.cancel token
  | none => s

def askClose (s : Service) : Service := s.tell (.ask closeTicket .close)

/-- What the wait of a start says, and then the manager. -/
def waitOutputs (out : List Sync.Wait.Output) (rest : List Manager.Output) : List Output :=
  (out.map Manager.Output.ofWait ++ rest).map .manager

inductive Managed (s : Service) : Manager.Event → Service × List Output → Prop
  | ignored (e : Manager.Event) (he : s.manager.ignores e) : Managed s e (s, [])
  | refused (k : Token) (ht : s.manager.token.isSome = true) :
    Managed s (.start k) (s, [.manager (.started (.error .alreadyStarted))])
  | begun (k : Token) (ht : s.manager.token = none) :
    Managed s (.start k)
      (s.withManager { s.manager with token := some k, call := .starting k s.manager.wait }, [])
  | gaveUp : Managed s .giveUp (s.withManager { s.manager with call := .idle }, [])
  | waits (t : Sync.Wait.Turn) (k : Token) (wait : Sync.Wait)
      (hc : s.manager.call = .starting k wait) (hw : (wait.step t).1.Open) :
    Managed s (.turn t)
      (s.withManager { s.manager with call := .starting k (wait.step t).1 },
        waitOutputs (wait.step t).2 [])
  | failed (t : Sync.Wait.Turn) (k : Token) (wait : Sync.Wait) (e : Node.Error)
      (hc : s.manager.call = .starting k wait) (hw : (wait.step t).1.point = .done (.error e)) :
    Managed s (.turn t)
      (s.withManager { s.manager with call := .idle },
        waitOutputs (wait.step t).2 [.started (.error (.node e))])
  | launched (t : Sync.Wait.Turn) (k : Token) (wait : Sync.Wait)
      (hc : s.manager.call = .starting k wait) (hw : (wait.step t).1.point = .done (.ok ())) :
    Managed s (.turn t)
      (s.launched k, waitOutputs (wait.step t).2 (s.manager.launch k).2)
  | joining (ht : s.manager.tasks ≠ []) :
    Managed s .shutDown
      ((s.withManager { s.manager with call := .joining }).cancelStart,
        s.manager.shutDown.2.map .manager)
  | closing (ht : s.manager.tasks = []) :
    Managed s .shutDown
      ((s.withManager { s.manager with call := .closing }).cancelStart.askClose,
        s.manager.shutDown.2.map .manager)
  | joined (t : Manager.Task) (broken : Bool) (hc : s.manager.call = .joining)
      (ht : s.manager.tasks.erase t ≠ []) :
    Managed s (.joined t broken)
      (s.withManager { s.manager with tasks := s.manager.tasks.erase t, call := .joining },
        (s.manager.joined t broken).2.map .manager)
  | joinedLast (t : Manager.Task) (broken : Bool) (hc : s.manager.call = .joining)
      (ht : s.manager.tasks.erase t = []) :
    Managed s (.joined t broken)
      ((s.withManager
          { s.manager with tasks := s.manager.tasks.erase t, call := .closing }).askClose,
        (s.manager.joined t broken).2.map .manager)
  | closed (hc : s.manager.call = .closing) (e : LogEntry) :
    Managed s .closed
      (s.withManager { s.manager with call := .idle }, [.manager (.log e), .manager .stopped])

variable {s : Service}

theorem obey_waits (s : Service) (out : List Sync.Wait.Output) :
    (out.map Manager.Output.ofWait).foldl obey s = s := by
  induction out with
  | nil => rfl
  | cons o out ih => cases o <;> exact ih

theorem obey_cancels (s : Service) :
    ((s.manager.token.map Manager.Output.cancel).toList).foldl obey s = s.cancelStart := by
  unfold cancelStart
  cases s.manager.token <;> rfl

theorem manage_cases (s : Service) (e : Manager.Event) : Managed s e (s.manage e) := by
  have hm := s.manager.step_moved e
  unfold manage
  generalize s.manager.step e = r at hm ⊢
  cases hm with
  | ignored e he => exact .ignored e he
  | refused k ht => exact .refused k ht
  | begun k ht => exact .begun k ht
  | gaveUp => exact .gaveUp
  | waits t k wait hc hw =>
    dsimp only
    rw [obey_waits]
    have h := Managed.waits (s := s) t k wait hc hw
    rw [waitOutputs, List.append_nil] at h
    exact h
  | failed t k wait e hc hw =>
    dsimp only
    rw [List.foldl_append, obey_waits]
    exact .failed t k wait e hc hw
  | launched t k wait hc hw =>
    dsimp only
    rw [List.foldl_append, obey_waits]
    exact .launched t k wait hc hw
  | shutDown =>
    have hobey := obey_cancels (s.withManager s.manager.shutDown.1)
    rcases s.manager.closeAfterTasks_cases with ⟨ht, hm⟩ | ⟨ht, hm⟩
    · have h := Managed.closing (s := s) ht
      simp only [Manager.shutDown, hm] at h hobey ⊢
      rw [List.foldl_append]
      exact hobey ▸ h
    · have h := Managed.joining (s := s) ht
      simp only [Manager.shutDown, hm, List.append_nil] at h hobey ⊢
      exact hobey ▸ h
  | joined t broken hc =>
    have hlog (s : Service) (e : LogEntry) (rest : List Manager.Output) :
        ((if broken then [Manager.Output.log e] else []) ++ rest).foldl obey s =
          rest.foldl obey s := by
      cases broken <;> rfl
    rcases Manager.closeAfterTasks_cases { s.manager with tasks := s.manager.tasks.erase t } with
      ⟨ht, hm⟩ | ⟨ht, hm⟩
    · have h := Managed.joinedLast (s := s) t broken hc ht
      simp only [Manager.joined, hm] at h ⊢
      rw [hlog]
      exact h
    · have h := Managed.joined (s := s) t broken hc ht
      simp only [Manager.joined, hm] at h ⊢
      rw [hlog]
      exact h
  | closed hc => exact .closed hc _

theorem manage_closed (hc : s.manager.call = .closing) :
    s.manage .closed = (s.withManager { s.manager with call := .idle },
      [.manager (.log (Manager.entry .info "Node manager stopped" [])), .manager .stopped]) := by
  unfold manage Manager.step
  rw [hc]
  rfl

/-! ### All that can happen -/

theorem step_shutDown (hi : s.isIdle = true) : s.step .shutDown = s.manage .shutDown := by
  simp [step, hi]

/-- What the connection does as a call goes on. -/
def wake (s : Service) (ticket : Nat) (w : Wake) : List Supervisor.Effect :=
  (s.connection.step (w.event ticket)).2

/-- What an event tells the connection, where it lets a call go on. -/
def woken? (s : Service) : Event → Option Supervisor.Event
  | .close w => some (w.event closeTicket)
  | .reconnect _ w =>
    if s.feed.any fun t => t.2.point = .reconnecting ∧ t.2.cancelled = false then
      some (w.event feedTicket)
    else none
  | .guest n w => some (w.event (guestTicket n))
  | _ => none

/-- Calls of the manager are only made while none is under way. -/
def ignores (s : Service) : Event → Prop
  | .start _ => s.isIdle = false
  | .shutDown => s.isIdle = false
  | .giveUp => False
  | e => s.woken? e = none

inductive Stepped (s : Service) : Event → Service × List Output → Prop
  | idle (e : Event) (he : s.ignores e) : Stepped s e (s, [])
  | start (k : Token) (hi : s.isIdle = true) : Stepped s (.start k) (s.manage (.start k))
  | shutDown (hi : s.isIdle = true) : Stepped s .shutDown (s.manage .shutDown)
  | giveUp : Stepped s .giveUp ((s.tell (.drop closeTicket)).manage .giveUp)
  | wait (now : Nat) (answer : Option (Except Node.ClientError Node.Info)) (k : Token)
      (wait : Sync.Wait) (hc : s.manager.call = .starting k wait) :
    Stepped s (.wait now answer)
      (s.manage (.turn ⟨now, s.cancelled.contains k, s.connection.slot, answer⟩))
  | joined (t : Manager.Task) (broken : Bool) (hb : s.ended? t = some broken) :
    Stepped s (.joined t) (s.manage (.joined t broken))
  | close (w : Wake) (hr : Supervisor.results (s.wake closeTicket w) = []) :
    Stepped s (.close w)
      (s.tell (w.event closeTicket), (s.wake closeTicket w).map .connection)
  | closed (w : Wake) (hr : Supervisor.results (s.wake closeTicket w) ≠ []) :
    Stepped s (.close w)
      (((s.tell (w.event closeTicket)).manage .closed).1,
        (s.wake closeTicket w).map .connection ++ ((s.tell (w.event closeTicket)).manage .closed).2)
  | cancel (k : Token) : Stepped s (.cancel k) (s.cancel k, [])
  | noted (e : Event) (n : Feed.Stimulus) (hn : n ≠ .cancel)
      (hq : ∀ f : Feed, (f.step n).1.point = f.point) (hw : s.woken? e = none)
      (hg : e ≠ .giveUp) (hl : n = .notify ∨ ∃ id, n = .lapse id) :
    Stepped s e ({ s with feed := s.feed.map fun t => (t.1, (t.2.step n).1) }, [])
  | feed (now : Nat) (answer : Option Feed.Answer) (k : Token) (f : Feed)
      (hs : s.feed = some (k, f)) (ha : ∀ i, answer ≠ some (.reconnected i)) :
    Stepped s (.feed now answer) (s.feedTurn k f now answer)
  | reconnect (now : Nat) (w : Wake) (k : Token) (f : Feed) (hs : s.feed = some (k, f))
      (hp : f.point = .reconnecting) (hc : f.cancelled = false) :
    Stepped s (.reconnect now w)
      (((s.tell (w.event feedTicket)).feedTurn k f now (outcome? (s.wake feedTicket w))).1,
        (s.wake feedTicket w).map .connection ++
          ((s.tell (w.event feedTicket)).feedTurn k f now (outcome? (s.wake feedTicket w))).2)
  | poller (now : Nat) (answer : Option Poller.Answer) (k : Token) (p : Poller)
      (hs : s.poller = some (k, p)) : Stepped s (.poller now answer) (s.pollerTurn k p now answer)
  | guestAsks (n : Nat) (kind : Connection.Kind) :
    Stepped s (.guestAsks n kind) (s.tell (.ask (guestTicket n) kind), [])
  | guest (n : Nat) (w : Wake) :
    Stepped s (.guest n w)
      (s.tell (w.event (guestTicket n)), (s.wake (guestTicket n) w).map .connection)
  | guestLeaves (n : Nat) : Stepped s (.guestLeaves n) (s.tell (.drop (guestTicket n)), [])

theorem stepped_close (s : Service) (w : Wake) : Stepped s (.close w) (s.step (.close w)) := by
  by_cases hr : Supervisor.results (s.wake closeTicket w) = []
  · have h : s.step (.close w) =
        (s.tell (w.event closeTicket), (s.wake closeTicket w).map .connection) := by
      unfold wake at hr
      simp only [step, hr, if_true, List.append_nil]
      rfl
    rw [h]
    exact .close w hr
  · have h : s.step (.close w) = (((s.tell (w.event closeTicket)).manage .closed).1,
        (s.wake closeTicket w).map .connection ++
          ((s.tell (w.event closeTicket)).manage .closed).2) := by
      have hr' := hr
      unfold wake at hr'
      simp only [step, hr', if_false]
      rfl
    rw [h]
    exact .closed w hr

/-- The feed is only asked about its reconnect while it has one under way. -/
theorem stepped_reconnect (s : Service) (now : Nat) (w : Wake) :
    Stepped s (.reconnect now w) (s.step (.reconnect now w)) := by
  unfold step
  dsimp only
  split
  · rename_i k f hs
    split
    · rename_i h
      exact .reconnect now w k f hs h.1 h.2
    · rename_i h
      exact .idle _ (by simpa [ignores, woken?, hs] using h)
  · rename_i hs
    exact .idle _ (by simp [ignores, woken?, hs])

theorem step_cases (s : Service) (e : Event) : Stepped s e (s.step e) := by
  cases e with
  | start k =>
    unfold step
    dsimp only
    split
    · exact .start k ‹_›
    · rename_i hi
      exact .idle _ (Bool.eq_false_iff.mpr hi)
  | shutDown =>
    unfold step
    dsimp only
    split
    · exact .shutDown ‹_›
    · rename_i hi
      exact .idle _ (Bool.eq_false_iff.mpr hi)
  | giveUp => exact .giveUp
  | wait now answer =>
    unfold step
    dsimp only
    split
    · rename_i k wait hc
      exact .wait now answer k wait hc
    · exact .idle _ rfl
  | joined t =>
    unfold step
    dsimp only
    split
    · rename_i broken hb
      split
      · exact .joined t broken hb
      · exact .idle _ rfl
    · exact .idle _ rfl
  | close w => exact stepped_close s w
  | cancel k => exact .cancel k
  | notify => exact .noted _ .notify nofun (fun _ => rfl) rfl nofun (.inl rfl)
  | lapse id =>
    refine .noted _ (.lapse id) nofun (fun f => ?_) rfl nofun (.inr ⟨id, rfl⟩)
    obtain ⟨held, hf⟩ := Feed.lapse_eq f id
    rw [Feed.step, hf]
  | feed now answer =>
    unfold step
    dsimp only
    split
    · exact .idle _ rfl
    · exact .idle _ rfl
    · rename_i k f hs ha
      exact .feed now _ k f hs ha
  | reconnect now w => exact stepped_reconnect s now w
  | poller now answer =>
    unfold step
    dsimp only
    split
    · rename_i k p hs
      exact .poller now answer k p hs
    · exact .idle _ rfl
  | guestAsks n kind => exact .guestAsks n kind
  | guest n w => exact .guest n w
  | guestLeaves n => exact .guestLeaves n

/-! ### All that can be put out -/

/-- Where an output of a step comes from. -/
inductive Emitted (s : Service) (e : Event) : Output → Prop
  | manager {o : Manager.Output} (e' : Manager.Event) (ho : o ∈ (s.manager.step e').2)
      (hc : e' = .closed →
        ∃ w, e = .close w ∧ Supervisor.results (s.wake closeTicket w) ≠ []) :
    Emitted s e (.manager o)
  | connection (x : Supervisor.Effect) : Emitted s e (.connection x)
  | feed {o : Feed.Output} (k : Token) (f : Feed) (n : Feed.Stimulus) (hs : s.feed = some (k, f))
      (ho : o ∈ (f.step n).2) : Emitted s e (.feed o)
  | poller {o : Poller.Output} (k : Token) (p : Poller) (n : Poller.Stimulus)
      (hs : s.poller = some (k, p)) (ho : o ∈ (p.step n).2) : Emitted s e (.poller o)

theorem step_emits (s : Service) (e : Event) : ∀ o ∈ (s.step e).2, Emitted s e o := by
  have managed (s' : Service) (e' : Manager.Event) (hm : s'.manager = s.manager)
      (hc : e' = .closed →
        ∃ w, e = .close w ∧ Supervisor.results (s.wake closeTicket w) ≠ []) :
      ∀ o ∈ (s'.manage e').2, Emitted s e o := by
    intro o ho
    obtain ⟨o', ho', rfl⟩ := List.mem_map.mp ho
    exact .manager e' (hm ▸ ho') hc
  have woken (u : Nat) (w : Wake) : ∀ o ∈ (s.wake u w).map Output.connection, Emitted s e o := by
    intro o ho
    obtain ⟨x, -, rfl⟩ := List.mem_map.mp ho
    exact .connection x
  have turns (s' : Service) {k : Token} {f : Feed} (hs : s.feed = some (k, f)) (now : Nat)
      (answer : Option Feed.Answer) :
      ∀ o ∈ (s'.feedTurn k f now answer).2, Emitted s e o := by
    intro o ho
    obtain ⟨o', ho', rfl⟩ := List.mem_map.mp ho
    exact .feed k f (.turn now s'.connection.slot answer) hs ho'
  have hs := s.step_cases e
  generalize s.step e = r at hs ⊢
  cases hs with
  | start k hi => exact managed s _ rfl nofun
  | shutDown hi => exact managed s _ rfl nofun
  | giveUp => exact managed _ .giveUp rfl nofun
  | wait now answer k wait hc => exact managed s _ rfl nofun
  | joined t broken hb => exact managed s _ rfl nofun
  | close w hr => exact woken _ w
  | closed w hr =>
    refine List.forall_mem_append.mpr ⟨woken _ w, ?_⟩
    exact managed (s.tell (w.event closeTicket)) .closed rfl fun _ => ⟨w, rfl, hr⟩
  | feed now answer k f hs ha => exact turns s hs now answer
  | reconnect now w k f hs hp hc =>
    exact List.forall_mem_append.mpr ⟨woken _ w, turns _ hs now _⟩
  | poller now answer k p hs =>
    intro o ho
    obtain ⟨o', ho', rfl⟩ := List.mem_map.mp ho
    exact .poller k p (.turn now s.connection.slot answer) hs ho'
  | guest n w => exact woken _ w
  | _ => exact List.forall_mem_nil _

end WorkBridge.Service
