import WorkBridge.Proofs.Service.Line

/-!
What launches the tasks of a service, and what keeps them quiet.

Only a start whose wait ends well launches them (`step_launches`).  The token of the first start
is kept for good (`token_after`), and once it is cancelled nothing is begun any more, neither by
tasks that there are nor by any that are launched after all (`Dismissed.step`).
-/

namespace WorkBridge.Service

open Connection (Supervisor)
open Manager (Token)
open Node (ClientId)
open Stats (Poller)

/-! ### The state of a service that runs -/

structure Sound (s : Service) : Prop where
  crew : Crew s
  lined : Lined s

theorem Sound.step {s : Service} (h : Sound s) (e : Event) : Sound (s.step e).1 :=
  ⟨h.crew.step e, h.lined.step h.crew e⟩

theorem sound (config : Config) (first : ClientId) (es : List Event) :
    Sound ((opened config first).after es) :=
  run_induction (fun _ e h => h.step e) ⟨.opened config first, .opened config first⟩ es

variable {s : Service} {e : Event} {k : Token}

/-! ### What is done for the tasks -/

namespace Output

/-- The task that is launched, with its token. -/
def spawned? : Output → Option (Manager.Task × Token)
  | .manager (.spawnFeed k _) => some (.feed, k)
  | .manager (.spawnPoller k _) => some (.poller, k)
  | _ => none

/-- Whether a task asks for something, or calls the handler or the recorder. -/
def isStart : Output → Bool
  | .feed o => o.isStart
  | .poller o => o.isStart
  | _ => false

end Output

def spawns (out : List Output) : List (Manager.Task × Token) := out.filterMap Output.spawned?

theorem spawns_append (out rest : List Output) : spawns (out ++ rest) = spawns out ++ spawns rest :=
  List.filterMap_append

theorem spawns_map {α : Type} (g : α → Output) (h : ∀ o, (g o).spawned? = none) (out : List α) :
    spawns (out.map g) = [] := by
  unfold spawns
  rw [List.filterMap_map]
  exact List.filterMap_eq_nil_iff.mpr fun o _ => h o

theorem spawns_waitOutputs (out : List Sync.Wait.Output) (rest : List Manager.Output) :
    spawns (waitOutputs out rest) = spawns (rest.map .manager) := by
  unfold waitOutputs
  rw [List.map_append, spawns_append]
  rw [List.map_map, spawns_map _ (fun o => by cases o <;> rfl), List.nil_append]

theorem spawns_shutDown (m : Manager) : spawns (m.shutDown.2.map .manager) = [] := by
  rcases m.closeAfterTasks_cases with ⟨-, hm⟩ | ⟨-, hm⟩ <;>
  · unfold Manager.shutDown
    rw [hm]
    cases m.token <;> rfl

theorem spawns_joined (m : Manager) (t : Manager.Task) (broken : Bool) :
    spawns ((m.joined t broken).2.map .manager) = [] := by
  rcases Manager.closeAfterTasks_cases { m with tasks := m.tasks.erase t } with
    ⟨-, hm⟩ | ⟨-, hm⟩ <;>
  · unfold Manager.joined
    rw [hm]
    cases broken <;> rfl

/-! ### The launch -/

/-- What holds of a task from one moment to the next. -/
def Later : Option Standing → Option Standing → Prop
  | none, none => True
  | some x, some y =>
    y.token = x.token ∧ (x.cancelled = true → y.cancelled = true) ∧
      (x.ended = true → y.ended = true)
  | _, _ => False

theorem Later.before {x y : Option Standing} (h : Later x y) {b : Standing} (hy : y = some b) :
    ∃ a, x = some a ∧ b.token = a.token ∧ (a.cancelled = true → b.cancelled = true) ∧
      (a.ended = true → b.ended = true) := by
  subst hy
  cases x with
  | none => exact h.elim
  | some a => exact ⟨a, rfl, h⟩

theorem Later.of_goes {x y : Option Standing} (h : Crew.Goes x y) : Later x y := by
  cases x <;> cases y <;> first | exact h | exact ⟨h.1, fun hc => h.2.1.trans hc, h.2.2⟩

theorem Later.refl (x : Option Standing) : Later x x := .of_goes (.refl x)

theorem Later.of_cancel (s : Service) (k : Token) (t : Manager.Task) :
    Later (s.task? t) ((s.cancel k).task? t) := by
  rw [Crew.task?_cancel]
  cases s.task? t with
  | none => trivial
  | some x =>
    show Later (some x) (some (if x.token = k then _ else _))
    split
    · exact ⟨rfl, fun _ => rfl, id⟩
    · exact .refl _

theorem Later.of_cancelStart (s : Service) (t : Manager.Task) :
    Later (s.task? t) (s.cancelStart.task? t) := by
  unfold cancelStart
  split
  · exact .of_cancel s _ t
  · exact .refl _

/-- The turn of a start in which the tasks are launched. -/
structure Launches (s : Service) (e : Event) (k : Token) (r : Service × List Output) : Prop where
  turn : ∃ now answer wait, e = .wait now answer ∧ s.manager.call = .starting k wait ∧
    (wait.step ⟨now, s.cancelled.contains k, s.connection.slot, answer⟩).1.point = .done (.ok ())
  launched : r.1 = s.launched k
  spawns : spawns r.2 = [(.feed, k), (.poller, k)]

/-- Nothing is launched, and the tasks go on. -/
structure Ordinary (s : Service) (r : Service × List Output) : Prop where
  spawns : spawns r.2 = []
  tasks : ∀ t ∈ r.1.manager.tasks, t ∈ s.manager.tasks
  later : ∀ t, Later (s.task? t) (r.1.task? t)

theorem manage_launches (s : Service) (e : Manager.Event) :
    Ordinary s (s.manage e) ∨
      ∃ t k wait, e = .turn t ∧ s.manager.call = .starting k wait ∧
        (wait.step t).1.point = .done (.ok ()) ∧ (s.manage e).1 = s.launched k ∧
        spawns (s.manage e).2 = [(.feed, k), (.poller, k)] := by
  have hm := s.manage_cases e
  generalize s.manage e = r at hm ⊢
  have same {s' : Service} {out : List Output} (ho : spawns out = [])
      (hm : ∀ t ∈ s'.manager.tasks, t ∈ s.manager.tasks) (ht : ∀ t, s'.task? t = s.task? t) :
      Ordinary s (s', out) :=
    ⟨ho, hm, fun t => ht t ▸ .refl _⟩
  have kept (m : Manager) (hm : m.tasks = s.manager.tasks) :
      ∀ t ∈ (s.withManager m).cancelStart.manager.tasks, t ∈ s.manager.tasks := by
    rw [Crew.cancelStart_manager, ← hm]
    exact fun _ => id
  have keep (m : Manager) (t : Manager.Task) : (s.withManager m).task? t = s.task? t := by
    cases t <;> rfl
  cases hm with
  | ignored e he => exact .inl (same rfl (fun _ => id) fun _ => rfl)
  | refused k ht => exact .inl (same rfl (fun _ => id) fun _ => rfl)
  | begun k ht => exact .inl (same rfl (fun _ => id) (keep _))
  | gaveUp => exact .inl (same rfl (fun _ => id) (keep _))
  | waits t k wait hc hw => exact .inl (same (spawns_waitOutputs _ _) (fun _ => id) (keep _))
  | failed t k wait e hc hw => exact .inl (same (spawns_waitOutputs _ _) (fun _ => id) (keep _))
  | launched t k wait hc hw =>
    exact .inr ⟨t, k, wait, rfl, hc, hw, rfl, spawns_waitOutputs _ _⟩
  | joining ht =>
    exact .inl ⟨spawns_shutDown _, kept _ rfl, fun t =>
      keep { s.manager with call := .joining } t ▸ .of_cancelStart _ t⟩
  | closing ht =>
    refine .inl ⟨spawns_shutDown _, kept { s.manager with call := .closing } rfl, fun t => ?_⟩
    have h := Later.of_cancelStart (s.withManager { s.manager with call := .closing }) t
    cases t <;> exact h
  | joined t broken hc ht =>
    exact .inl (same (spawns_joined _ _ _) (fun _ => List.mem_of_mem_erase) (keep _))
  | joinedLast t broken hc ht =>
    exact .inl (same (spawns_joined _ _ _) (fun _ => List.mem_of_mem_erase)
      fun t => by cases t <;> rfl)
  | closed hc e => exact .inl (same rfl (fun _ => id) (keep _))

theorem step_launches (s : Service) (e : Event) :
    Ordinary s (s.step e) ∨ ∃ k, Launches s e k (s.step e) := by
  have managed (e' : Manager.Event) (he : ∀ t, e' ≠ .turn t) (s' : Service)
      (hm : s'.manager = s.manager) (hs : ∀ t, s'.task? t = s.task? t) :
      Ordinary s (s'.manage e') := by
    rcases manage_launches s' e' with h | ⟨t, -, -, ht, -⟩
    · exact ⟨h.spawns, hm ▸ h.tasks, fun t => hs t ▸ h.later t⟩
    · exact absurd ht (he t)
  -- What the connection does makes no difference to the tasks.
  have told (e' : Supervisor.Event) (t : Manager.Task) : (s.tell e').task? t = s.task? t := by
    cases t <;> rfl
  have tells (e' : Supervisor.Event) (out : List Supervisor.Effect) :
      Ordinary s (s.tell e', out.map .connection) :=
    ⟨spawns_map _ (fun _ => rfl) out, fun _ => id, fun t => told e' t ▸ .refl _⟩
  have behind (w : Wake) (u : Nat) {r : Service × List Output} (h : Ordinary s r) :
      Ordinary s (r.1, (s.wake u w).map .connection ++ r.2) := by
    refine ⟨?_, h.tasks, h.later⟩
    rw [spawns_append, spawns_map _ (fun _ => rfl), List.nil_append]
    exact h.spawns
  have turns (s' : Service) (hm : s'.manager = s.manager) (hf : s'.feed = s.feed)
      (hp : s'.poller = s.poller) {k : Token} {f : Feed} (hs : s.feed = some (k, f)) (now : Nat)
      (answer : Option Feed.Answer) : Ordinary s (s'.feedTurn k f now answer) := by
    refine ⟨spawns_map _ (fun _ => rfl) _, ?_, fun t => ?_⟩
    · obtain ⟨connection, hr⟩ := Crew.feedTurn_frame s' k f now answer
      rw [hr, ← hm]
      exact fun _ => id
    · have hk : s'.task? t = s.task? t := by
        cases t <;> simp only [task?, hf, hp]
      rw [← hk]
      exact .of_goes (Crew.feedTurn_goes (hf.trans hs) now answer t)
  have hs := s.step_cases e
  generalize s.step e = r at hs ⊢
  cases hs with
  | idle e he => exact .inl ⟨rfl, fun _ => id, fun _ => .refl _⟩
  | start k hi => exact .inl (managed (.start k) (by simp) s rfl fun _ => rfl)
  | shutDown hi => exact .inl (managed .shutDown (by simp) s rfl fun _ => rfl)
  | giveUp => exact .inl (managed .giveUp (by simp) _ rfl (told _))
  | wait now answer k wait hc =>
    rcases manage_launches s (.turn ⟨now, s.cancelled.contains k, s.connection.slot, answer⟩) with
      h | ⟨t, k', wait', ht, hc', hw, hl, ho⟩
    · exact .inl h
    · cases ht
      exact .inr ⟨k', ⟨now, answer, wait', rfl, hc', by cases hc.symm.trans hc'; exact hw⟩, hl, ho⟩
  | joined t broken hb => exact .inl (managed (.joined t broken) (by simp) s rfl fun _ => rfl)
  | close w hr => exact .inl (tells _ _)
  | closed w hr =>
    exact .inl (behind w closeTicket (managed .closed (by simp) _ rfl (told _)))
  | cancel k => exact .inl ⟨rfl, fun _ => id, .of_cancel s k⟩
  | noted e n hn hq =>
    exact .inl ⟨rfl, fun _ => id, fun t => .of_goes (Crew.noted_goes s hn t)⟩
  | feed now answer k f hs ha => exact .inl (turns s rfl rfl rfl hs now answer)
  | reconnect now w k f hs hp hc =>
    exact .inl (behind w feedTicket (turns (s.tell (w.event feedTicket)) rfl rfl rfl hs now _))
  | poller now answer k p hs =>
    exact .inl ⟨spawns_map _ (fun _ => rfl) _, fun _ => id,
      fun t => .of_goes (Crew.pollerTurn_goes hs now answer t)⟩
  | guestAsks n kind => exact .inl (tells _ [])
  | guest n w => exact .inl (tells _ _)
  | guestLeaves n => exact .inl (tells _ [])

/-! ### What the manager is told -/

inductive Tells (s : Service) : Event → Manager.Event → Prop
  | start (k : Token) (hi : s.isIdle = true) : Tells s (.start k) (.start k)
  | shutDown (hi : s.isIdle = true) : Tells s .shutDown .shutDown
  | giveUp : Tells s .giveUp .giveUp
  | wait (now : Nat) (answer : Option (Except Node.ClientError Node.Info)) (k : Token)
      (wait : Sync.Wait) (hc : s.manager.call = .starting k wait) :
    Tells s (.wait now answer)
      (.turn ⟨now, s.cancelled.contains k, s.connection.slot, answer⟩)
  | joined (t : Manager.Task) (broken : Bool) : Tells s (.joined t) (.joined t broken)
  | closed (w : Wake) : Tells s (.close w) .closed

/-- The manager is told of something in a step, or left alone. -/
inductive Told (s : Service) (e : Event) : Service × List Output → Prop
  | told (s' : Service) (e' : Manager.Event) (before : List Output) (ht : s.Tells e e')
      (hm : s'.manager = s.manager) (hc : s'.cancelled = s.cancelled) :
    Told s e ((s'.manage e').1, before ++ (s'.manage e').2)
  | alone (r : Service × List Output) (hg : e ≠ .giveUp) (hm : r.1.manager = s.manager)
      (hc : ∀ k, s.cancelled.contains k = true → r.1.cancelled.contains k = true) : Told s e r

theorem step_told (s : Service) (e : Event) : Told s e (s.step e) := by
  have hs := s.step_cases e
  generalize s.step e = r at hs ⊢
  cases hs with
  | idle e he => exact .alone _ (fun hg => by rw [hg] at he; exact he) rfl fun _ => id
  | start k hi => exact .told s (.start k) [] (.start k hi) rfl rfl
  | shutDown hi => exact .told s .shutDown [] (.shutDown hi) rfl rfl
  | giveUp => exact .told _ .giveUp [] .giveUp rfl rfl
  | wait now answer k wait hc =>
    exact .told s (.turn _) [] (.wait now answer k wait hc) rfl rfl
  | joined t broken hb => exact .told s (.joined t broken) [] (.joined t broken) rfl rfl
  | close w hr => exact .alone _ nofun rfl fun _ => id
  | closed w hr => exact .told (s.tell (w.event closeTicket)) .closed _ (.closed w) rfl rfl
  | cancel k =>
    refine .alone _ nofun rfl fun k' h => ?_
    rw [Crew.cancelled_cancel, h, Bool.or_true]
  | noted e n hn hq hw hg => exact .alone _ hg rfl fun _ => id
  | feed now answer k f hs ha =>
    obtain ⟨connection, hr⟩ := Crew.feedTurn_frame s k f now answer
    exact .alone _ nofun (by rw [hr]) fun _ h => by rw [hr]; exact h
  | reconnect now w k f hs hp hc =>
    obtain ⟨connection, hr⟩ := Crew.feedTurn_frame (s.tell (w.event feedTicket)) k f now
      (outcome? (s.wake feedTicket w))
    exact .alone _ nofun (by rw [hr]; rfl) fun _ h => by rw [hr]; exact h
  | poller now answer k p hs => exact .alone _ nofun rfl fun _ => id
  | guestAsks n kind => exact .alone _ nofun rfl fun _ => id
  | guest n w => exact .alone _ nofun rfl fun _ => id
  | guestLeaves n => exact .alone _ nofun rfl fun _ => id

/-! ### The token of the first start -/

/-- The start that an event makes.  While a call is under way no other is made. -/
def begins (s : Service) : Event → Option Token
  | .start k => if s.isIdle then some k else none
  | _ => none

/-- The token of the first start that is made in a run. -/
def firstStart? (s : Service) : List Event → Option Token
  | [] => none
  | e :: es => (s.begins e).or ((s.step e).1.firstStart? es)

theorem step_start_of_some (hk : s.manager.token.isSome = true) (hi : s.isIdle = true)
    (k : Token) :
    s.step (.start k) = (s, [.manager (.started (.error .alreadyStarted))]) := by
  simp [step, manage, Manager.step, Manager.start, hk, hi, obey]

theorem step_start_of_none (hk : s.manager.token = none) (hi : s.isIdle = true) (k : Token) :
    s.step (.start k) = (s.withManager
      { s.manager with token := some k, call := .starting k s.manager.wait }, []) := by
  simp [step, manage, Manager.step, Manager.start, hk, hi, withManager]

theorem manage_token {e : Manager.Event} (he : ∀ k, e ≠ .start k) :
    (s.manage e).1.manager.token = s.manager.token := by
  have hm := s.manage_cases e
  generalize s.manage e = r at hm ⊢
  cases hm with
  | begun k ht => exact absurd rfl (he k)
  | joining ht =>
    show (cancelStart _).manager.token = _
    rw [Crew.cancelStart_manager]
    rfl
  | closing ht =>
    show (cancelStart _).manager.token = _
    rw [Crew.cancelStart_manager]
    rfl
  | _ => rfl

theorem token_step (s : Service) (e : Event) :
    (s.step e).1.manager.token = s.manager.token.or (s.begins e) := by
  by_cases he : ∃ k, e = .start k
  · obtain ⟨k, rfl⟩ := he
    unfold begins
    cases hi : s.isIdle with
    | false => simp [step, hi]
    | true =>
      cases hk : s.manager.token with
      | none =>
        rw [step_start_of_none hk hi]
        rfl
      | some k' =>
        rw [step_start_of_some (by rw [hk]; rfl) hi]
        exact hk
  · have hb : s.begins e = none := by
      unfold begins
      split
      · exact absurd ⟨_, rfl⟩ he
      · rfl
    rw [hb, Option.or_none]
    have hs := s.step_told e
    generalize s.step e = r at hs ⊢
    cases hs with
    | told s' e' before ht hm hc =>
      have hn : ∀ k, e' ≠ .start k := by
        rintro k rfl
        cases ht
        exact he ⟨k, rfl⟩
      exact (manage_token hn).trans (congrArg Manager.token hm)
    | alone r hg hm hc => rw [hm]

/-- The first token is kept for good. -/
theorem token_after (s : Service) (es : List Event) :
    (s.after es).manager.token = s.manager.token.or (s.firstStart? es) := by
  induction es generalizing s with
  | nil => exact (Option.or_none).symm
  | cons e es ih =>
    show ((s.step e).1.after es).manager.token = _
    rw [ih, token_step, Option.or_assoc]
    rfl

/-! ### The call of a start -/

theorem mem_waitOutputs {out : List Sync.Wait.Output} {c : ClientId} (h : .ask c ∈ out)
    (rest : List Manager.Output) : .manager (.query c) ∈ waitOutputs out rest := by
  refine List.mem_map.mpr ⟨.query c, List.mem_append_left _ ?_, rfl⟩
  exact List.mem_map.mpr ⟨.ask c, h, rfl⟩

theorem manage_starting {e : Manager.Event} {wait' : Sync.Wait}
    (h : (s.manage e).1.manager.call = .starting k wait') :
    e = .start k ∧ s.manager.token = none ∧ wait' = s.manager.wait ∨
      ∃ wait, s.manager.call = .starting k wait ∧ ∀ c, wait'.point = .asking c →
        wait.point = .asking c ∨
          ∃ t, e = .turn t ∧ t.slot = some c ∧ .manager (.query c) ∈ (s.manage e).2 := by
  have hm := s.manage_cases e
  generalize s.manage e = r at hm h ⊢
  cases hm with
  | ignored e he => exact .inr ⟨wait', h, fun c hc => .inl hc⟩
  | refused k' ht => exact .inr ⟨wait', h, fun c hc => .inl hc⟩
  | begun k' ht =>
    cases h
    exact .inl ⟨rfl, ht, rfl⟩
  | waits t k' wait hc hw =>
    cases h
    refine .inr ⟨wait, hc, fun c hp => ?_⟩
    exact (Sync.Wait.asked_of_asking hp).imp_right fun ⟨hslot, ha⟩ =>
      ⟨t, rfl, hslot, mem_waitOutputs ha []⟩
  | joining ht =>
    rw [show (cancelStart _).manager = _ from Crew.cancelStart_manager _] at h
    cases h
  | closing ht =>
    rw [show (askClose _).manager = _ from Crew.cancelStart_manager _] at h
    cases h
  | _ => cases h

theorem step_starting {wait' : Sync.Wait} (h : (s.step e).1.manager.call = .starting k wait') :
    e = .start k ∧ s.isIdle = true ∧ s.manager.token = none ∧ wait' = s.manager.wait ∨
      ∃ wait, s.manager.call = .starting k wait ∧ e ≠ .giveUp ∧ ∀ c, wait'.point = .asking c →
        wait.point = .asking c ∨
          s.connection.slot = some c ∧ .manager (.query c) ∈ (s.step e).2 := by
  have hs := s.step_told e
  generalize s.step e = r at hs h ⊢
  cases hs with
  | told s' e' before ht hm hc =>
    rcases manage_starting h with ⟨rfl, htoken, hwait⟩ | ⟨wait, hw, ha⟩
    · cases ht with
      | start k hi => exact .inl ⟨rfl, hi, hm ▸ htoken, hm ▸ hwait⟩
    · refine .inr ⟨wait, hm ▸ hw, ?_, fun c hp => (ha c hp).imp_right ?_⟩
      · rintro rfl
        cases ht
        cases h
      · rintro ⟨t, rfl, hslot, hq⟩
        cases ht
        exact ⟨hslot, List.mem_append_right _ hq⟩
  | alone r hg hm hc => exact .inr ⟨wait', hm ▸ h, hg, fun c hp => .inl hp⟩

/-! ### After the token is cancelled -/

theorem manage_cancelled (e : Manager.Event) (h : s.cancelled.contains k = true) :
    (s.manage e).1.cancelled.contains k = true := by
  have hm := s.manage_cases e
  generalize s.manage e = r at hm ⊢
  have cancels (s' : Service) (hs : s'.cancelled = s.cancelled) :
      s'.cancelStart.cancelled.contains k = true := by
    unfold cancelStart
    split
    · rw [Crew.cancelled_cancel, hs, h, Bool.or_true]
    · rw [hs]
      exact h
  cases hm with
  | joining ht => exact cancels _ rfl
  | closing ht => exact cancels _ rfl
  | _ => exact h

theorem step_cancelled (e : Event) (h : s.cancelled.contains k = true) :
    (s.step e).1.cancelled.contains k = true := by
  have hs := s.step_told e
  generalize s.step e = r at hs ⊢
  cases hs with
  | told s' e' before ht hm hc => exact manage_cancelled e' (hc ▸ h)
  | alone r hg hm hc => exact hc k h

/-- Cancelled tasks begin nothing. -/
theorem step_quiet (h : ∀ t x, s.task? t = some x → x.cancelled = true) (e : Event) :
    ∀ o ∈ (s.step e).2, o.isStart = false := by
  intro o ho
  cases s.step_emits e o ho with
  | manager e' ho' hc => rfl
  | connection x => rfl
  | feed k f n hs ho' =>
    have hc : f.cancelled = true := h .feed ⟨k, f.cancelled, f.isEnded⟩ (by rw [task?, hs]; rfl)
    exact Feed.quiet_step hc n _ ho'
  | poller k p n hs ho' =>
    have hc : p.cancelled = true := h .poller ⟨k, p.cancelled, p.isEnded⟩ (by rw [task?, hs]; rfl)
    exact Poller.quiet_step hc n _ ho'

/-- The start is over, and its token is cancelled. -/
structure Dismissed (k : Token) (s : Service) : Prop where
  token : s.manager.token = some k
  cancelled : s.cancelled.contains k = true
  past : ∀ k wait, s.manager.call ≠ .starting k wait

theorem Dismissed.step (h : Dismissed k s) (hs : Sound s) (e : Event) :
    Dismissed k (s.step e).1 ∧ ∀ o ∈ (s.step e).2, o.isStart = false := by
  refine ⟨⟨?_, step_cancelled e h.cancelled, fun k' wait hc => ?_⟩,
    step_quiet (fun t x hx => ?_) e⟩
  · rw [token_step, h.token]
    rfl
  · rcases step_starting hc with ⟨-, -, ht, -⟩ | ⟨wait', hw, -⟩
    · cases h.token.symm.trans ht
    · exact h.past k' wait' hw
  · obtain ⟨hk, hc⟩ := hs.crew.token t x hx
    cases h.token.symm.trans hk
    exact hc.trans h.cancelled

theorem Dismissed.run (h : Dismissed k s) (hs : Sound s) (es : List Event) :
    Dismissed k (s.after es) ∧ ∀ o ∈ s.outputs es, o.isStart = false := by
  induction es generalizing s with
  | nil => exact ⟨h, List.forall_mem_nil _⟩
  | cons e es ih =>
    obtain ⟨hd, ho⟩ := h.step hs e
    obtain ⟨hend, hrest⟩ := ih hd (hs.step e)
    exact ⟨hend, List.forall_mem_append.mpr ⟨ho, hrest⟩⟩

end WorkBridge.Service
