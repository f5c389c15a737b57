import WorkBridge.Proofs.Service.Step

/-!
What a manager knows of the tasks of its service.

The tasks have the token of the start, which they were launched by, and are cancelled exactly
where it is; a task whose end is not waited for has ended (`Crew`).  A shutdown that is under way
has cancelled them.
-/

namespace WorkBridge.Service

open Manager (Token)
open Node (ClientId)
open Stats (Poller)

/-- How a task stands. -/
structure Standing where
  token : Token
  cancelled : Bool
  ended : Bool

def task? (s : Service) : Manager.Task → Option Standing
  | .feed => s.feed.map fun t => ⟨t.1, t.2.cancelled, t.2.isEnded⟩
  | .poller => s.poller.map fun t => ⟨t.1, t.2.cancelled, t.2.isEnded⟩

structure Crew (s : Service) : Prop where
  token : ∀ t x, s.task? t = some x →
    s.manager.token = some x.token ∧ x.cancelled = s.cancelled.contains x.token
  seen : ∀ t x, s.task? t = some x → t ∈ s.manager.tasks ∨ x.ended = true
  launched : ∀ t ∈ s.manager.tasks, ∀ u, (s.task? u).isSome = true
  nodup : s.manager.tasks.Nodup
  unstarted : s.manager.token = none → ∀ t, s.task? t = none
  starting : ∀ k wait, s.manager.call = .starting k wait →
    s.manager.token = some k ∧ wait.Open ∧ ∀ t, s.task? t = none
  joining : s.manager.call = .joining → s.manager.tasks ≠ []
  closing : s.manager.call = .closing → s.manager.tasks = []
  shutting : s.manager.call = .joining ∨ s.manager.call = .closing →
    ∀ k, s.manager.token = some k → s.cancelled.contains k = true

variable {s s' : Service} {k : Token}

namespace Crew

theorem opened (config : Config) (first : ClientId) : Crew (opened config first) where
  token := by rintro (_ | _) x hx <;> cases hx
  seen := by rintro (_ | _) x hx <;> cases hx
  launched := nofun
  nodup := List.nodup_nil
  unstarted := by rintro - (_ | _) <;> rfl
  starting := nofun
  joining := nofun
  closing := nofun
  shutting := nofun

theorem tasks_eq_nil (h : Crew s) (ht : ∀ t, s.task? t = none) : s.manager.tasks = [] := by
  cases hm : s.manager.tasks with
  | nil => rfl
  | cons t ts =>
    have := h.launched t (by simp [hm]) t
    rw [ht t] at this
    cases this

/-! ### What the tasks do -/

/-- A task goes on, or has ended. -/
def Goes : Option Standing → Option Standing → Prop
  | none, none => True
  | some x, some y =>
    y.token = x.token ∧ y.cancelled = x.cancelled ∧ (x.ended = true → y.ended = true)
  | _, _ => False

theorem Goes.refl : (x : Option Standing) → Goes x x
  | none => trivial
  | some _ => ⟨rfl, rfl, id⟩

theorem Goes.isSome {x y : Option Standing} (h : Goes x y) : y.isSome = x.isSome := by
  cases x <;> cases y <;> first | rfl | exact h.elim

theorem Goes.none {x y : Option Standing} (h : Goes x y) (hx : x = none) : y = none := by
  subst hx
  cases y
  · rfl
  · exact h.elim

theorem Goes.some {x y : Option Standing} (h : Goes x y) {b : Standing} (hy : y = some b) :
    ∃ a, x = some a ∧ b.token = a.token ∧ b.cancelled = a.cancelled ∧
      (a.ended = true → b.ended = true) := by
  subst hy
  cases x with
  | none => exact h.elim
  | some a => exact ⟨a, rfl, h⟩

theorem goes (h : Crew s) (hm : s'.manager = s.manager) (hc : s'.cancelled = s.cancelled)
    (ht : ∀ t, Goes (s.task? t) (s'.task? t)) : Crew s' where
  token := by
    intro t y hy
    obtain ⟨x, hx, htoken, hcancelled, -⟩ := (ht t).some hy
    obtain ⟨hk, hb⟩ := h.token t x hx
    rw [hm, hc, htoken, hcancelled]
    exact ⟨hk, hb⟩
  seen := by
    intro t y hy
    obtain ⟨x, hx, -, -, hended⟩ := (ht t).some hy
    rw [hm]
    exact (h.seen t x hx).imp_right hended
  launched := by
    intro t hmem u
    rw [(ht u).isSome]
    exact h.launched t (hm ▸ hmem) u
  nodup := hm ▸ h.nodup
  unstarted := fun hn t => (ht t).none (h.unstarted (hm ▸ hn) t)
  starting := by
    intro k wait hcall
    rw [hm] at hcall ⊢
    obtain ⟨hk, hopen, hnone⟩ := h.starting k wait hcall
    exact ⟨hk, hopen, fun t => (ht t).none (hnone t)⟩
  joining := by
    rw [hm]
    exact h.joining
  closing := by
    rw [hm]
    exact h.closing
  shutting := by
    rw [hm, hc]
    exact h.shutting

theorem tell (h : Crew s) (e : Connection.Supervisor.Event) : Crew (s.tell e) :=
  h.goes rfl rfl fun t => by cases t <;> exact .refl _

/-! ### What is done to them -/

theorem task?_cancel (s : Service) (k : Token) (t : Manager.Task) :
    (s.cancel k).task? t = (s.task? t).map fun x =>
      if x.token = k then { x with cancelled := true } else x := by
  cases t with
  | feed =>
    show (s.feed.map _).map _ = (s.feed.map _).map _
    rw [Option.map_map, Option.map_map]
    congr 1
    funext x
    by_cases hx : x.1 = k <;> simp [hx, Feed.step, Feed.isEnded]
  | poller =>
    show (s.poller.map _).map _ = (s.poller.map _).map _
    rw [Option.map_map, Option.map_map]
    congr 1
    funext x
    by_cases hx : x.1 = k <;> simp [hx, Poller.step, Poller.isEnded]

theorem cancelled_cancel (s : Service) (k k' : Token) :
    (s.cancel k).cancelled.contains k' = (k' == k || s.cancelled.contains k') := by
  show (s.cancelled.insert k).contains k' = _
  rw [Bool.eq_iff_iff]
  simp [List.mem_insert_iff]

theorem cancel (h : Crew s) (k : Token) : Crew (s.cancel k) where
  token := by
    intro t y hy
    rw [task?_cancel, Option.map_eq_some_iff] at hy
    obtain ⟨x, hx, rfl⟩ := hy
    obtain ⟨hk, hb⟩ := h.token t x hx
    rw [cancelled_cancel]
    by_cases hxk : x.token = k
    · rw [if_pos hxk]
      exact ⟨hk, by simp [hxk]⟩
    · rw [if_neg hxk]
      exact ⟨hk, by simp [hb, hxk]⟩
  seen := by
    intro t y hy
    rw [task?_cancel, Option.map_eq_some_iff] at hy
    obtain ⟨x, hx, rfl⟩ := hy
    refine (h.seen t x hx).imp_right fun he => ?_
    split <;> exact he
  launched := by
    intro t ht u
    rw [task?_cancel, Option.isSome_map]
    exact h.launched t ht u
  nodup := h.nodup
  unstarted := fun hn t => by rw [task?_cancel, h.unstarted hn t]; rfl
  starting := by
    intro k' wait hc
    obtain ⟨hk, hopen, hnone⟩ := h.starting k' wait hc
    exact ⟨hk, hopen, fun t => by rw [task?_cancel, hnone t]; rfl⟩
  joining := h.joining
  closing := h.closing
  shutting := by
    intro hc k' hk'
    rw [cancelled_cancel, h.shutting hc k' hk', Bool.or_true]

theorem cancelStart_of_some (hk : s.manager.token = some k) : s.cancelStart = s.cancel k := by
  unfold Service.cancelStart
  rw [hk]

theorem cancelStart_of_none (hk : s.manager.token = none) : s.cancelStart = s := by
  unfold Service.cancelStart
  rw [hk]

theorem cancelStart_manager (s : Service) : s.cancelStart.manager = s.manager := by
  unfold Service.cancelStart
  split <;> rfl

theorem cancelStart_connection (s : Service) : s.cancelStart.connection = s.connection := by
  unfold Service.cancelStart
  split <;> rfl

theorem cancelStart (h : Crew s) : Crew s.cancelStart := by
  unfold Service.cancelStart
  split
  · exact h.cancel _
  · exact h

theorem cancelled_cancelStart (hk : s.manager.token = some k) :
    s.cancelStart.cancelled.contains k = true := by
  rw [cancelStart_of_some hk, cancelled_cancel, beq_self_eq_true, Bool.true_or]

/-! ### What the manager does -/

theorem withCall (h : Crew s) (call : Manager.Call)
    (starting : ∀ k wait, call = .starting k wait →
      s.manager.token = some k ∧ wait.Open ∧ ∀ t, s.task? t = none)
    (joining : call = .joining → s.manager.tasks ≠ [])
    (closing : call = .closing → s.manager.tasks = [])
    (shutting : call = .joining ∨ call = .closing →
      ∀ k, s.manager.token = some k → s.cancelled.contains k = true) :
    Crew (s.withManager { s.manager with call }) where
  token := h.token
  seen := h.seen
  launched := h.launched
  nodup := h.nodup
  unstarted := h.unstarted
  starting := starting
  joining := joining
  closing := closing
  shutting := shutting

theorem idle (h : Crew s) : Crew (s.withManager { s.manager with call := .idle }) :=
  h.withCall .idle nofun nofun nofun nofun

/-- The token is cancelled before anything is waited for. -/
theorem shut (h : Crew s) (call : Manager.Call) (starting : ∀ k wait, call ≠ .starting k wait)
    (joining : call = .joining → s.manager.tasks ≠ [])
    (closing : call = .closing → s.manager.tasks = []) :
    Crew (s.withManager { s.manager with call }).cancelStart := by
  -- It is also cancelled before the call is written down, which changes nothing.
  have hswap : (s.withManager { s.manager with call }).cancelStart =
      s.cancelStart.withManager { s.cancelStart.manager with call } := by
    cases hk : s.manager.token with
    | none =>
      rw [cancelStart_of_none hk]
      exact cancelStart_of_none (s := s.withManager { s.manager with call }) hk
    | some k =>
      rw [cancelStart_of_some hk]
      exact cancelStart_of_some (s := s.withManager { s.manager with call }) hk
  have hmanager : s.cancelStart.manager = s.manager := cancelStart_manager s
  rw [hswap]
  refine h.cancelStart.withCall call (fun k wait hc => absurd hc (starting k wait)) ?_ ?_ ?_
  · rw [hmanager]
    exact joining
  · rw [hmanager]
    exact closing
  · intro _ k hk
    exact cancelled_cancelStart (hmanager ▸ hk)

theorem begun (h : Crew s) (hk : s.manager.token = none) (k : Token) :
    Crew (s.withManager
      { s.manager with token := some k, call := .starting k s.manager.wait }) := by
  have hnone : ∀ t, s.task? t = none := h.unstarted hk
  exact {
    token := fun t x hx => by cases (hnone t).symm.trans hx
    seen := h.seen
    launched := h.launched
    nodup := h.nodup
    unstarted := nofun
    starting := by
      intro k' wait hc
      cases hc
      exact ⟨rfl, nofun, hnone⟩
    joining := nofun
    closing := nofun
    shutting := nofun }

theorem launch (h : Crew s) {wait : Sync.Wait} (hc : s.manager.call = .starting k wait) :
    Crew (s.launched k) := by
  obtain ⟨hk, -, hnone⟩ := h.starting k wait hc
  have htasks : (s.launched k).manager.tasks = [.feed, .poller] := by
    show s.manager.tasks ++ _ = _
    rw [h.tasks_eq_nil hnone]
    rfl
  have hstands : ∀ t, (s.launched k).task? t = some ⟨k, s.cancelled.contains k, false⟩ := by
    intro t
    cases t <;> rfl
  exact {
    token := by
      intro t x hx
      cases (hstands t).symm.trans hx
      exact ⟨hk, rfl⟩
    seen := by
      intro t x _
      rw [htasks]
      cases t <;> simp
    launched := by
      intro _ _ u
      rw [hstands]
      rfl
    nodup := by
      rw [htasks]
      decide
    unstarted := fun hn => by cases hk.symm.trans hn
    starting := nofun
    joining := nofun
    closing := nofun
    shutting := nofun }

/-- A task that is seen to have ended is waited for no more. -/
theorem without (h : Crew s) {t : Manager.Task}
    (ht : ∀ x, s.task? t = some x → x.ended = true) (hc : s.manager.call = .joining)
    (call : Manager.Call) (starting : ∀ k wait, call ≠ .starting k wait)
    (joining : call = .joining → s.manager.tasks.erase t ≠ [])
    (closing : call = .closing → s.manager.tasks.erase t = []) :
    Crew (s.withManager { s.manager with tasks := s.manager.tasks.erase t, call }) where
  token := h.token
  seen := by
    intro u x hx
    rcases h.seen u x hx with hu | hu
    · by_cases hut : u = t
      · exact .inr (ht x (hut ▸ hx))
      · exact .inl ((List.mem_erase_of_ne hut).mpr hu)
    · exact .inr hu
  launched := fun u hu => h.launched u (List.mem_of_mem_erase hu)
  nodup := h.nodup.erase t
  unstarted := h.unstarted
  starting := fun k wait hs => absurd hs (starting k wait)
  joining := joining
  closing := closing
  shutting := fun _ => h.shutting (.inl hc)

theorem manage (h : Crew s) (e : Manager.Event)
    (he : ∀ t broken, e = .joined t broken → ∀ x, s.task? t = some x → x.ended = true) :
    Crew (s.manage e).1 := by
  have hm := s.manage_cases e
  generalize s.manage e = r at hm ⊢
  cases hm with
  | ignored e he => exact h
  | refused k ht => exact h
  | begun k ht => exact h.begun ht k
  | gaveUp => exact h.idle
  | waits t k wait hc hw =>
    refine h.withCall _ ?_ nofun nofun nofun
    intro k' wait' hc'
    cases hc'
    obtain ⟨hk, -, hnone⟩ := h.starting k wait hc
    exact ⟨hk, hw, hnone⟩
  | failed t k wait e hc hw => exact h.idle
  | launched t k wait hc hw => exact h.launch hc
  | joining ht => exact h.shut .joining nofun (fun _ => ht) nofun
  | closing ht => exact (h.shut .closing nofun nofun fun _ => ht).tell _
  | joined t broken hc ht =>
    exact h.without (he t broken rfl) hc .joining nofun (fun _ => ht) nofun
  | joinedLast t broken hc ht =>
    exact (h.without (he t broken rfl) hc .closing nofun nofun fun _ => ht).tell _
  | closed hc e => exact h.idle

/-! ### Turns of the tasks -/

theorem heed_frame (s : Service) (out : List Feed.Output) :
    ∃ connection, out.foldl heed s = { s with connection } := by
  induction out generalizing s with
  | nil => exact ⟨s.connection, rfl⟩
  | cons o out ih => cases o <;> exact ih _

theorem feed_goes (f : Feed) {e : Feed.Stimulus} (he : e ≠ .cancel) :
    (f.step e).1.cancelled = f.cancelled ∧
      (f.isEnded = true → (f.step e).1.isEnded = true) := by
  refine ⟨Feed.cancelled_step f he, fun hn => ?_⟩
  cases e with
  | cancel => exact hn
  | notify => exact hn
  | lapse id =>
    obtain ⟨held, hf⟩ := Feed.lapse_eq f id
    rw [Feed.step, hf]
    exact hn
  | abort => simp [Feed.step, Feed.abort, hn]
  | turn now slot answer =>
    rw [Feed.step, (Feed.turn_of_ended hn now slot answer).1]
    exact hn

theorem poller_goes (p : Poller) (now : Nat) (slot : Option ClientId)
    (answer : Option Poller.Answer) :
    (p.step (.turn now slot answer)).1.cancelled = p.cancelled ∧
      (p.isEnded = true → (p.step (.turn now slot answer)).1.isEnded = true) := by
  refine ⟨Poller.cancelled_step p nofun, fun hn => ?_⟩
  rw [Poller.step]
  unfold Poller.isEnded at hn
  split at hn
  · rename_i hp
    simp [Poller.turn, hp, Poller.isEnded]
  · rename_i hp
    simp [Poller.turn, hp, Poller.isEnded]
  · cases hn

/-- The feed of a service goes on, and nothing happens to the poller. -/
theorem goes_of_feed (s' : Service) {f g : Feed} (hs : s.feed = some (k, f))
    (hf : s'.feed = some (k, g)) (hp : s'.poller = s.poller)
    (hg : g.cancelled = f.cancelled ∧ (f.isEnded = true → g.isEnded = true))
    (t : Manager.Task) : Goes (s.task? t) (s'.task? t) := by
  cases t with
  | feed =>
    show Goes (s.feed.map _) (s'.feed.map _)
    rw [hs, hf]
    exact ⟨rfl, hg⟩
  | poller =>
    show Goes (s.poller.map _) (s'.poller.map _)
    rw [hp]
    exact .refl _

theorem feedTurn_frame (s : Service) (k : Token) (f : Feed) (now : Nat)
    (answer : Option Feed.Answer) :
    ∃ connection, (s.feedTurn k f now answer).1 =
      { s with
        connection
        feed := some (k, (f.step (.turn now s.connection.slot answer)).1) } :=
  heed_frame _ _

theorem feedTurn_goes {f : Feed} (hs : s.feed = some (k, f)) (now : Nat)
    (answer : Option Feed.Answer) (t : Manager.Task) :
    Goes (s.task? t) ((s.feedTurn k f now answer).1.task? t) := by
  obtain ⟨connection, hr⟩ := feedTurn_frame s k f now answer
  rw [hr]
  have hg := feed_goes f (e := .turn now s.connection.slot answer) nofun
  exact goes_of_feed { s with connection, feed := some (k, _) } hs rfl rfl hg t

theorem noted_goes (s : Service) {n : Feed.Stimulus} (hn : n ≠ .cancel) (t : Manager.Task) :
    Goes (s.task? t)
      (task? { s with feed := s.feed.map fun t => (t.1, (t.2.step n).1) } t) := by
  cases hs : s.feed with
  | none => cases t <;> simp [task?, hs] <;> exact .refl _
  | some x =>
    exact goes_of_feed { s with feed := some (x.1, _) } (k := x.1) hs rfl rfl (feed_goes x.2 hn) t

theorem pollerTurn_goes {p : Poller} (hs : s.poller = some (k, p)) (now : Nat)
    (answer : Option Poller.Answer) (t : Manager.Task) :
    Goes (s.task? t) ((s.pollerTurn k p now answer).1.task? t) := by
  cases t with
  | feed => exact .refl _
  | poller =>
    show Goes (s.poller.map _) _
    rw [hs]
    exact ⟨rfl, poller_goes p now s.connection.slot answer⟩

theorem feedTurn (h : Crew s) {f : Feed} (hs : s.feed = some (k, f)) (now : Nat)
    (answer : Option Feed.Answer) : Crew (s.feedTurn k f now answer).1 := by
  obtain ⟨connection, hr⟩ := feedTurn_frame s k f now answer
  exact h.goes (by rw [hr]) (by rw [hr]) (feedTurn_goes hs now answer)

/-- The end of a task can be seen exactly if it has ended. -/
theorem isSome_ended? (s : Service) (t : Manager.Task) :
    (s.ended? t).isSome = (s.task? t).any (·.ended) := by
  cases t with
  | feed =>
    rw [ended?, task?]
    cases s.feed with
    | none => rfl
    | some x => cases hx : x.2.isEnded <;> simp [hx]
  | poller =>
    rw [ended?, task?]
    cases s.poller with
    | none => rfl
    | some x => cases hx : x.2.isEnded <;> simp [hx]

theorem ended_of_ended? {t : Manager.Task} {broken : Bool} (h : s.ended? t = some broken)
    {x : Standing} (hx : s.task? t = some x) : x.ended = true := by
  have hsome := isSome_ended? s t
  rw [h, hx] at hsome
  exact hsome.symm

theorem step (h : Crew s) (e : Event) : Crew (s.step e).1 := by
  have hs := s.step_cases e
  generalize s.step e = r at hs ⊢
  cases hs with
  | idle e he => exact h
  | start k hi => exact h.manage _ nofun
  | shutDown hi => exact h.manage _ nofun
  | giveUp => exact (h.tell _).manage _ nofun
  | wait now answer k wait hc => exact h.manage _ nofun
  | joined t broken hb =>
    refine h.manage _ ?_
    rintro _ _ ⟨⟩ x hx
    exact ended_of_ended? hb hx
  | close w hr => exact h.tell _
  | closed w hr => exact (h.tell (w.event closeTicket)).manage .closed nofun
  | cancel k => exact h.cancel k
  | noted e n hn hq => exact h.goes rfl rfl (noted_goes s hn)
  | feed now answer k f hs ha => exact h.feedTurn hs now answer
  | reconnect now w k f hs hp hc => exact (h.tell (w.event feedTicket)).feedTurn hs now _
  | poller now answer k p hs => exact h.goes rfl rfl (pollerTurn_goes hs now answer)
  | guestAsks n kind => exact h.tell _
  | guest n w => exact h.tell _
  | guestLeaves n => exact h.tell _

end Crew
end WorkBridge.Service
