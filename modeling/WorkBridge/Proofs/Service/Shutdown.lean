import Mathlib.Data.List.Infix
import WorkBridge.Proofs.Service.Ending
import WorkBridge.Proofs.Service.Start

/-!
What a shutdown leaves: `shutdown_leaves_nothing`.

When it returns, the tasks have ended and the slot is empty (`atRest_of_stopped`), and that stays
so until a reconnect makes a new client (`Resting.run`).  A manager that has not been started
before may still be started then, one that has been may not.
-/

namespace WorkBridge.Service

open Connection (Supervisor)
open Manager (Token)
open Node (ClientId)

variable {s : Service} {e : Event} {k : Token} {w : Wake}

/-! ### The return -/

/-- Both tasks have ended, and there is no client. -/
structure AtRest (s : Service) : Prop where
  tasks : s.manager.tasks = []
  ended : ∀ t x, s.task? t = some x → x.ended = true
  shut : s.connection.Shut

theorem shutDown_shutting (hi : s.isIdle = true) : (s.step .shutDown).1.IsShutting := by
  rw [step_shutDown hi]
  have hm := s.manage_cases .shutDown
  generalize s.manage .shutDown = r at hm ⊢
  cases hm with
  | ignored e he => exact he.elim
  | joining ht => exact .inl (by rw [Crew.cancelStart_manager]; rfl)
  | closing ht =>
    refine .inr ?_
    show (cancelStart _).manager.call = _
    rw [Crew.cancelStart_manager]
    rfl

/-- A shutdown returns as its close ends. -/
theorem stopped_step (hm : .manager .stopped ∈ (s.step e).2) :
    ∃ w, e = .close w ∧ s.manager.call = .closing ∧
      Supervisor.results (s.wake closeTicket w) ≠ [] := by
  cases s.step_emits e _ hm with
  | manager e' ho hc =>
    obtain ⟨rfl, hcall⟩ := Manager.stopped_mem ho
    obtain ⟨w, he, hr⟩ := hc rfl
    exact ⟨w, he, hcall, hr⟩

theorem step_closed (hc : s.manager.call = .closing)
    (hr : Supervisor.results (s.wake closeTicket w) ≠ []) :
    s.step (.close w) =
      ((s.tell (w.event closeTicket)).withManager { s.manager with call := .idle },
        (s.wake closeTicket w).map .connection ++
          [.manager (.log (Manager.entry .info "Node manager stopped" [])),
            .manager .stopped]) := by
  have hm := manage_closed (s := s.tell (w.event closeTicket)) hc
  unfold tell at hm
  unfold wake at hr
  simp only [step, hr, if_false, hm]
  rfl

/-- The close of the manager leaves the slot empty. -/
theorem closed_shut (h : Lined s) (hc : s.manager.call = .closing)
    (hr : Supervisor.results (s.wake closeTicket w) ≠ []) :
    (s.tell (w.event closeTicket)).connection.Shut := by
  rcases line_wake h.orderly closeTicket w with ⟨hn, -⟩ | ⟨i, hi, hl, -⟩
  · exact absurd hn hr
  · -- The only call that the manager has in line is the close.
    rw [h.close, isClosing, hc] at hl
    have hkind : i = .closed := by
      cases i with
      | reconnected r => cases hl
      | closed => rfl
    have hm : .closed ∈ Supervisor.results (s.wake closeTicket w) := by
      rw [hi, hkind]
      exact List.mem_singleton_self _
    obtain ⟨t, ht⟩ := Supervisor.mem_results.mp hm
    exact (s.connection.step_move _).closes h.orderly ht

theorem atRest_of_stopped (h : Sound s) (hm : .manager .stopped ∈ (s.step e).2) :
    AtRest (s.step e).1 ∧ (s.step e).1.isIdle = true ∧
      ∀ k, (s.step e).1.manager.token = some k → Dismissed k (s.step e).1 := by
  obtain ⟨w, rfl, hc, hr⟩ := stopped_step hm
  have hshut := closed_shut h.lined hc hr
  have htasks : s.manager.tasks = [] := h.crew.closing hc
  rw [step_closed hc hr]
  refine ⟨⟨htasks, fun t x hx => ?_, hshut⟩, rfl, fun k hk => ⟨hk, ?_, nofun⟩⟩
  · have hx' : s.task? t = some x := by cases t <;> exact hx
    have hseen := h.crew.seen t x hx'
    rw [htasks] at hseen
    exact hseen.resolve_left List.not_mem_nil
  · exact h.crew.shutting (.inr hc) k hk

/-! ### At rest -/

/-- Nothing is running, and a start that is under way has not got as far as to ask the node. -/
structure Resting (s : Service) : Prop where
  tasks : s.manager.tasks = []
  dead : ∀ t x, s.task? t = some x → x.ended = true ∧ x.cancelled = true
  shut : s.connection.Shut
  unasked : ∀ k wait c, s.manager.call = .starting k wait → wait.point ≠ .asking c

theorem Resting.of_stopped (h : Sound s) (hm : .manager .stopped ∈ (s.step e).2) :
    Resting (s.step e).1 := by
  obtain ⟨hrest, hidle, hdismissed⟩ := atRest_of_stopped h hm
  refine ⟨hrest.tasks, fun t x hx => ⟨hrest.ended t x hx, ?_⟩, hrest.shut, fun k wait c hc => ?_⟩
  · obtain ⟨hk, hx'⟩ := (h.step e).crew.token t x hx
    rw [hx']
    exact (hdismissed _ hk).cancelled
  · unfold isIdle at hidle
    rw [hc] at hidle
    cases hidle

/-- It takes a reconnect to get anything to run again. -/
theorem Resting.step (h : Resting s) (hs : Sound s) (e : Event) (hn : ¬Refilled (s.step e).2) :
    Resting (s.step e).1 := by
  have ho : Ordinary s (s.step e) := by
    rcases step_launches s e with ho | ⟨k, hl⟩
    · exact ho
    · obtain ⟨now, answer, wait, -, hc, hw⟩ := hl.turn
      obtain ⟨c, -, hp, -⟩ := Sync.Wait.synced_of_done (hs.crew.starting k wait hc).2.1 hw
      exact absurd hp (h.unasked k wait c hc)
  refine ⟨?_, fun t y hy => ?_, step_shut hs.lined.orderly h.shut e hn, fun k wait c hc hp => ?_⟩
  · exact List.eq_nil_iff_forall_not_mem.mpr fun t ht => by
      have hm := ho.tasks t ht
      rw [h.tasks] at hm
      cases hm
  · obtain ⟨x, hx, -, hcancelled, hended⟩ := (ho.later t).before hy
    obtain ⟨he, hc⟩ := h.dead t x hx
    exact ⟨hended he, hcancelled hc⟩
  · rcases step_starting hc with ⟨-, -, -, rfl⟩ | ⟨wait', hc', -, ha⟩
    · cases hp
    · rcases ha c hp with hp' | ⟨hslot, -⟩
      · exact h.unasked k wait' c hc' hp'
      · cases h.shut.slot.symm.trans hslot

theorem Resting.run (h : Resting s) (hs : Sound s) (es : List Event)
    (hn : ¬Refilled (s.outputs es)) :
    Resting (s.after es) ∧ ∀ o ∈ s.outputs es, o.isStart = false := by
  induction es generalizing s with
  | nil => exact ⟨h, List.forall_mem_nil _⟩
  | cons e es ih =>
    have hsplit : ¬Refilled (s.step e).2 ∧ ¬Refilled ((s.step e).1.outputs es) :=
      not_or.mp fun h => hn (Refilled.append.mpr h)
    obtain ⟨hend, hrest⟩ := ih (h.step hs e hsplit.1) (hs.step e) hsplit.2
    have hquiet := step_quiet (fun t x hx => (h.dead t x hx).2) e
    exact ⟨hend, List.forall_mem_append.mpr ⟨hquiet, hrest⟩⟩

/-- Without a start there are no tasks. -/
theorem unstarted_run (hs : Sound s) (hk : s.manager.token = none) (es : List Event)
    (hn : s.firstStart? es = none) : ∀ o ∈ s.outputs es, o.isStart = false := by
  induction es generalizing s with
  | nil => exact List.forall_mem_nil _
  | cons e es ih =>
    obtain ⟨hb, hrest⟩ : s.begins e = none ∧ (s.step e).1.firstStart? es = none :=
      Option.or_eq_none_iff.mp hn
    have htoken : (s.step e).1.manager.token = none := by rw [token_step, hk, hb]; rfl
    have hnone : ∀ t x, s.task? t = some x → x.cancelled = true := by
      intro t x hx
      cases (hs.crew.unstarted hk t).symm.trans hx
    exact List.forall_mem_append.mpr ⟨step_quiet hnone e, ih (hs.step e) htoken hrest⟩

/-! ### Another shutdown -/

theorem map_cancel_eq {α : Type} {task : Option (Token × α)} {g : α → α}
    (h : ∀ x, task = some (k, x) → g x = x) :
    (task.map fun t => if t.1 = k then (t.1, g t.2) else t) = task := by
  cases task with
  | none => rfl
  | some x =>
    obtain ⟨k', x⟩ := x
    by_cases hk : k' = k
    · subst hk
      simp [h x rfl]
    · simp [hk]

/-- A token that is cancelled can be cancelled again. -/
theorem cancel_eq (h : Crew s) (hc : s.cancelled.contains k = true) : s.cancel k = s := by
  have hfeed : (s.feed.map fun t => if t.1 = k then (t.1, (t.2.step .cancel).1) else t) =
      s.feed := by
    refine map_cancel_eq (g := fun f : Feed => (f.step .cancel).1) fun f hf => ?_
    have hcancelled : f.cancelled = true :=
      (h.token .feed ⟨k, f.cancelled, f.isEnded⟩ (by rw [task?, hf]; rfl)).2.trans hc
    simp [Feed.step, ← hcancelled]
  have hpoller : (s.poller.map fun t => if t.1 = k then (t.1, (t.2.step .cancel).1) else t) =
      s.poller := by
    refine map_cancel_eq (g := fun p : Stats.Poller => (p.step .cancel).1) fun p hp => ?_
    have hcancelled : p.cancelled = true :=
      (h.token .poller ⟨k, p.cancelled, p.isEnded⟩ (by rw [task?, hp]; rfl)).2.trans hc
    simp [Stats.Poller.step, ← hcancelled]
  have hlist : s.cancelled.insert k = s.cancelled :=
    List.insert_of_mem (List.contains_iff_mem.mp hc)
  rw [cancel, hlist, hfeed, hpoller]

theorem line_empty (h : Resting s) (hs : Sound s) (hi : s.isIdle = true)
    (hf : s.guestLeads = false) : s.connection.calls = [] := by
  cases hc : s.connection.calls with
  | nil => rfl
  | cons c rest =>
    have hclose : s.connection.line closeTicket = [] := by
      rw [hs.lined.close, Lined.not_closing_of_idle hi]
      rfl
    have hfeed := feed_leaves_line hs fun x hx => (h.dead .feed x hx).1
    have ht := ticket_of_free hf hfeed hc
    rw [Supervisor.line_cons hc, if_pos ht] at hclose
    cases hclose

/-- Another shutdown, with nothing to wait for. -/
def shutDownAgain : List Event := [.shutDown, .close .proceed]

theorem cancelStart_eq (h : Crew s)
    (hk : ∀ k, s.manager.token = some k → s.cancelled.contains k = true) : s.cancelStart = s := by
  cases ht : s.manager.token with
  | none => exact Crew.cancelStart_of_none ht
  | some k =>
    rw [Crew.cancelStart_of_some ht]
    exact cancel_eq h (hk k ht)

/-- With no task to wait for and nothing to cancel a shutdown asks for the close. -/
theorem step_shutDown_of_no_tasks (h : Crew s) (ht : s.manager.tasks = [])
    (hi : s.isIdle = true)
    (hk : ∀ k, s.manager.token = some k → s.cancelled.contains k = true) :
    s.step .shutDown = ((s.withManager { s.manager with call := .closing }).askClose,
      s.manager.shutDown.2.map .manager) := by
  have hcrew : Crew (s.withManager { s.manager with call := .closing }) :=
    h.withCall .closing nofun nofun (fun _ => ht) fun _ => hk
  rw [step_shutDown hi]
  have hm := s.manage_cases .shutDown
  generalize s.manage .shutDown = r at hm
  cases hm with
  | ignored e he => exact he.elim
  | joining ht' => exact absurd ht ht'
  | closing ht' => rw [cancelStart_eq hcrew hk]

/-- The close of a slot that is empty ends as it goes on, and leaves everything as it was. -/
theorem step_close_of_shut (hshut : s.connection.Shut) (hcalls : s.connection.calls = [])
    (hi : s.isIdle = true) :
    (s.withManager { s.manager with call := .closing }).askClose.step (.close .proceed) =
      (s, [.connection (.update (.connected false)), .connection (.done closeTicket .closed),
        .manager (.log (Manager.entry .info "Node manager stopped" [])), .manager .stopped]) := by
  have hwake := Supervisor.close_shut hshut hcalls closeTicket
  have hidle : { s.manager with call := .idle } = s.manager := by
    unfold isIdle at hi
    split at hi
    · rename_i hc
      rw [← hc]
    · cases hi
  rw [step_closed rfl]
  · show (Service.mk { s.manager with call := .idle }
      ((s.connection.step (.ask closeTicket .close)).1.step (.proceed closeTicket)).1 _ _ _,
      ((s.connection.step (.ask closeTicket .close)).1.step (.proceed closeTicket)).2.map _ ++ _) =
      _
    rw [hwake, hidle]
    rfl
  · show Supervisor.results
      ((s.connection.step (.ask closeTicket .close)).1.step (.proceed closeTicket)).2 ≠ []
    rw [hwake]
    nofun

theorem Resting.again (h : Resting s) (hs : Sound s) (hi : s.isIdle = true)
    (hf : s.guestLeads = false)
    (hk : ∀ k, s.manager.token = some k → s.cancelled.contains k = true) :
    s.after shutDownAgain = s ∧ .manager .stopped ∈ s.outputs shutDownAgain ∧
      ∀ o ∈ s.outputs shutDownAgain, ∀ q, o ≠ .connection (.request q) := by
  have hfirst := step_shutDown_of_no_tasks hs.crew h.tasks hi hk
  have hsecond := step_close_of_shut h.shut (line_empty h hs hi hf) hi
  refine ⟨?_, ?_, ?_⟩
  · show ((s.step .shutDown).1.step (.close .proceed)).1 = s
    rw [hfirst, hsecond]
  · simp [shutDownAgain, outputs, hfirst, hsecond]
  · intro o ho q hq
    subst hq
    simp [shutDownAgain, outputs, hfirst, hsecond] at ho

/-! ### All that comes after -/

/-- What a service that is at rest does from then on. -/
structure Leaves (s : Service) (later : List Event) : Prop where
  /-- Only a manager that has not been started before can be started, once there is a client. -/
  quiet : ∀ o ∈ s.outputs later, o.isStart = true →
    s.manager.token = none ∧ (s.firstStart? later).isSome = true ∧ Refilled (s.outputs later)
  gone : ¬Refilled (s.outputs later) → (s.after later).connection.Shut ∧
    ∀ session, Manager.templateRequest session (s.after later).connection.slot =
      .error .notConnected
  again : ¬Refilled (s.outputs later) →
    let s' := s.after later
    s'.manager.token = s.manager.token → s'.isIdle = true → s'.guestLeads = false →
      s'.after shutDownAgain = s' ∧ .manager .stopped ∈ s'.outputs shutDownAgain ∧
        ∀ o ∈ s'.outputs shutDownAgain, ∀ q, o ≠ .connection (.request q)

theorem leaves_of_stopped (h : Sound s) (hm : .manager .stopped ∈ (s.step e).2)
    (later : List Event) : Leaves (s.step e).1 later := by
  have hs := h.step e
  have hrest := Resting.of_stopped h hm
  obtain ⟨-, -, hdismissed⟩ := atRest_of_stopped h hm
  generalize (s.step e).1 = s at hs hrest hdismissed
  refine ⟨fun o ho hstart => ?_, fun hn => ?_, fun hn => ?_⟩
  · have loud (hq : ∀ o ∈ s.outputs later, o.isStart = false) : False :=
      Bool.false_ne_true ((hq o ho).symm.trans hstart)
    have hk : s.manager.token = none := by
      cases hk : s.manager.token with
      | none => rfl
      | some k => exact (loud ((hdismissed k hk).run hs later).2).elim
    refine ⟨hk, ?_, ?_⟩
    · by_contra hf
      exact loud (unstarted_run hs hk later (Option.not_isSome_iff_eq_none.mp hf))
    · by_contra hn
      exact loud (hrest.run hs later hn).2
  · have hshut := (hrest.run hs later hn).1.shut
    refine ⟨hshut, fun session => ?_⟩
    rw [hshut.slot]
    rfl
  · -- With another token it would be the shutdown of another start.
    intro s' htoken hidle hfree
    have hcancelled : ∀ k, s'.manager.token = some k → s'.cancelled.contains k = true := by
      intro k hk
      exact ((hdismissed k (htoken ▸ hk)).run hs later).1.cancelled
    have hs' : Sound s' := run_induction (fun _ e h => h.step e) hs later
    exact Resting.again (hrest.run hs later hn).1 hs' hidle hfree hcancelled

/-- Shutting down leaves nothing running, wherever the manager, its tasks and its connection are.

* A shutdown returns within four rounds of turns, in which the node answers nothing, the handler
  and the recorder return or break off if they run, and the client disconnects; unless a guest has
  the lock.
* When it returns, both tasks have ended, the slot is empty, and every client that there was has
  been disconnected, once.
* From then on no task asks for anything and no handler is called, unless the manager was never
  started before and is now, with a client that a reconnect has made; without such a reconnect the
  slot stays empty, a template is refused, and another shutdown changes nothing. -/
theorem shutdown_leaves_nothing (config : Config) (first : ClientId) (es : List Event) :
    let run := opened config first
    let s := run.after es
    (s.isIdle = true → ∀ r, Rounds (s.step .shutDown).1 4 r → Free (s.step .shutDown).1 r →
      .manager .stopped ∈ (s.step .shutDown).1.outputs r) ∧
    ∀ e, .manager .stopped ∈ (s.step e).2 →
      let made := first :: run.made (es ++ [e])
      let closed := disconnected (run.outputs (es ++ [e]))
      AtRest (s.step e).1 ∧ made = closed ∧
        (made.Nodup → ∀ client ∈ made, closed.count client = 1) ∧
        ∀ later, Leaves (s.step e).1 later := by
  intro run s
  have hs : Sound s := sound config first es
  refine ⟨fun hi r hr hf => ?_, fun e hm => ?_⟩
  · exact shutDown_returns (hs.step .shutDown) (shutDown_shutting hi) hr hf
  · intro made closed
    obtain ⟨hrest, -, -⟩ := atRest_of_stopped hs hm
    have hmade : made = closed := by
      have h := made_accounted (sound config first []) (es ++ [e])
      rw [show (opened config first).after [] = run from rfl, after_snoc, hrest.shut.slot] at h
      exact h.trans (List.append_nil _)
    refine ⟨hrest, hmade, fun hn client hc => ?_, leaves_of_stopped hs hm⟩
    rw [hmade] at hn hc
    exact hn.count.trans (if_pos hc)

/-! ### Runs -/

/-- A manager is shut down before it was started. -/
def shutUnstarted : List Event := [.shutDown, .close .proceed, .close .disconnected]

/-- A guest reconnects, and the manager is started. -/
def startedLate : List Event := [
  .guestAsks 0 .reconnect, .guest 0 .proceed, .guest 0 (.connected (.ok 8)),
  .start 5, .wait 0 none, .wait 0 (some (.ok { isSynced := true })),
  .feed 0 none, .feed 0 (some (.registered (.ok ⟨1, true⟩))),
  .feed 0 (some (.info (.ok { isSynced := true }))), .notify, .feed 0 none]

theorem work_after_shutdown :
    let s := (opened {} 7).after shutUnstarted
    .manager .stopped ∈ (opened {} 7).outputs shutUnstarted ∧
      .feed (.work .push) ∈ s.outputs startedLate :=
  ⟨List.mem_of_getElem? (i := 6) rfl, List.mem_of_getElem? (i := 20) rfl⟩

/-- A shutdown finds the handler and a request of the poller under way. -/
def busy : List Event := [
  .start 5, .wait 0 none, .wait 0 (some (.ok { isSynced := true })),
  .feed 0 none, .feed 0 (some (.registered (.ok ⟨1, true⟩))),
  .feed 0 (some (.info (.ok { isSynced := true }))), .notify, .feed 0 none,
  .poller 0 none, .poller 40000 none]

/-- A round in which the handler breaks off and the node answers nothing. -/
def turns : List Event := [
  .feed 0 (some .crashed), .poller 0 (some .recorded), .joined .feed, .joined .poller,
  .close .proceed, .close .disconnected]

theorem round_turns (s : Service) : Round s turns where
  feed := ⟨[], _, _, rfl, .turn 0 (some .crashed) nofun fun _ => .inr rfl⟩
  poller := ⟨[.feed 0 (some .crashed)], _, _, rfl, .turn 0 (some .recorded) fun _ => .inl rfl⟩
  joined := by rintro (_ | _) <;> simp [turns]
  close := by simp [turns]
  disconnected := by simp [turns]
  stays := by simp [turns]

def fourRounds : List Event := turns ++ (turns ++ (turns ++ (turns ++ [])))

theorem busy_leaves_nothing :
    let s := (opened {} 7).after busy
    .manager .stopped ∈ (s.step .shutDown).1.outputs fourRounds ∧
      AtRest ((opened {} 7).after (busy ++ .shutDown :: turns)) := by
  have h := shutdown_leaves_nothing {} 7 busy
  have hfree : Free (((opened {} 7).after busy).step .shutDown).1 fourRounds := by
    have hall : ∀ part ∈ fourRounds.inits,
        ((((opened {} 7).after busy).step .shutDown).1.after part).guestLeads = false := by
      decide
    exact fun part hp _ => hall part ((List.mem_inits _ _).mpr hp)
  have hrounds (s : Service) : Rounds s 4 fourRounds :=
    .round (round_turns _) (.round (round_turns _) (.round (round_turns _)
      (.round (round_turns _) (.none _))))
  refine ⟨h.1 rfl _ (hrounds _) hfree, ?_⟩
  have h' := (shutdown_leaves_nothing {} 7 (busy ++ .shutDown :: turns.dropLast)).2
    (.close .disconnected) (List.mem_of_getElem? (i := 4) rfl)
  exact h'.1

end WorkBridge.Service
