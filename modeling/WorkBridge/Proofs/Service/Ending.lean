import WorkBridge.Proofs.Service.Clients

/-!
How a shutdown ends.

While it waits a shutdown comes from one milestone to the next and does not fall back: the tasks
end, their ends are seen, the close gets the lock, and the client is disconnected.  A round of
turns takes it from each to the next, whatever the node leaves unanswered (`shutDown_returns`).
-/

namespace WorkBridge.Service

open Connection (Supervisor)
open Manager (Token)
open Stats (Poller)

variable {s s' : Service} {e : Event} {r : List Event} {t : Manager.Task} {w : Wake}

/-! ### What does not end it -/

/-- A shutdown is under way. -/
def IsShutting (s : Service) : Prop := s.manager.call = .joining ∨ s.manager.call = .closing

/-- A shutdown goes on, and closes if it did. -/
structure Going (s s' : Service) : Prop where
  shutting : s'.IsShutting
  closing : s.manager.call = .closing → s'.manager.call = .closing

namespace IsShutting

theorem not_idle (h : s.IsShutting) : s.isIdle ≠ true := by
  intro hi
  unfold isIdle at hi
  rcases h with hc | hc <;> simp [hc] at hi

theorem not_starting (h : s.IsShutting) (k : Token) (wait : Sync.Wait) :
    s.manager.call ≠ .starting k wait := by
  intro hc
  rcases h with hc' | hc' <;> cases hc.symm.trans hc'

theorem same (h : s.IsShutting) (hm : s'.manager = s.manager) : Going s s' where
  shutting := by
    unfold IsShutting
    rw [hm]
    exact h
  closing := by rw [hm]; exact id

theorem manage (h : s.IsShutting) {e : Manager.Event} (hm : e = .closed ∨ ∃ t b, e = .joined t b)
    (hn : .manager .stopped ∉ (s.manage e).2) : Going s (s.manage e).1 := by
  have hc := s.manage_cases e
  generalize s.manage e = r at hc hn ⊢
  cases hc with
  | ignored e he => exact h.same rfl
  | waits t k wait hc hw => exact absurd hc (h.not_starting k wait)
  | failed t k wait e hc hw => exact absurd hc (h.not_starting k wait)
  | launched t k wait hc hw => exact absurd hc (h.not_starting k wait)
  | joined t broken hc ht => exact ⟨.inl rfl, fun hc' => nomatch hc.symm.trans hc'⟩
  | joinedLast t broken hc ht => exact ⟨.inr rfl, fun _ => rfl⟩
  | closed hc e => simp at hn
  | _ => simp at hm

theorem step (h : s.IsShutting) (he : e ≠ .giveUp) (hn : .manager .stopped ∉ (s.step e).2) :
    Going s (s.step e).1 := by
  have hs := s.step_told e
  generalize s.step e = r at hs hn ⊢
  cases hs with
  | told s' e' before ht hm hc =>
    have hwaits : e' = .closed ∨ ∃ t b, e' = .joined t b := by
      cases ht with
      | start k hi => exact absurd hi h.not_idle
      | shutDown hi => exact absurd hi h.not_idle
      | giveUp => exact absurd rfl he
      | wait now answer k wait hc => exact absurd hc (h.not_starting k wait)
      | joined t broken => exact .inr ⟨t, broken, rfl⟩
      | closed w => exact .inl rfl
    have hgoing := (h.same hm).shutting.manage hwaits fun ho => hn (List.mem_append_right _ ho)
    exact ⟨hgoing.shutting, fun hc => hgoing.closing (hm ▸ hc)⟩
  | alone r hg hm hc => exact h.same hm

end IsShutting

/-! ### The wait -/

/-- The call of a guest has the lock, or is the next to have it. -/
def guestLeads (s : Service) : Bool := s.connection.calls.head?.any fun c => closeTicket < c.ticket

/-- A shutdown that is under way is still so after an event. -/
structure Passes (s : Service) (e : Event) : Prop where
  sound : Sound s
  shutting : s.IsShutting
  stays : e ≠ .giveUp
  pending : .manager .stopped ∉ (s.step e).2
  free : s.guestLeads = false

def Waiting (s : Service) (r : List Event) : Prop :=
  ∀ before e since, r = before ++ e :: since → Passes (s.after before) e

/-- What a waiting shutdown does not fall behind. -/
def Stable (P : Service → Prop) : Prop := ∀ s e, Passes s e → P s → P (s.step e).1

/-- An event of the run happens where `C` holds of it. -/
def Takes (s : Service) (r : List Event) (C : Service → Event → Prop) : Prop :=
  ∃ before e since, r = before ++ e :: since ∧ C (s.after before) e

theorem Takes.of_mem (h : e ∈ r) : s.Takes r fun _ e' => e' = e := by
  obtain ⟨before, since, hr⟩ := List.mem_iff_append.mp h
  exact ⟨before, e, since, hr, rfl⟩

namespace Waiting

theorem of_pending (hs : Sound s) (hc : s.IsShutting) (hg : .giveUp ∉ r)
    (hn : .manager .stopped ∉ s.outputs r)
    (hf : ∀ part, part <+: r → (s.after part).guestLeads = false) : s.Waiting r := by
  induction r generalizing s with
  | nil =>
    intro before e since hr
    cases before <;> cases hr
  | cons e r ih =>
    have he : e ≠ .giveUp := fun he => hg (he ▸ List.mem_cons_self)
    have hstep : .manager .stopped ∉ (s.step e).2 := fun hm => hn (List.mem_append_left _ hm)
    have hrest := ih (hs.step e) (hc.step he hstep).shutting
      (fun hm => hg (List.mem_cons_of_mem _ hm))
      (fun hm => hn (List.mem_append_right _ hm))
      fun part hp => hf (e :: part) (List.cons_prefix_cons.mpr ⟨rfl, hp⟩)
    intro before e' since hr
    cases before with
    | nil =>
      cases hr
      exact ⟨hs, hc, he, hstep, hf [] List.nil_prefix⟩
    | cons x before =>
      cases hr
      exact hrest before e' since rfl

theorem left {r' : List Event} (h : s.Waiting (r ++ r')) : s.Waiting r := by
  rintro before e since rfl
  exact h before e (since ++ r') (by rw [List.append_assoc, List.cons_append])

theorem right {r' : List Event} (h : s.Waiting (r ++ r')) : (s.after r).Waiting r' := by
  rintro before e since rfl
  rw [← after_append]
  exact h (r ++ before) e since (List.append_assoc ..).symm

theorem stable {P : Service → Prop} (h : s.Waiting r) (hP : Stable P) (hp : P s) :
    P (s.after r) := by
  induction r generalizing s with
  | nil => exact hp
  | cons e r ih => exact ih (right (r := [e]) h) (hP s e (h [] e r rfl) hp)

/-- One turn takes a waiting shutdown to its next milestone. -/
theorem reaches {P Q : Service → Prop} {C : Service → Event → Prop} (h : s.Waiting r)
    (hc : s.Takes r C) (hP : Stable P) (hQ : Stable Q)
    (hturn : ∀ s e, Passes s e → C s e → P s → Q (s.step e).1) (hp : P s) : Q (s.after r) := by
  -- `P` holds up to the turn, which makes it `Q`, and `Q` holds from there on.
  obtain ⟨before, e, since, rfl, hC⟩ := hc
  have hbefore : P (s.after before) := h.left.stable hP hp
  have hturned := hturn _ e (h before e since rfl) hC hbefore
  have hsince : (s.after (before ++ [e])).Waiting since := by
    refine right (r := before ++ [e]) ?_
    rw [List.append_assoc]
    exact h
  have hend := hsince.stable hQ (by rw [after_snoc]; exact hturned)
  rw [← after_append, List.append_assoc] at hend
  exact hend

end Waiting

/-! ### The milestones -/

theorem Passes.going (h : Passes s e) : Going s (s.step e).1 := h.shutting.step h.stays h.pending

theorem Passes.ordinary (h : Passes s e) : Ordinary s (s.step e) := by
  rcases step_launches s e with ho | ⟨k, hl⟩
  · exact ho
  · obtain ⟨now, answer, wait, -, hc, -⟩ := hl.turn
    exact absurd hc (h.shutting.not_starting k wait)

def HasEnded (t : Manager.Task) (s : Service) : Prop := ∀ x, s.task? t = some x → x.ended = true

theorem hasEnded_stable (t : Manager.Task) : Stable (HasEnded t) := by
  intro s e hpass h y hy
  obtain ⟨x, hx, -, -, hended⟩ := (hpass.ordinary.later t).before hy
  exact hended (h x hx)

def IsSeen (t : Manager.Task) (s : Service) : Prop := t ∉ s.manager.tasks

theorem isSeen_stable (t : Manager.Task) : Stable (IsSeen t) :=
  fun _ _ hpass h hm => h (hpass.ordinary.tasks t hm)

/-- The close of the manager has the lock. -/
structure IsLocked (s : Service) : Prop where
  closing : s.manager.call = .closing
  lock : s.connection.hasLock closeTicket = true

theorem tell_lock (h : s.connection.hasLock closeTicket = true) {e : Supervisor.Event}
    (hd : e ≠ .drop closeTicket) (hw : e.woken? ≠ some closeTicket) :
    (s.tell e).connection.hasLock closeTicket = true :=
  ((s.connection.step_move e).keeps_lock h hd).resolve_right fun hr => hw hr.1

theorem heed_lock (h : s.connection.hasLock closeTicket = true) (out : List Feed.Output) :
    (out.foldl heed s).connection.hasLock closeTicket = true := by
  induction out generalizing s with
  | nil => exact h
  | cons o out ih =>
    cases o with
    | reconnect => exact ih (tell_lock (e := .ask feedTicket .reconnect) h nofun nofun)
    | abandon =>
      have hd : Supervisor.Event.drop feedTicket ≠ .drop closeTicket := nofun
      exact ih (tell_lock h hd nofun)
    | _ => exact ih h

theorem isLocked_stable : Stable IsLocked := by
  intro s e hpass h
  refine ⟨hpass.going.closing h.closing, ?_⟩
  have hlock := h.lock
  have hother (n : Nat) : guestTicket n ≠ closeTicket := guest_ne (.inr rfl)
  have hs := s.step_cases e
  have hpending := hpass.pending
  generalize s.step e = r at hs hpending ⊢
  cases hs with
  | start k hi => exact absurd hi hpass.shutting.not_idle
  | shutDown hi => exact absurd hi hpass.shutting.not_idle
  | giveUp => exact absurd rfl hpass.stays
  | wait now answer k wait hc => exact absurd hc (hpass.shutting.not_starting k wait)
  | joined t broken hb =>
    have hm := s.manage_cases (.joined t broken)
    generalize s.manage (.joined t broken) = r at hm ⊢
    cases hm with
    | ignored e he => exact hlock
    | joined t broken hc ht => cases hc.symm.trans h.closing
    | joinedLast t broken hc ht => cases hc.symm.trans h.closing
  | close w hr =>
    exact ((s.connection.step_move _).keeps_lock hlock (by cases w <;> nofun)).resolve_right
      fun hended => hended.2 hr
  | closed w hr =>
    rw [manage_closed (s := s.tell (w.event closeTicket)) h.closing] at hpending
    simp at hpending
  | feed now answer k f hs ha => exact heed_lock (s := { s with feed := some (k, _) }) hlock _
  | reconnect now w k f hs hp hc =>
    have hw : (w.event feedTicket).woken? ≠ some closeTicket := by
      rw [woken_event]
      nofun
    have htold := tell_lock (s := s) hlock (by cases w <;> nofun) hw
    exact heed_lock (s := { s.tell (w.event feedTicket) with feed := some (k, _) }) htold _
  | guestAsks n kind => exact tell_lock hlock nofun nofun
  | guest n w =>
    refine tell_lock hlock (by cases w <;> nofun) ?_
    rw [woken_event]
    exact fun h => hother n (Option.some.inj h)
  | guestLeaves n =>
    exact tell_lock hlock (fun h => hother n (Supervisor.Event.drop.inj h)) nofun
  | _ => exact hlock

/-! ### The turns -/

def isHandling (s : Service) : Bool := s.feed.any fun t => t.2.point = .handling

def isRecording (s : Service) : Bool := s.poller.any fun t => t.2.point matches .recording

/-- The feed gets a turn, and the handler, if it runs, has returned or broken off. -/
inductive FeedTurn (s : Service) : Event → Prop
  | turn (now : Nat) (answer : Option Feed.Answer) (ha : ∀ i, answer ≠ some (.reconnected i))
      (hh : s.isHandling = true → answer = some .handled ∨ answer = some .crashed) :
    FeedTurn s (.feed now answer)

inductive PollerTurn (s : Service) : Event → Prop
  | turn (now : Nat) (answer : Option Poller.Answer)
      (hh : s.isRecording = true → answer = some .recorded ∨ answer = some .crashed) :
    PollerTurn s (.poller now answer)

theorem Passes.cancelled (h : Passes s e) {x : Standing} (hx : s.task? t = some x) :
    x.cancelled = true := by
  obtain ⟨hk, hc⟩ := h.sound.crew.token t x hx
  rw [hc]
  exact h.sound.crew.shutting h.shutting _ hk

theorem FeedTurn.ends (h : FeedTurn s e) (hpass : Passes s e) : HasEnded .feed (s.step e).1 := by
  obtain ⟨now, answer, ha, hh⟩ := h
  intro y hy
  cases hs : s.feed with
  | none =>
    have hstep : (s.step (.feed now answer)).1 = s := by simp [step, hs]
    rw [hstep, task?, hs] at hy
    cases hy
  | some x =>
    obtain ⟨k, f⟩ := x
    have hstep : s.step (.feed now answer) = s.feedTurn k f now answer := by
      unfold step
      rw [hs]
      split <;> simp_all
    have hc : f.cancelled = true := hpass.cancelled (t := .feed) (by rw [task?, hs]; rfl)
    have hend : (f.step (.turn now s.connection.slot answer)).1.isEnded = true := by
      rcases Feed.turn_of_cancelled hc now s.connection.slot answer with ho | ⟨ht, hended | hrun⟩
      · exact ho.ended
      · rw [Feed.step, ht]
        exact hended
      · have hrunning : s.isHandling = true := by simp [isHandling, hs, hrun.1]
        rcases hh hrunning with hret | hret
        · exact absurd hret hrun.2.1
        · exact absurd hret hrun.2.2
    obtain ⟨connection, hr⟩ := Crew.feedTurn_frame s k f now answer
    rw [hstep, hr] at hy
    cases hy
    exact hend

theorem PollerTurn.ends (h : PollerTurn s e) (hpass : Passes s e) :
    HasEnded .poller (s.step e).1 := by
  obtain ⟨now, answer, hh⟩ := h
  intro y hy
  cases hs : s.poller with
  | none =>
    have hstep : (s.step (.poller now answer)).1 = s := by simp [step, hs]
    rw [hstep, task?, hs] at hy
    cases hy
  | some x =>
    obtain ⟨k, p⟩ := x
    have hstep : s.step (.poller now answer) = s.pollerTurn k p now answer := by
      unfold step
      rw [hs]
    have hc : p.cancelled = true := hpass.cancelled (t := .poller) (by rw [task?, hs]; rfl)
    have hend : (p.step (.turn now s.connection.slot answer)).1.isEnded = true := by
      rcases Poller.turn_of_cancelled hc now s.connection.slot answer with ho | ⟨ht, hended | hrun⟩
      · exact ho.ended
      · rw [Poller.step, ht]
        exact hended
      · have hrunning : s.isRecording = true := by simp [isRecording, hs, hrun.1]
        rcases hh hrunning with hret | hret
        · exact absurd hret hrun.2.1
        · exact absurd hret hrun.2.2
    rw [hstep] at hy
    cases hy
    exact hend

/-- The end of a task that has ended is seen. -/
theorem joined_seen (hpass : Passes s (.joined t)) (h : HasEnded t s) :
    IsSeen t (s.step (.joined t)).1 := by
  have hcrew := hpass.sound.crew
  by_cases hm : t ∈ s.manager.tasks
  · obtain ⟨x, hx⟩ := Option.isSome_iff_exists.mp (hcrew.launched t hm t)
    obtain ⟨broken, hb⟩ : ∃ broken, s.ended? t = some broken := by
      rw [← Option.isSome_iff_exists, Crew.isSome_ended?, hx]
      exact h x hx
    have hstep : s.step (.joined t) = s.manage (.joined t broken) := by
      simp only [step, hb, if_pos hm]
    have hcall : s.manager.call = .joining := by
      refine hpass.shutting.resolve_right fun hc => ?_
      rw [hcrew.closing hc] at hm
      cases hm
    rw [hstep, IsSeen]
    have hc := s.manage_cases (.joined t broken)
    generalize s.manage (.joined t broken) = r at hc ⊢
    cases hc with
    | ignored e he => exact absurd hcall he
    | joined t broken hc ht => exact hcrew.nodup.not_mem_erase
    | joinedLast t broken hc ht => exact hcrew.nodup.not_mem_erase
  · exact fun ht => hm (hpass.ordinary.tasks t ht)

theorem closing_of_seen (hs : Sound s) (hc : s.IsShutting) (h : ∀ t, IsSeen t s) :
    s.manager.call = .closing := by
  refine hc.resolve_left fun hj => hs.crew.joining hj ?_
  exact List.eq_nil_iff_forall_not_mem.mpr h

theorem feed_leaves_line (hs : Sound s) (hf : HasEnded .feed s) :
    s.connection.line feedTicket = [] := by
  have hn : s.isReconnecting = false := by
    unfold isReconnecting
    cases hs : s.feed with
    | none => rfl
    | some x =>
      have hended : x.2.isEnded = true :=
        hf ⟨x.1, x.2.cancelled, x.2.isEnded⟩ (by rw [task?, hs]; rfl)
      have hp : x.2.point ≠ .reconnecting := by
        intro hp
        simp [Feed.isEnded, hp] at hended
      simp [hp]
  rw [hs.lined.feed, hn]
  rfl

theorem ticket_of_free (hf : s.guestLeads = false) (hl : s.connection.line feedTicket = [])
    {c : Connection.Call} {rest : List Connection.Call} (hc : s.connection.calls = c :: rest) :
    c.ticket = closeTicket := by
  have hle : ¬closeTicket < c.ticket := by simpa [guestLeads, hc] using hf
  have hne : c.ticket ≠ feedTicket := by
    intro ht
    rw [Supervisor.line_cons hc, if_pos ht] at hl
    cases hl
  unfold closeTicket feedTicket at *
  omega

/-- The close is at the head of the line, where nobody else is before it. -/
theorem close_leads (hpass : Passes s e) (hc : s.manager.call = .closing)
    (hf : HasEnded .feed s) :
    ∃ stage rest, s.connection.calls = ⟨closeTicket, .close, stage⟩ :: rest := by
  have hclose : s.connection.line closeTicket = [.close] := by
    rw [hpass.sound.lined.close, isClosing, hc]
    rfl
  cases hcalls : s.connection.calls with
  | nil => simp [Supervisor.line, hcalls] at hclose
  | cons c rest =>
    have ht := ticket_of_free hpass.free (feed_leaves_line hpass.sound hf) hcalls
    rw [Supervisor.line_cons hcalls, if_pos ht] at hclose
    have hk : c.kind = .close := (List.cons.inj hclose).1
    obtain ⟨ticket, kind, stage⟩ := c
    exact ⟨stage, rest, by rw [← ht, ← hk]⟩

/-- Where the close ends, the shutdown does. -/
theorem results_close (hpass : Passes s (.close w)) (hc : s.manager.call = .closing) :
    Supervisor.results (s.wake closeTicket w) = [] := by
  have hs := s.step_cases (.close w)
  have hpending := hpass.pending
  generalize s.step (.close w) = r at hs hpending
  cases hs with
  | idle e he => cases he
  | noted e n hn hq hw => cases hw
  | close w hr => exact hr
  | closed w hr =>
    rw [manage_closed (s := s.tell (w.event closeTicket)) hc] at hpending
    simp at hpending

theorem close_locks (hpass : Passes s (.close .proceed)) (hc : s.manager.call = .closing)
    (hf : HasEnded .feed s) : IsLocked (s.step (.close .proceed)).1 := by
  obtain ⟨stage, rest, hcalls⟩ := close_leads hpass hc hf
  have hr := results_close hpass hc
  refine ⟨hpass.going.closing hc, ?_⟩
  have hstep : (s.step (.close .proceed)).1.connection =
      (s.connection.step (.proceed closeTicket)).1 := by
    unfold wake at hr
    simp only [step, hr, if_true]
    rfl
  rw [hstep]
  exact (Supervisor.proceed_close hcalls).resolve_right fun hn => hn hr

theorem close_returns (hpass : Passes s (.close .disconnected)) (h : IsLocked s)
    (hf : HasEnded .feed s) : False := by
  obtain ⟨stage, rest, hcalls⟩ := close_leads hpass h.closing hf
  have hq : stage ≠ .queued := by
    obtain ⟨c, rest', hc, -, hq⟩ := Supervisor.hasLock_iff.mp h.lock
    rw [hcalls] at hc
    rw [← (List.cons.inj hc).1] at hq
    exact hq
  exact Supervisor.disconnected_close hpass.sound.lined.orderly hcalls hq
    (results_close hpass h.closing)

/-! ### Rounds -/

/-- Everybody gets a turn: the tasks, the manager for each of their ends, and its close, for which
the client has been disconnected.  Nothing else has to come. -/
structure Round (s : Service) (r : List Event) : Prop where
  feed : s.Takes r FeedTurn
  poller : s.Takes r PollerTurn
  joined : ∀ t, .joined t ∈ r
  close : .close .proceed ∈ r
  disconnected : .close .disconnected ∈ r
  stays : .giveUp ∉ r

inductive Rounds : Service → Nat → List Event → Prop
  | none (s : Service) : Rounds s 0 []
  | round {s : Service} {n : Nat} {r rest : List Event} (h : Round s r)
      (hrest : Rounds (s.after r) n rest) : Rounds s (n + 1) (r ++ rest)

theorem Rounds.stays {n : Nat} (h : Rounds s n r) : .giveUp ∉ r := by
  induction h with
  | none s => exact List.not_mem_nil
  | round h hrest ih =>
    intro hm
    rcases List.mem_append.mp hm with hm | hm
    · exact h.stays hm
    · exact ih hm

theorem stable_and {P Q : Service → Prop} (hP : Stable P) (hQ : Stable Q) :
    Stable fun s => P s ∧ Q s :=
  fun s e hpass h => ⟨hP s e hpass h.1, hQ s e hpass h.2⟩

theorem stable_true : Stable fun _ => True := fun _ _ _ _ => trivial

theorem Round.tasks_end (h : Round s r) (hw : s.Waiting r) : ∀ t, HasEnded t (s.after r) := by
  intro t
  cases t with
  | feed =>
    exact hw.reaches h.feed stable_true (hasEnded_stable _) (fun s e hp ht _ => ht.ends hp) trivial
  | poller =>
    exact hw.reaches h.poller stable_true (hasEnded_stable _) (fun s e hp ht _ => ht.ends hp)
      trivial

theorem Round.ends_seen (h : Round s r) (hw : s.Waiting r) (he : ∀ t, HasEnded t s) :
    ∀ t, IsSeen t (s.after r) := by
  intro t
  refine hw.reaches (.of_mem (h.joined t)) (hasEnded_stable t) (isSeen_stable t) ?_ (he t)
  rintro s _ hp rfl hended
  exact joined_seen hp hended

theorem closing_stable : Stable fun s => s.manager.call = .closing :=
  fun _ _ hpass h => hpass.going.closing h

theorem Round.close_locks (h : Round s r) (hw : s.Waiting r) (he : HasEnded .feed s)
    (hc : s.manager.call = .closing) : IsLocked (s.after r) := by
  refine hw.reaches (.of_mem h.close) (stable_and closing_stable (hasEnded_stable .feed))
    isLocked_stable ?_ ⟨hc, he⟩
  rintro s _ hp rfl ⟨hc, he⟩
  exact Service.close_locks hp hc he

theorem Round.not_locked (h : Round s r) (hw : s.Waiting r) (he : HasEnded .feed s)
    (hl : IsLocked s) : False := by
  refine hw.reaches (Q := fun _ => False) (.of_mem h.disconnected)
    (stable_and isLocked_stable (hasEnded_stable .feed)) (fun _ _ _ => id) ?_ ⟨hl, he⟩
  rintro s _ hp rfl ⟨hl, he⟩
  exact close_returns hp hl he

/-- Nobody but the service has the lock as long as the shutdown has not returned. -/
def Free (s : Service) (r : List Event) : Prop :=
  ∀ part, part <+: r → .manager .stopped ∉ s.outputs part → (s.after part).guestLeads = false

theorem Waiting.shutting_after (hw : s.Waiting r) (hs : Sound s) (hc : s.IsShutting) :
    Sound (s.after r) ∧ (s.after r).IsShutting := by
  refine hw.stable (P := fun s => Sound s ∧ s.IsShutting) ?_ ⟨hs, hc⟩
  exact fun s e hpass h => ⟨h.1.step e, hpass.going.shutting⟩

/-- A shutdown has returned after four rounds. -/
theorem shutDown_returns (hs : Sound s) (hc : s.IsShutting) (hr : Rounds s 4 r)
    (hf : Free s r) : .manager .stopped ∈ s.outputs r := by
  by_contra hn
  have hw : s.Waiting r := by
    refine .of_pending hs hc hr.stays hn fun part hp => hf part hp fun hm => hn ?_
    obtain ⟨rest, rfl⟩ := hp
    rw [outputs_append]
    exact List.mem_append_left _ hm
  obtain _ | ⟨h₁, hr⟩ := hr
  obtain _ | ⟨h₂, hr⟩ := hr
  obtain _ | ⟨h₃, hr⟩ := hr
  obtain _ | ⟨h₄, hr⟩ := hr
  have hw₁ := hw.left
  have hw₂ := hw.right.left
  have hw₃ := hw.right.right.left
  have hw₄ := hw.right.right.right.left
  -- The tasks end, their ends are seen, the close gets the lock, and it cannot keep it.
  have hended := h₁.tasks_end hw₁
  obtain ⟨hs₁, hc₁⟩ := hw₁.shutting_after hs hc
  have hseen := h₂.ends_seen hw₂ hended
  obtain ⟨hs₂, hc₂⟩ := hw₂.shutting_after hs₁ hc₁
  have hfeed₂ := hw₂.stable (hasEnded_stable .feed) (hended .feed)
  have hlocked := h₃.close_locks hw₃ hfeed₂ (closing_of_seen hs₂ hc₂ hseen)
  have hfeed₃ := hw₃.stable (hasEnded_stable .feed) hfeed₂
  exact h₄.not_locked hw₄ hfeed₃ hlocked

end WorkBridge.Service
