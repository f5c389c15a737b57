import WorkBridge.Proofs.Clock.Signal
import WorkBridge.Proofs.Clock.Ticker
import WorkBridge.Proofs.Feed.Turn

/-!
No notification is lost, and many count as one.

Calls of the handler for a notification and the wake-ups that the feed's signal keeps are paid
for by notifications (`Kept`).  A wake-up is only given away for such a call, so the feed makes
one the next time it looks for an event; and as a signal keeps two wake-ups at most, no more
than two calls follow the last notification: `push_not_lost`.
-/

namespace WorkBridge.Feed

open Node (ClientId)

/-- What holds of a feed between any two steps: its signal has a waiter exactly while it waits
for an event, it does not wait past a stored wake-up, and it has a ticker once it has
registered. -/
structure Attentive (settings : Settings) (f : Feed) : Prop where
  same : f.settings = settings
  absent : f.point ≠ .awaiting → f.signal.waiter = .absent
  present : f.point = .awaiting → f.signal.waiter ≠ .absent
  stored : f.point = .awaiting → f.signal.isWoken = false → f.signal.stored = false
  ticker : f.point.ticks = true →
    ∃ t, f.ticker = some t ∧ t.period = settings.maxWorkStaleness.toMillis

namespace Attentive

variable {settings : Settings} {f g : Feed} {now : Nat} {r : Feed × List Output}

theorem start (settings : Settings) : Attentive settings (start settings) where
  same := rfl
  absent := fun _ => rfl
  present := nofun
  stored := nofun
  ticker := nofun

/-- A feed that has turned aside has no waiter. -/
theorem of_aside (h : Aside g r) (hs : g.settings = settings) (ha : g.signal.waiter = .absent)
    (ht : r.1.point.ticks = true →
      ∃ t, g.ticker = some t ∧ t.period = settings.maxWorkStaleness.toMillis) :
    Attentive settings r.1 where
  same := h.settings.trans hs
  absent := by
    intro _
    rcases h.signal with he | ⟨-, he⟩
    · rw [he, ha]
    · rw [he, Signal.waiter_leave]
  present := fun hp => absurd hp h.not_awaiting
  stored := fun hp => absurd hp h.not_awaiting
  ticker := by
    intro hp
    rw [h.ticker]
    exact ht hp

/-- A feed that begins to wait, or goes on to. -/
theorem waiting (h : Attentive settings f) {s : Stimulus} (hl : f.looks s = true) :
    Attentive settings f.waiting := by
  have hp : f.point.ticks = true := by
    unfold looks at hl
    split at hl
    · split at hl
      · rename_i hp
        rw [hp]
        rfl
      · rename_i hp
        rw [hp]
        rfl
      · cases hl
    · cases hl
  unfold Feed.waiting
  split
  · exact h
  · exact {
      same := h.same
      absent := fun hp => absurd rfl hp
      present := fun _ => Signal.waiter_listen_ne f.signal
      stored := fun _ _ => Signal.stored_listen f.signal
      ticker := fun _ => h.ticker hp }

/-- A feed that has found an event stops waiting and keeps the period of its ticker. -/
theorem announced (h : Attentive settings f) (hp : f.point = .awaiting) {signal : Signal}
    (hs : signal.waiter = .absent) {next : Ticker → Option Ticker}
    (hn : ∀ t t', next t = some t' → t'.period = t.period) {ticker : Ticker}
    (ht : f.ticker.bind next = some ticker) (t : Trigger) :
    Attentive settings ({ f with signal, ticker := some ticker }.announce t).1 where
  same := h.same
  absent := fun _ => hs
  present := nofun
  stored := nofun
  ticker := by
    intro _
    obtain ⟨t₀, h₀, hp₀⟩ := h.ticker (by rw [hp]; rfl)
    rw [h₀] at ht
    exact ⟨ticker, rfl, (hn t₀ ticker ht).trans hp₀⟩

theorem limit (h : Attentive settings f) (hp : f.point = .awaiting)
    (ht : f.ticker.bind (·.reset? now) = none) :
    instantLimit ≤ now + settings.maxWorkStaleness.toMillis := by
  obtain ⟨t, hf, hd⟩ := h.ticker (by rw [hp]; rfl)
  rw [hf] at ht
  rw [← hd]
  exact Ticker.limit_of_reset ht

theorem stopped (hs : f.settings = settings) : Attentive settings f.stop.1 where
  same := hs
  absent := fun _ => Signal.waiter_leave f.signal
  present := nofun
  stored := nofun
  ticker := nofun

theorem failed (hs : f.settings = settings) : Attentive settings f.fail.1 where
  same := hs
  absent := fun _ => Signal.waiter_leave f.signal
  present := nofun
  stored := nofun
  ticker := nofun

theorem looked (h : Attentive settings f) (hp : f.point = .awaiting) (hl : Look f now r) :
    Attentive settings r.1 := by
  cases hl with
  | cancelled hc hr => subst hr; exact stopped h.same
  | push hc hw ticker ht hr =>
    subst hr
    exact h.announced hp (Signal.waiter_take f.signal)
      (fun _ _ hn => by rw [Ticker.eq_of_reset hn]) ht .push
  | pushFailing hc hw ht hr => subst hr; exact failed h.same
  | tick hc hw hd ticker ht hr =>
    subst hr
    exact h.announced hp (Signal.waiter_leave f.signal) (fun _ _ => Ticker.period_of_tick) ht .timer
  | tickFailing hc hw hd ht hr => subst hr; exact failed h.same
  | wait hc hw hd hr => subst hr; exact h

theorem first (h : Attentive settings f) (hp : f.point.isFirst = true) (hf : First f now r) :
    Attentive settings r.1 := by
  have ha : f.signal.waiter = .absent := h.absent (by intro hq; rw [hq] at hp; cases hp)
  cases hf with
  | registering hr hw =>
    rw [hr]
    exact ⟨h.same, fun _ => ha, nofun, nofun, nofun⟩
  | ticking ticker ht hr =>
    refine of_aside hr h.same ha fun _ => ⟨ticker, rfl, ?_⟩
    rw [← h.same]
    exact congrArg Ticker.period (Ticker.eq_of_start ht)
  | failing hr hq => exact of_aside hr h.same ha (by rw [hq]; nofun)

theorem step (h : Attentive settings f) (s : Stimulus) : Attentive settings (f.step s).1 := by
  cases s with
  | cancel => exact ⟨h.same, h.absent, h.present, h.stored, h.ticker⟩
  | notify =>
    refine ⟨h.same, fun hp => Signal.waiter_notify (h.absent hp), fun hp => ?_, fun hp hw => ?_,
      h.ticker⟩
    · exact Signal.waiter_ne_of_isWoken (Signal.isWoken_notify (h.present hp))
    · have hn := Signal.isWoken_notify (h.present hp)
      exact absurd (hw.symm.trans hn) Bool.false_ne_true
  | lapse id =>
    obtain ⟨held, hf⟩ : ∃ held, f.lapse id = { f with held } := lapse_eq f id
    rw [Feed.step, hf]
    exact ⟨h.same, h.absent, h.present, h.stored, h.ticker⟩
  | abort =>
    unfold Feed.step abort
    dsimp only
    split
    · exact h
    · exact failed h.same
  | turn now slot answer =>
    cases turn_cases f now slot answer with
    | stay hp ha hr => rw [Feed.step, hr]; exact h
    | first hp hf => exact h.first hp hf
    | aside hf hp hr => exact of_aside hr h.same (h.absent hp) fun _ => h.ticker hf
    | look hl hr => exact (h.waiting hl).looked (waiting_point f) hr

end Attentive

theorem attentive (settings : Settings) (ss : List Stimulus) :
    Attentive settings ((start settings).after ss) :=
  after_induction (Attentive.start settings) (fun _ s h => h.step s) ss

/-! ### Wake-ups kept and calls made -/

/-- The task breaks off because the instant of the next tick cannot be computed. -/
def Overflows (settings : Settings) (s : Stimulus) (r : Feed × List Output) : Prop :=
  r.1.point = .failed ∧ ∃ now slot answer, s = .turn now slot answer ∧
    instantLimit ≤ now + settings.maxWorkStaleness.toMillis

/-- What a step does with the wake-ups that are kept. -/
inductive Kept (settings : Settings) (f : Feed) (s : Stimulus) (r : Feed × List Output) : Prop
  /-- No call for a notification: what was kept stays, and only a notification adds to it. -/
  | saves (ho : .work .push ∉ r.2) (ht : .work .timer ∈ r.2 → f.signal.kept = 0)
      (hle : r.1.signal.kept ≤ f.signal.kept + if (Event.happened f.point s).isNotice then 1 else 0)
      (hpos : 0 < f.signal.kept → 0 < r.1.signal.kept)
  /-- A call takes one. -/
  | spends (ho : ∃ e u, r.2 = [.log e, .update u, .work .push])
      (hk : r.1.signal.kept + 1 = f.signal.kept)
  | breaks (ho : ∀ t, .work t ∉ r.2) (hle : r.1.signal.kept ≤ f.signal.kept)
      (hf : Overflows settings s r)

namespace Kept

variable {settings : Settings} {f g : Feed} {s : Stimulus} {now : Nat} {r : Feed × List Output}

theorem of_aside (h : Aside g r) (hs : g.signal = f.signal) : Kept settings f s r := by
  refine .saves (h.no_work .push) (fun ht => absurd ht (h.no_work .timer)) ?_ fun hp => ?_
  · rcases h.signal with he | ⟨-, he⟩
    · rw [he, hs]
      omega
    · have := Signal.kept_leave_le g.signal
      rw [he, ← hs]
      omega
  · rw [← hs] at hp
    rcases h.signal with he | ⟨-, he⟩
    · rw [he]
      exact hp
    · rw [he]
      exact Signal.kept_leave_pos hp

theorem of_first (h : First f now r) : Kept settings f s r := by
  cases h with
  | registering hr hw =>
    refine .saves (hw .push) (fun ht => absurd ht (hw .timer)) ?_ ?_
    · rw [hr]
      exact Nat.le_add_right _ _
    · rw [hr]
      exact id
  | ticking ticker ht h => exact .of_aside h rfl
  | failing h hp => exact .of_aside h rfl

/-- Only a wake-up that nobody took is left to a feed that finds none. -/
theorem kept_eq_zero (h : Attentive settings f) (hp : f.point = .awaiting)
    (hw : f.signal.isWoken = false) : f.signal.kept = 0 :=
  Signal.kept_eq_zero_iff.mpr ⟨h.stored hp hw, hw⟩

theorem of_look (h : Attentive settings f) (hp : f.point = .awaiting) {slot : Option ClientId}
    {answer : Option Answer} (hl : Look f now r) :
    Kept settings f (.turn now slot answer) r := by
  cases hl with
  | cancelled hc hr => subst hr; exact .of_aside (.stop f) rfl
  | push hc hw ticker ht hr =>
    subst hr
    exact .spends ⟨_, _, rfl⟩ (Signal.kept_take hw)
  | pushFailing hc hw ht hr =>
    subst hr
    refine .breaks (Aside.fail _).no_work ?_ ⟨rfl, now, slot, answer, rfl, ?_⟩
    · have hle := Signal.kept_leave_le f.signal.take
      have hk := Signal.kept_take hw
      show f.signal.take.leave.kept ≤ _
      omega
    · exact h.limit hp ht
  | tick hc hw hd ticker ht hr =>
    subst hr
    have hz := kept_eq_zero h hp hw
    refine .saves (by simp [announce]) (fun _ => hz) ?_ (by omega)
    exact Nat.le_add_right_of_le (Signal.kept_leave_le f.signal)
  | tickFailing hc hw hd ht hr =>
    subst hr
    have hz := kept_eq_zero h hp hw
    refine .saves ((Aside.fail _).no_work _) (fun _ => hz) ?_ (by omega)
    have h₁ := Signal.kept_leave_le f.signal
    have h₂ := Signal.kept_leave_le f.signal.leave
    exact Nat.le_add_right_of_le (Nat.le_trans h₂ h₁)
  | wait hc hw hd hr =>
    subst hr
    exact .saves (by simp) (by simp) (Nat.le_add_right _ _) id

theorem kept_waiting (h : Attentive settings f) : f.waiting.signal.kept = f.signal.kept := by
  unfold waiting
  split
  · rfl
  · rename_i hp
    exact Signal.kept_listen (h.absent (by simpa using hp))

theorem of_waiting (h : Attentive settings f) (hk : Kept settings f.waiting s r)
    (hs : ∀ p, (Event.happened p s).isNotice = false) : Kept settings f s r := by
  have he := kept_waiting h
  cases hk with
  | saves ho ht hle hpos =>
    refine .saves ho (fun hm => he ▸ ht hm) ?_ (he ▸ hpos)
    rw [hs, he] at hle
    rw [hs]
    exact hle
  | spends ho hk => exact .spends ho (he ▸ hk)
  | breaks ho hle hf => exact .breaks ho (he ▸ hle) hf

theorem step (h : Attentive settings f) (s : Stimulus) : Kept settings f s (f.step s) := by
  cases s with
  | cancel => exact .saves (by simp [Feed.step]) (by simp [Feed.step]) (Nat.le_add_right _ _) id
  | notify =>
    exact .saves (by simp [Feed.step]) (by simp [Feed.step]) (Signal.kept_notify_le f.signal)
      fun _ => Signal.kept_notify_pos f.signal
  | lapse id =>
    obtain ⟨held, hf⟩ := lapse_eq f id
    rw [Feed.step, hf]
    exact .saves (by simp) (by simp) (Nat.le_add_right _ _) fun hp => hp
  | abort =>
    unfold Feed.step abort
    dsimp only
    split
    · exact .saves (by simp) (by simp) (Nat.le_add_right _ _) id
    · exact .of_aside (Aside.fail f).abandoning rfl
  | turn now slot answer =>
    cases turn_cases f now slot answer with
    | stay hp ha hr =>
      rw [Feed.step, hr]
      exact .saves (by simp) (by simp) (Nat.le_add_right _ _) id
    | first hp hf => exact .of_first hf
    | aside hf hp hr => exact .of_aside hr rfl
    | look hl hr =>
      exact .of_waiting h (.of_look (h.waiting hl) (waiting_point f) hr) fun _ => rfl

theorem pushes_le (h : Kept settings f s r) :
    (r.2.map Event.did).countP Event.isPush + r.1.signal.kept ≤
      f.signal.kept + if (Event.happened f.point s).isNotice then 1 else 0 := by
  have hz : .work .push ∉ r.2 → (r.2.map Event.did).countP Event.isPush = 0 := by
    intro ho
    refine List.countP_eq_zero.mpr fun e he hp => ?_
    obtain ⟨o, hm, rfl⟩ := List.mem_map.mp he
    unfold Event.isPush at hp
    split at hp
    · rename_i heq
      cases heq
      exact ho hm
    · cases hp
  cases h with
  | saves ho ht hle hpos =>
    rw [hz ho]
    omega
  | spends ho hk =>
    obtain ⟨e, u, hr⟩ := ho
    have hc : (r.2.map Event.did).countP Event.isPush = 1 := by
      rw [hr]
      rfl
    omega
  | breaks ho hle hf =>
    rw [hz (ho .push)]
    omega

end Kept

/-! ### Runs -/

theorem isNotice_did (out : List Output) : (out.map Event.did).countP Event.isNotice = 0 := by
  refine List.countP_eq_zero.mpr fun e he hn => ?_
  obtain ⟨o, -, rfl⟩ := List.mem_map.mp he
  cases hn

/-- All calls for notifications so far and the wake-ups that are left come of notifications. -/
theorem kept_history {settings : Settings} {f : Feed} (h : Attentive settings f)
    (ss : List Stimulus) :
    (f.history ss).countP Event.isPush + (f.after ss).signal.kept ≤
      f.signal.kept + (f.history ss).countP Event.isNotice := by
  induction ss generalizing f with
  | nil => simp [history, after_nil]
  | cons s ss ih =>
    have hs := (Kept.step h s).pushes_le
    have ht := ih (h.step s)
    have hp : (Event.happened f.point s).isPush = false := rfl
    simp only [history, after_cons, List.cons_append, List.countP_cons, List.countP_append,
      isNotice_did, hp, Bool.false_eq_true, if_false]
    omega

/-- What is seen of a step, from its beginning to any point in it. -/
theorem pushes_le_of_prefix {settings : Settings} {f : Feed} (h : Attentive settings f)
    (s : Stimulus) {seen : List Event}
    (hs : seen <+: .happened f.point s :: (f.step s).2.map .did) :
    seen.countP Event.isPush ≤ f.signal.kept + seen.countP Event.isNotice := by
  cases seen with
  | nil => exact Nat.zero_le _
  | cons e seen =>
    obtain ⟨rfl, hm⟩ := List.cons_prefix_cons.mp hs
    have hk := (Kept.step h s).pushes_le
    have hle := hm.sublist.countP_le (p := Event.isPush)
    have hp : (Event.happened f.point s).isPush = false := rfl
    simp only [List.countP_cons, hp, Bool.false_eq_true, if_false]
    omega

theorem pushes_le_notices (settings : Settings) (ss : List Stimulus) {seen : List Event}
    (hs : seen <+: (start settings).history ss) :
    seen.countP Event.isPush ≤ seen.countP Event.isNotice := by
  induction ss using List.reverseRecOn generalizing seen with
  | nil =>
    rw [List.prefix_nil.mp hs]
    exact Nat.le_refl 0
  | append_singleton ss s ih =>
    rw [history_snoc] at hs
    rcases List.prefix_or_prefix_of_prefix hs (List.prefix_append _ _) with hs' | ⟨more, rfl⟩
    · exact ih hs'
    · have ha := pushes_le_of_prefix (attentive settings ss) s
        ((List.prefix_append_right_inj _).mp hs)
      have hk := kept_history (Attentive.start settings) ss
      have hz : (start settings).signal.kept = 0 := rfl
      simp only [List.countP_append]
      omega

theorem notices_eq_zero (f : Feed) {ss : List Stimulus} (h : .notify ∉ ss) :
    (f.history ss).countP Event.isNotice = 0 := by
  induction ss generalizing f with
  | nil => rfl
  | cons s ss ih =>
    rw [List.mem_cons, not_or] at h
    have hs : (Event.happened f.point s).isNotice = false := by
      cases s with
      | notify => exact absurd rfl h.1
      | _ => rfl
    simp only [history, List.cons_append, List.countP_cons, List.countP_append, isNotice_did, hs,
      ih _ h.2, Bool.false_eq_true, if_false, Nat.add_zero]

theorem failed_step {f : Feed} (h : f.point = .failed) (s : Stimulus) :
    (f.step s).1.point = .failed := by
  cases s with
  | lapse id =>
    obtain ⟨held, hf⟩ := lapse_eq f id
    rw [step, hf]
    exact h
  | abort => simp [step, abort, isEnded, h]
  | turn now slot answer =>
    unfold step turn
    simp only [h]
  | _ => exact h

/-- A wake-up is kept for as long as no call is made for it. -/
theorem kept_pos {settings : Settings} {f : Feed} (h : Attentive settings f)
    (hk : 0 < f.signal.kept ∨ f.point = .failed) {ss : List Stimulus}
    (hn : ∀ e ∈ f.history ss, e.isPush = false) :
    0 < (f.after ss).signal.kept ∨ (f.after ss).point = .failed := by
  induction ss generalizing f with
  | nil => exact hk
  | cons s ss ih =>
    rw [history] at hn
    refine ih (h.step s) ?_ fun e he => hn e (List.mem_append_right _ he)
    rcases hk with hk | hk
    · cases Kept.step h s with
      | saves ho ht hle hpos => exact .inl (hpos hk)
      | spends ho hk' =>
        obtain ⟨e, u, hr⟩ := ho
        have := hn (.did (.work .push)) (by simp [hr])
        cases this
      | breaks ho hle hf => exact .inr hf.1
    · exact .inr (failed_step hk s)

/-- A feed that looks for an event while a wake-up is kept finds it, and nothing comes before it
but a cancellation. -/
theorem look_pending {settings : Settings} {f : Feed} (h : Attentive settings f) {s : Stimulus}
    (hl : f.looks s = true) (hc : f.cancelled = false) (hk : 0 < f.signal.kept) :
    .work .push ∈ (f.step s).2 ∨ Overflows settings s (f.step s) := by
  cases s with
  | turn now slot answer =>
    have hw : 0 < f.waiting.signal.kept := by
      rw [Kept.kept_waiting h]
      exact hk
    have hc' : f.waiting.cancelled = false := by
      unfold waiting
      split <;> exact hc
    have hlook := lookForEvent_cases f.waiting now
    rw [← turn_of_looks hl] at hlook
    have ha := h.waiting hl
    have hp := waiting_point f
    cases hlook with
    | cancelled hc₁ hr => exact absurd (hc'.symm.trans hc₁) Bool.false_ne_true
    | push hc₁ hi ticker ht hr => exact .inl (by simp [step, hr, announce])
    | pushFailing hc₁ hi ht hr =>
      refine .inr ⟨by rw [step, hr]; rfl, now, slot, answer, rfl, ?_⟩
      exact ha.limit hp ht
    | tick hc₁ hi hd ticker ht hr =>
      have := Kept.kept_eq_zero ha hp hi
      omega
    | tickFailing hc₁ hi hd ht hr =>
      have := Kept.kept_eq_zero ha hp hi
      omega
    | wait hc₁ hi hd hr =>
      have := Kept.kept_eq_zero ha hp hi
      omega
  | _ => cases hl

/-- A notification is never lost, and a burst of them makes two calls at most.  As long as no
call for a notification has come after one, the next time that the feed looks for an event, in
the wait that is under way or at the start of the next, it makes one.  It makes no difference
whether the ticker is due; only a cancellation comes first, or the end of what instants can be
computed.  At no time are there more such calls than notifications, and no more than two follow
the last one.  Nothing else that a feed does uses up a wake-up, the ticker least of all. -/
theorem push_not_lost (settings : Settings) :
    (∀ before since s,
      (∀ e ∈ ((start settings).after (before ++ [.notify])).history since, e.isPush = false) →
      let f := (start settings).after (before ++ .notify :: since)
      f.looks s = true → f.cancelled = false →
        .work .push ∈ (f.step s).2 ∨ Overflows settings s (f.step s)) ∧
    (∀ ss seen, seen <+: (start settings).history ss →
      seen.countP Event.isPush ≤ seen.countP Event.isNotice) ∧
    (∀ before rest, .notify ∉ rest →
      (((start settings).after before).history rest).countP Event.isPush ≤ 2) ∧
    ∀ ss s,
      let f := (start settings).after ss
      0 < f.signal.kept →
        .work .timer ∉ (f.step s).2 ∧
        (0 < (f.step s).1.signal.kept ∨ .work .push ∈ (f.step s).2 ∨
          Overflows settings s (f.step s)) := by
  refine ⟨fun before since s hn => ?_, fun ss seen hs => pushes_le_notices settings ss hs,
    fun before rest hr => ?_, fun ss s => ?_⟩
  · dsimp only
    intro hl hc
    have ha := attentive settings (before ++ .notify :: since)
    have hb := attentive settings (before ++ [.notify])
    have hk : 0 < ((start settings).after (before ++ [.notify])).signal.kept := by
      rw [after_snoc]
      exact Signal.kept_notify_pos _
    have he : (start settings).after (before ++ .notify :: since) =
        ((start settings).after (before ++ [.notify])).after since := by
      rw [← after_append, List.append_assoc, List.singleton_append]
    -- The wake-up is still there, or the task has broken off and looks for nothing.
    rcases kept_pos hb (.inl hk) hn with hk' | hf
    · exact look_pending ha hl hc (by rw [he]; exact hk')
    · rw [← he] at hf
      exact absurd hl (by cases s <;> simp [looks, hf])
  · have ha := attentive settings before
    have hk := kept_history ha rest
    have hle := Signal.kept_le_two ((start settings).after before).signal
    rw [notices_eq_zero _ hr] at hk
    omega
  · dsimp only
    intro hk
    cases Kept.step (attentive settings ss) s with
    | saves ho ht hle hpos =>
      refine ⟨fun hm => ?_, .inl (hpos hk)⟩
      have := ht hm
      omega
    | spends ho hk' =>
      obtain ⟨e, u, hr⟩ := ho
      exact ⟨by simp [hr], .inr (.inl (by simp [hr]))⟩
    | breaks ho hle hf => exact ⟨ho .timer, .inr (.inr hf)⟩

def halfMinute : Settings := ⟨default, .ofSeconds 30, .ofSeconds 5, .ofSeconds 5⟩

/-- A feed registers and asks whether the node is synced; two notifications come meanwhile. -/
def beforeAnswer : List Stimulus := [
  .turn 0 (some 0) none,
  .turn 10 (some 0) (some (.registered (.ok ⟨1, true⟩))),
  .notify,
  .notify]

/-- The node answers when the tick is overdue. -/
def lateAnswer : Stimulus := .turn 50000 (some 0) (some (.info (.ok { isSynced := true })))

theorem push_after_sync_check :
    let f := (start halfMinute).after beforeAnswer
    f.looks lateAnswer = true ∧ f.ticker.any (·.ready 50000) = true ∧ 0 < f.signal.kept ∧
      .work .push ∈ (f.step lateAnswer).2 ∧ .work .timer ∉ (f.step lateAnswer).2 ∧
      (f.history [lateAnswer, .turn 50001 (some 0) (some .handled)]).countP Event.isPush ≤ 2 := by
  intro f
  obtain ⟨hnext, -, hburst, hkept⟩ := push_not_lost halfMinute
  have hlooks : f.looks lateAnswer = true := rfl
  have hsignal : 0 < f.signal.kept := by decide
  have hpush : .work .push ∈ (f.step lateAnswer).2 := by
    refine (hnext (beforeAnswer.take 2) [.notify] _ (by decide) hlooks rfl).resolve_right ?_
    rintro ⟨hf, -⟩
    cases hf
  obtain ⟨htimer, -⟩ := hkept beforeAnswer lateAnswer hsignal
  exact ⟨hlooks, by decide, hsignal, hpush, htimer, hburst beforeAnswer _ nofun⟩

end WorkBridge.Feed
