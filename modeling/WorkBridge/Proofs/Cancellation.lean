import WorkBridge.Proofs.Feed.Ending
import WorkBridge.Proofs.Stats.Ending

/-!
What a cancellation does to the tasks, and that nothing else ends them: `cancellation_is_final`.
-/

namespace WorkBridge

open Stats (Poller)

/-- A cancellation is final for a feed and for a poller, wherever it finds them.  From then on they
ask for nothing and call nobody, whatever is pending, is due or has come; their next turn is their
last, unless what they called still runs; and a feed that has ended has given up, once each, all
the registrations that it took.  Without a cancellation they do not end, whatever they are
answered, so long as what they call does not break off and instants can be computed.  (No ticker
can be made with a period of zero, so a task with one breaks off before it begins to go round.) -/
theorem cancellation_is_final (fs : Feed.Settings) (ps : Poller.Settings) :
    ((∀ before since o,
        .did o ∈ ((Feed.start fs).after (before ++ [.cancel])).history since →
          o.isStart = false) ∧
      (∀ before since now slot answer,
        let f := (Feed.start fs).after (before ++ .cancel :: since)
        (f.point = .handling → answer = some .handled ∨ answer = some .crashed) →
          (f.step (.turn now slot answer)).1.isEnded = true) ∧
      (∀ ss, ((Feed.start fs).after ss).isEnded = true →
        ((Feed.start fs).after ss).held = none ∧
          (Feed.start fs).granted ss = (Feed.start fs).givenUp ss) ∧
      ∀ ss, (∀ s ∈ ss, s.isHarmless fs.maxWorkStaleness.toMillis) →
        ((Feed.start fs).after ss).isEnded = true → fs.maxWorkStaleness.isZero = true) ∧
    (∀ before since o,
        o ∈ ((Poller.start ps).after (before ++ [.cancel])).outputs since → o.isStart = false) ∧
      (∀ before since now slot answer,
        let p := (Poller.start ps).after (before ++ .cancel :: since)
        (p.point = .recording → answer = some .recorded ∨ answer = some .crashed) →
          (p.step (.turn now slot answer)).1.isEnded = true) ∧
      ∀ ss, (∀ s ∈ ss, s.isHarmless ps.interval.toMillis) →
        ((Poller.start ps).after ss).isEnded = true → ps.interval.isZero = true := by
  have hfeed : ∀ before since,
      ((Feed.start fs).after (before ++ .cancel :: since)).cancelled = true := by
    intro before since
    rw [Feed.after_append]
    exact Feed.cancelled_run rfl since
  have hpoller : ∀ before since,
      ((Poller.start ps).after (before ++ .cancel :: since)).cancelled = true := by
    intro before since
    rw [Poller.after_append]
    exact Poller.cancelled_run rfl since
  refine ⟨⟨fun before since o ho => ?_, fun before since now slot answer => ?_, fun ss he => ?_,
    fun ss hs he => ?_⟩, fun before since o ho => ?_, fun before since now slot answer => ?_,
    fun ss hs he => ?_⟩
  · exact Feed.quiet_run (hfeed before []) since ho
  · dsimp only
    intro hreturned
    rcases Feed.turn_of_cancelled (hfeed before since) now slot answer with h | ⟨hr, h | h⟩
    · exact h.ended
    · rw [Feed.step, hr]
      exact h
    · obtain ⟨hp, hh, hcrash⟩ := h
      exact ((hreturned hp).elim hh hcrash).elim
  · obtain ⟨hbooks, htidy⟩ := Feed.settled_run (.start fs) (fun _ => rfl) ss
    have hheld := htidy he
    refine ⟨hheld, ?_⟩
    have hids : ((Feed.start fs).after ss).heldIds = [] := by rw [Feed.heldIds, hheld]; rfl
    rw [hids, List.append_nil] at hbooks
    exact hbooks
  · by_cases hz : fs.maxWorkStaleness.toMillis = 0
    · exact Span.isZero_of_toMillis hz
    · exact absurd ((Feed.goes_on fs hz hs).1.symm.trans he) Bool.false_ne_true
  · exact Poller.quiet_run (hpoller before []) since o ho
  · dsimp only
    intro hreturned
    rcases Poller.turn_of_cancelled (hpoller before since) now slot answer with h | ⟨hr, h | h⟩
    · exact h.ended
    · rw [Poller.step, hr]
      exact h
    · obtain ⟨hp, hh, hcrash⟩ := h
      exact ((hreturned hp).elim hh hcrash).elim
  · by_cases hz : ps.interval.toMillis = 0
    · exact Span.isZero_of_toMillis hz
    · exact absurd ((Poller.goes_on ps hz hs).1.symm.trans he) Bool.false_ne_true

/-- A feed that waits for its next event. -/
def waitingFeed : List Feed.Stimulus := [
  .turn 0 (some 0) none, .turn 10 (some 0) (some (.registered (.ok ⟨1, true⟩))),
  .turn 20 (some 0) (some (.info (.ok { isSynced := true })))]

/-- With a push pending and the tick overdue. -/
theorem cancelled_while_waiting :
    let f := (Feed.start ⟨default, .ofSeconds 30, .ofSeconds 5, .ofSeconds 5⟩).after
      (waitingFeed ++ .cancel :: [.notify])
    f.point = .awaiting ∧ (f.step (.turn 90000 (some 0) none)).1.isEnded = true :=
  ⟨rfl, (cancellation_is_final _ default).1.2.1 waitingFeed [.notify] 90000 (some 0) none nofun⟩

end WorkBridge
