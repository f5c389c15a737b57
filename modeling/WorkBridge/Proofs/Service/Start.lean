import WorkBridge.Proofs.Service.Launch

/-!
A manager is started at most once: `start_at_most_once`.

Only the first start can launch the tasks, once, with an answer to what it has asked
(`launched_once`, `begun_of_starting`).
-/

namespace WorkBridge.Service

open Manager (Token)
open Node (ClientId)

variable {s : Service} {k : Token}

/-- Both tasks are launched, once, or none is. -/
theorem launched_once (config : Config) (first : ClientId) (es : List Event) :
    (spawns ((opened config first).outputs es) = [] ∧
        ∀ t, ((opened config first).after es).task? t = none) ∨
      ∃ k, spawns ((opened config first).outputs es) = [(.feed, k), (.poller, k)] ∧
        ∀ t, (((opened config first).after es).task? t).isSome = true := by
  -- With what was launched goes whether there are tasks: there are none while a start is under
  -- way, so that a launch is the first.
  induction es using List.reverseRecOn with
  | nil => exact .inl ⟨rfl, fun t => by cases t <;> rfl⟩
  | append_singleton es e ih =>
    rw [outputs_snoc, after_snoc, spawns_append]
    have hcrew := (sound config first es).crew
    generalize (opened config first).after es = s at *
    rcases step_launches s e with h | ⟨k, h⟩
    · rw [h.spawns, List.append_nil]
      rcases ih with ⟨ho, hn⟩ | ⟨k, ho, hs⟩
      · refine .inl ⟨ho, fun t => ?_⟩
        have hl := h.later t
        rw [hn t] at hl
        cases ht : (s.step e).1.task? t with
        | none => rfl
        | some x => rw [ht] at hl; exact hl.elim
      · refine .inr ⟨k, ho, fun t => ?_⟩
        have hl := h.later t
        obtain ⟨x, hx⟩ := Option.isSome_iff_exists.mp (hs t)
        rw [hx] at hl
        cases ht : (s.step e).1.task? t with
        | none => rw [ht] at hl; exact hl.elim
        | some y => rfl
    · obtain ⟨now, answer, wait, -, hc, -⟩ := h.turn
      have hnone := (hcrew.starting k wait hc).2.2
      rcases ih with ⟨ho, -⟩ | ⟨k', -, hs⟩
      · rw [ho, h.spawns, h.launched]
        exact .inr ⟨k, rfl, fun t => by cases t <;> rfl⟩
      · have := hs .feed
        rw [hnone] at this
        cases this

/-! ### What a start has done before it launches the tasks -/

/-- A start that is under way was made as the first one, has not been given up since, and has
asked what it waits for the answer to. -/
structure Begun (s : Service) (es : List Event) (k : Token) (wait : Sync.Wait)
    (earlier later : List Event) : Prop where
  split : es = earlier ++ .start k :: later
  idle : (s.after earlier).isIdle = true
  first : (s.after earlier).manager.token = none
  kept : .giveUp ∉ later
  asked : ∀ c, wait.point = .asking c →
    .manager (.query c) ∈ (s.after (earlier ++ [.start k])).outputs later

theorem begun_of_starting (h₀ : s.isIdle = true) {es : List Event} {wait : Sync.Wait}
    (h : (s.after es).manager.call = .starting k wait) :
    ∃ earlier later, Begun s es k wait earlier later := by
  induction es using List.reverseRecOn generalizing wait with
  | nil =>
    unfold isIdle at h₀
    rw [show s.manager.call = .starting k wait from h] at h₀
    cases h₀
  | append_singleton es e ih =>
    rw [after_snoc] at h
    rcases step_starting h with ⟨rfl, hi, ht, rfl⟩ | ⟨wait', hw, he, ha⟩
    · exact ⟨es, [], rfl, hi, ht, List.not_mem_nil, nofun⟩
    · obtain ⟨earlier, later, hb⟩ := ih hw
      refine ⟨earlier, later ++ [e], ?_, hb.idle, hb.first, ?_, fun c hc => ?_⟩
      · rw [hb.split, List.append_assoc, List.cons_append]
      · intro hm
        rcases List.mem_append.mp hm with hm | hm
        · exact hb.kept hm
        · exact he (List.mem_singleton.mp hm).symm
      · rw [outputs_snoc, ← after_append, List.append_assoc, List.singleton_append, ← hb.split]
        rcases ha c hc with hp | ⟨-, hm⟩
        · exact List.mem_append_left _ (hb.asked c hp)
        · exact List.mem_append_right _ hm

theorem spawns_step_eq (hcrew : Crew s) {e : Event} (h : spawns (s.step e).2 ≠ []) :
    ∃ k wait c now info, s.manager.call = .starting k wait ∧ wait.point = .asking c ∧
      e = .wait now (some (.ok info)) ∧ info.isSynced = true ∧
      (s.step e).1 = s.launched k ∧ spawns (s.step e).2 = [(.feed, k), (.poller, k)] := by
  rcases step_launches s e with ho | ⟨k, hl⟩
  · exact absurd ho.spawns h
  · obtain ⟨now, answer, wait, rfl, hc, hw⟩ := hl.turn
    obtain ⟨c, info, hp, ha, hs⟩ := Sync.Wait.synced_of_done (hcrew.starting k wait hc).2.1 hw
    exact ⟨k, wait, c, now, info, hc, hp, congrArg (Event.wait now) ha, hs, hl.launched, hl.spawns⟩

theorem shutDown_cancels (hk : s.manager.token = some k) (hi : s.isIdle = true) :
    .manager (.cancel k) ∈ (s.step .shutDown).2 ∧
      (s.step .shutDown).1.cancelled.contains k = true := by
  have hout : (s.manage .shutDown).2 = s.manager.shutDown.2.map .manager := rfl
  rw [step_shutDown hi]
  constructor
  · rw [hout]
    refine List.mem_map.mpr ⟨.cancel k, ?_, rfl⟩
    unfold Manager.shutDown
    exact List.mem_append_left _ (by simp [hk])
  · have hm := s.manage_cases .shutDown
    generalize s.manage .shutDown = r at hm ⊢
    cases hm with
    | ignored e he => cases he
    | joining ht => exact Crew.cancelled_cancelStart hk
    | closing ht => exact Crew.cancelled_cancelStart hk

/-- A manager is started at most once, however starts and shutdowns are made, end, or are given
up.

* The feed and the poller are launched once, both of them, or never.
* They are launched by the first start, with the answer to a question of that start that the node
  is synced.
* The token of the first start is kept for good.
* Every start after the first is refused and does nothing else.
* A shutdown cancels the token of the first start.
* Tasks that are launched with a token that is cancelled ask for nothing and call nobody. -/
theorem start_at_most_once (config : Config) (first : ClientId) (es : List Event) :
    let run := opened config first
    let s := run.after es
    (spawns (run.outputs es) = [] ∨
      ∃ k, spawns (run.outputs es) = [(.feed, k), (.poller, k)]) ∧
    (∀ before e since, es = before ++ e :: since → spawns ((run.after before).step e).2 ≠ [] →
      ∃ k wait c now info earlier later, Begun run before k wait earlier later ∧
        wait.point = .asking c ∧ e = .wait now (some (.ok info)) ∧ info.isSynced = true ∧
        spawns ((run.after before).step e).2 = [(.feed, k), (.poller, k)]) ∧
    s.manager.token = run.firstStart? es ∧
    (∀ k, s.isIdle = true → (run.firstStart? es).isSome = true →
      s.step (.start k) = (s, [.manager (.started (.error .alreadyStarted))])) ∧
    (∀ k, s.isIdle = true → run.firstStart? es = some k →
      .manager (.cancel k) ∈ (s.step .shutDown).2 ∧
        (s.step .shutDown).1.cancelled.contains k = true) ∧
    (∀ before e since k, es = before ++ e :: since →
      (.feed, k) ∈ spawns ((run.after before).step e).2 →
      (run.after before).cancelled.contains k = true →
      ∀ o ∈ (run.after (before ++ [e])).outputs since, o.isStart = false) := by
  intro run s
  have htoken : s.manager.token = run.firstStart? es := token_after run es
  refine ⟨?_, ?_, htoken, fun k hi hk => ?_, fun k hi hk => ?_, ?_⟩
  · exact (launched_once config first es).imp And.left fun ⟨k, hk, _⟩ => ⟨k, hk⟩
  · rintro before e since rfl hne
    obtain ⟨k, wait, c, now, info, hc, hp, he, hs, -, hout⟩ :=
      spawns_step_eq (sound config first before).crew hne
    obtain ⟨earlier, later, hb⟩ := begun_of_starting rfl hc
    exact ⟨k, wait, c, now, info, earlier, later, hb, hp, he, hs, hout⟩
  · exact step_start_of_some (htoken ▸ hk) hi k
  · exact shutDown_cancels (htoken.trans hk) hi
  · rintro before e since k rfl hk hcancelled
    have hsound := sound config first before
    obtain ⟨k', wait, -, -, -, hc, -, -, -, hl, hout⟩ :=
      spawns_step_eq hsound.crew (List.ne_nil_of_mem hk)
    rw [hout] at hk
    obtain rfl : k = k' := by simpa using hk
    have hd : Dismissed k ((run.after before).step e).1 := by
      rw [hl]
      exact ⟨(hsound.crew.starting k wait hc).1, hcancelled, nofun⟩
    rw [after_snoc]
    exact (hd.run (hsound.step e) since).2

/-- The node is synced when a manager is started for the first time. -/
def launch : List Event := [.start 5, .wait 0 none, .wait 0 (some (.ok { isSynced := true }))]

/-- The same with a token that is cancelled while the node is asked. -/
def lateLaunch : List Event := [
  .start 5, .wait 0 none, .cancel 5, .wait 0 (some (.ok { isSynced := true })),
  .feed 0 none, .poller 0 none]

theorem launch_launches :
    let run := opened {} 7
    let s := run.after launch
    (∃ k earlier later, launch.take 2 = earlier ++ .start k :: later ∧
      spawns ((run.after (launch.take 2)).step (.wait 0 (some (.ok { isSynced := true })))).2 =
        [(.feed, k), (.poller, k)]) ∧
    run.firstStart? launch = some 5 ∧ s.manager.token = some 5 ∧
    s.step (.start 6) = (s, [.manager (.started (.error .alreadyStarted))]) ∧
    .manager (.cancel 5) ∈ (s.step .shutDown).2 ∧
    (.feed, 5) ∈ spawns (run.outputs lateLaunch) ∧
    ∀ o ∈ (run.after (lateLaunch.take 4)).outputs (lateLaunch.drop 4), o.isStart = false := by
  intro run s
  obtain ⟨-, hlaunch, htoken, hagain, hshutDown, -⟩ := start_at_most_once {} 7 launch
  obtain ⟨-, -, -, -, -, hdismissed⟩ := start_at_most_once {} 7 lateLaunch
  have hfirst : run.firstStart? launch = some 5 := rfl
  refine ⟨?_, hfirst, htoken.trans hfirst, hagain 6 rfl rfl, (hshutDown 5 rfl hfirst).1,
    by decide, hdismissed (lateLaunch.take 3) _ (lateLaunch.drop 4) 5 rfl (by decide) (by decide)⟩
  obtain ⟨k, _, _, _, _, earlier, later, hbegun, -, -, -, hspawns⟩ :=
    hlaunch (launch.take 2) _ [] rfl (by decide)
  exact ⟨k, earlier, later, hbegun.split, hspawns⟩

end WorkBridge.Service
