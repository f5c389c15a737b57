import WorkBridge.Proofs.Feed.Turn

/-!
No work without a fresh sync check.

The handler of new work is only called while the last that is known of the node is that it was
synced, and each answer is good for one call: `work_follows_synced_answer`.
-/

namespace WorkBridge.Feed

open Node (ClientId)

/-- The node was asked whether it is synced, and has not answered. -/
def Asked (h : List Event) : Prop :=
  ∃ before c since, h = before ++ .did (.query c) :: since ∧
    ∀ e ∈ since, e.within .checking = true ∧ e.isAnswer = false

/-- The node was asked, has answered that it is synced, and all that the feed did since was to
wait for an event. -/
def FreshlySynced (h : List Event) : Prop :=
  ∃ before answer since, h = before ++ answer :: since ∧ Asked before ∧
    answer.isSyncedAnswer = true ∧ ∀ e ∈ since, e.within .awaiting = true

theorem Asked.append {h since : List Event} (ha : Asked h)
    (hs : ∀ e ∈ since, e.within .checking = true ∧ e.isAnswer = false) : Asked (h ++ since) := by
  obtain ⟨before, c, rest, rfl, hr⟩ := ha
  refine ⟨before, c, rest ++ since, by simp, fun e he => ?_⟩
  exact (List.mem_append.mp he).elim (hr e) (hs e)

theorem FreshlySynced.append {h since : List Event} (hf : FreshlySynced h)
    (hs : ∀ e ∈ since, e.within .awaiting = true) : FreshlySynced (h ++ since) := by
  obtain ⟨before, answer, rest, rfl, ha, hy, hr⟩ := hf
  refine ⟨before, answer, rest ++ since, by simp, ha, hy, fun e he => ?_⟩
  exact (List.mem_append.mp he).elim (hr e) (hs e)

/-! ### Steps -/

/-- A feed only looks for an event while it waits for one or as the node is found synced. -/
theorem looks_cases {f : Feed} {s : Stimulus} (h : f.looks s = true) :
    f.point = .awaiting ∨
      f.point = .checking ∧ (Event.happened f.point s).isSyncedAnswer = true := by
  unfold looks at h
  split at h
  · split at h
    · rename_i hp
      exact .inl hp
    · rename_i answer hp
      rw [Bool.and_eq_true, Option.any_eq_true] at h
      obtain ⟨-, a, rfl, ha⟩ := h
      refine .inr ⟨hp, ?_⟩
      rw [hp]
      cases a with
      | info r =>
        cases r with
        | ok i => exact ha
        | error e => cases ha
      | _ => cases ha
    · cases h
  · cases h

/-- What a step comes to, as far as new work goes. -/
inductive Stepped (f : Feed) (s : Stimulus) (r : Feed × List Output) : Prop
  /-- Nothing is done, and what has come is no answer that was waited for. -/
  | still (ha : (Event.happened f.point s).isAnswer = false) (hp : r.1.point = f.point)
      (ho : r.2 = [])
  | astray (hp : r.1.point ≠ .awaiting) (hw : ∀ t, .work t ∉ r.2)
      (hc : r.1.point = .checking → ∃ said c, r.2 = said ++ [.query c])
  | look (now : Nat) (hl : f.looks s = true) (h : Look f.waiting now r)

theorem Stepped.of_aside {f g : Feed} {s : Stimulus} {r : Feed × List Output} (h : Aside g r) :
    Stepped f s r := .astray h.not_awaiting h.no_work h.asks

theorem Stepped.of_first {f : Feed} {s : Stimulus} {now : Nat} {r : Feed × List Output}
    (h : First f now r) : Stepped f s r := by
  cases h with
  | registering hp hw => exact .astray (by rw [hp]; nofun) hw (by rw [hp]; nofun)
  | ticking ticker ht h => exact .of_aside h
  | failing h hp => exact .of_aside h

theorem isAnswer_eq_false {f : Feed} {now : Nat} {slot : Option ClientId} {answer : Option Answer}
    (h : f.point = .checking → ∀ i, answer ≠ some (.info i)) :
    (Event.happened f.point (.turn now slot answer)).isAnswer = false := by
  unfold Event.isAnswer
  split
  · rename_i hp
    simp only [Event.happened.injEq, Stimulus.turn.injEq] at hp
    exact absurd hp.2.2.2 (h hp.1 _)
  · rfl

theorem step_cases (f : Feed) (s : Stimulus) : Stepped f s (f.step s) := by
  cases s with
  | cancel => exact .still (by cases f.point <;> rfl) rfl rfl
  | notify => exact .still (by cases f.point <;> rfl) rfl rfl
  | lapse id =>
    refine .still (by cases f.point <;> rfl) ?_ rfl
    show (f.lapse id).point = f.point
    unfold lapse
    split
    · split <;> rfl
    · rfl
  | abort =>
    unfold step abort
    dsimp only
    split
    · exact .still (by cases f.point <;> rfl) rfl rfl
    · exact .of_aside (Aside.fail f).abandoning
  | turn now slot answer =>
    cases turn_cases f now slot answer with
    | stay hp ha h => exact .still (isAnswer_eq_false ha) (by rw [step, h]) (by rw [step, h])
    | first hp h => exact .of_first h
    | aside hf hp h => exact .of_aside h
    | look hl h => exact .look now hl h

/-- A feed that looks and finds something calls the handler; otherwise there is no work. -/
theorem Look.work {f : Feed} {now : Nat} {r : Feed × List Output} (h : Look f now r)
    {t : Trigger} (ht : .work t ∈ r.2) :
    r.1.point = .handling ∧ ∃ e u, r.2 = [.log e, .update u, .work t] := by
  cases h with
  | cancelled hc h =>
    subst h
    exact absurd ht ((Aside.stop f).no_work t)
  | push hc hw ticker hk h =>
    subst h
    simp only [announce, List.mem_cons, List.not_mem_nil, or_false, reduceCtorEq, false_or,
      Output.work.injEq] at ht
    exact ⟨rfl, _, _, by rw [ht]; rfl⟩
  | pushFailing hc hw hk h =>
    subst h
    exact absurd ht ((Aside.fail _).no_work t)
  | tick hc hw hd ticker hk h =>
    subst h
    simp only [announce, List.mem_cons, List.not_mem_nil, or_false, reduceCtorEq, false_or,
      Output.work.injEq] at ht
    exact ⟨rfl, _, _, by rw [ht]; rfl⟩
  | tickFailing hc hw hd hk h =>
    subst h
    exact absurd ht ((Aside.fail _).no_work t)
  | wait hc hw hd h =>
    subst h
    cases ht

/-- Looking leaves the feed waiting only when nothing was found and nothing was done. -/
theorem Look.not_checking {f : Feed} {now : Nat} {r : Feed × List Output} (h : Look f now r)
    (hp : f.point = .awaiting) :
    r.1.point ≠ .checking ∧ (r.1.point = .awaiting → r.2 = []) := by
  cases h with
  | cancelled hc h => subst h; exact ⟨nofun, nofun⟩
  | push hc hw ticker hk h => subst h; exact ⟨nofun, nofun⟩
  | pushFailing hc hw hk h => subst h; exact ⟨nofun, nofun⟩
  | tick hc hw hd ticker hk h => subst h; exact ⟨nofun, nofun⟩
  | tickFailing hc hw hd hk h => subst h; exact ⟨nofun, nofun⟩
  | wait hc hw hd h => subst h; exact ⟨by rw [hp]; nofun, fun _ => rfl⟩

/-! ### Runs -/

/-- What a history says about the feed that it led to, and about all work in it. -/
structure Vouched (f : Feed) (h : List Event) : Prop where
  checking : f.point = .checking → Asked h
  awaiting : f.point = .awaiting → FreshlySynced h
  works : ∀ before t rest, h = before ++ .did (.work t) :: rest → FreshlySynced before

/-- A call of the handler in a history that got longer by a step is an old one or one of that
step. -/
theorem work_mem_append {h : List Event} {p : Point} {s : Stimulus} {out : List Output}
    {before rest : List Event} {t : Trigger}
    (he : h ++ .happened p s :: out.map .did = before ++ .did (.work t) :: rest) :
    (∃ rest', h = before ++ .did (.work t) :: rest') ∨
      ∃ said more, out = said ++ .work t :: more ∧
        before = h ++ .happened p s :: said.map .did := by
  rcases List.append_eq_append_iff.mp he with ⟨mid, hb, hm⟩ | ⟨mid, hh, hm⟩
  · cases mid with
    | nil => simp at hm
    | cons e mid =>
      simp only [List.cons_append, List.cons.injEq] at hm
      obtain ⟨rfl, hm⟩ := hm
      obtain ⟨said, more, rfl, hs, hw⟩ := List.map_eq_append_iff.mp hm
      obtain ⟨o, more, rfl, ho, -⟩ := List.map_eq_cons_iff.mp hw
      cases ho
      exact .inr ⟨said, more, rfl, by rw [hb, hs]⟩
  · cases mid with
    | nil => simp at hm
    | cons e mid =>
      simp only [List.cons_append, List.cons.injEq] at hm
      exact .inl ⟨mid, by rw [hh, ← hm.1]⟩

/-- The handler is called last, after a log entry and a count. -/
theorem said_eq {e : LogEntry} {u : Metrics.Update} {t t' : Trigger} :
    ∀ {said more : List Output}, [.log e, .update u, .work t] = said ++ .work t' :: more →
      said = [.log e, .update u]
  | [], _, h => by cases h
  | [_], _, h => by cases h
  | [_, _], _, h => by cases h; rfl
  | _ :: _ :: _ :: _, _, h => by
    have := congrArg List.length h
    simp only [List.length_cons, List.length_append, List.length_nil] at this
    omega

/-- What a feed that looks has seen up to then. -/
theorem Vouched.looks {f : Feed} {h : List Event} (hv : Vouched f h) {s : Stimulus}
    (hl : f.looks s = true) : FreshlySynced (h ++ [.happened f.point s]) := by
  rcases looks_cases hl with hp | ⟨hp, hs⟩
  · exact (hv.awaiting hp).append (by simp [Event.within, hp])
  · exact ⟨h, _, [], rfl, hv.checking hp, hs, List.forall_mem_nil _⟩

theorem Vouched.step {f : Feed} {h : List Event} (hv : Vouched f h) (s : Stimulus) :
    Vouched (f.step s).1 (h ++ .happened f.point s :: (f.step s).2.map .did) := by
  cases step_cases f s with
  | still ha hp ho =>
    refine ⟨fun hc => ?_, fun hw => ?_, fun before t rest he => ?_⟩
    · rw [hp] at hc
      exact (hv.checking hc).append (by simp [ho, Event.within, hc, ← hc ▸ ha])
    · rw [hp] at hw
      exact (hv.awaiting hw).append (by simp [ho, Event.within, hw])
    · rcases work_mem_append he with ⟨rest', h'⟩ | ⟨said, more, ho', -⟩
      · exact hv.works before t rest' h'
      · simp [ho] at ho'
  | astray hp hw hc =>
    refine ⟨fun hk => ?_, fun hk => absurd hk hp, fun before t rest he => ?_⟩
    · obtain ⟨said, c, ho⟩ := hc hk
      exact ⟨h ++ .happened f.point s :: said.map .did, c, [], by simp [ho], List.forall_mem_nil _⟩
    · rcases work_mem_append he with ⟨rest', h'⟩ | ⟨said, more, ho, -⟩
      · exact hv.works before t rest' h'
      · exact absurd (by simp [ho]) (hw t)
  | look now hl hk =>
    have hf := hv.looks hl
    have hn := hk.not_checking (waiting_point f)
    refine ⟨fun hc => absurd hc hn.1, fun hw => ?_, fun before t rest he => ?_⟩
    · rw [hn.2 hw]
      exact hf
    · rcases work_mem_append he with ⟨rest', h'⟩ | ⟨said, more, ho, hb⟩
      · exact hv.works before t rest' h'
      · obtain ⟨-, e, u, hr⟩ := hk.work (t := t) (by simp [ho])
        rw [hb, said_eq (hr.symm.trans ho)]
        have hs : ∀ e' ∈ [Event.did (.log e), .did (.update u)], e'.within .awaiting = true := by
          simp [Event.within, Output.isRemark]
        simpa using hf.append hs

theorem vouched (settings : Settings) (ss : List Stimulus) :
    Vouched ((start settings).after ss) ((start settings).history ss) := by
  induction ss using List.reverseRecOn with
  | nil => exact ⟨nofun, nofun, by simp [history]⟩
  | append_singleton ss s ih =>
    rw [after_snoc, history_snoc]
    exact ih.step s

theorem not_isWork_of_within {e : Event} {p : Point} (h : e.within p = true) :
    ¬e.isWork = true := by
  cases e with
  | happened q s => simp [Event.isWork]
  | did o =>
    cases o with
    | work t => cases h
    | _ => simp [Event.isWork]

/-- Where every call of the handler has an answer of its own, there are at no time more calls
than answers. -/
theorem works_le_answers {h : List Event}
    (hw : ∀ before t rest, h = before ++ .did (.work t) :: rest → FreshlySynced before) :
    ∀ seen, seen <+: h → seen.countP Event.isWork ≤ seen.countP Event.isSyncedAnswer := by
  induction h using List.reverseRecOn with
  | nil =>
    intro seen hs
    rw [List.prefix_nil.mp hs]
    exact Nat.le_refl 0
  | append_singleton l e ih =>
    have ih := ih fun before t rest hl => hw before t (rest ++ [e]) (by simp [hl])
    intro seen hs
    rcases List.prefix_concat_iff.mp hs with rfl | hs
    · by_cases he : e.isWork = true
      · obtain ⟨t, rfl⟩ : ∃ t, e = .did (.work t) := by
          unfold Event.isWork at he
          split at he
          · exact ⟨_, rfl⟩
          · cases he
        -- The last answer is not one that an earlier call was made on.
        obtain ⟨before, answer, since, rfl, -, ha, hs⟩ := hw l t [] rfl
        have hb := ih before (List.prefix_append _ _)
        have hz : since.countP Event.isWork = 0 :=
          List.countP_eq_zero.mpr fun e he => not_isWork_of_within (hs e he)
        have hn : answer.isWork = false := by
          cases answer with
          | happened p s => rfl
          | did o => cases ha
        simp only [List.countP_append, List.countP_cons, List.countP_nil, ha, hz, hn]
        simp only [if_true, Bool.false_eq_true, if_false]
        have : (if (Event.did (.work t)).isWork = true then 1 else 0) = 1 := rfl
        omega
      · have hl := ih l (List.prefix_refl l)
        simp only [List.countP_append, List.countP_cons, List.countP_nil, he, Bool.false_eq_true,
          if_false]
        omega
    · exact ih seen hs

/-- Every call of the handler comes on a sync check of its own.  The node was asked after the
call before, it answered that it is synced, and from then on the feed waited for an event and
asked for nothing; so there are at no time more calls than such answers.  The turn that calls
found the feed waiting or at that answer, not reconnecting and not in a pause. -/
theorem work_follows_synced_answer (settings : Settings) (ss : List Stimulus) :
    (∀ before t rest,
      (start settings).history ss = before ++ .did (.work t) :: rest → FreshlySynced before) ∧
    (∀ seen, seen <+: (start settings).history ss →
      seen.countP Event.isWork ≤ seen.countP Event.isSyncedAnswer) ∧
    ∀ before s rest t, ss = before ++ s :: rest →
      .work t ∈ (((start settings).after before).step s).2 →
      ((start settings).after before).point = .awaiting ∨
        ((start settings).after before).point = .checking := by
  have hw := (vouched settings ss).works
  refine ⟨hw, works_le_answers hw, fun before s rest t _ ht => ?_⟩
  cases step_cases ((start settings).after before) s with
  | still ha hp ho => rw [ho] at ht; cases ht
  | astray hp hw hc => exact absurd ht (hw t)
  | look now hl h => exact (looks_cases hl).imp_right (·.1)

end WorkBridge.Feed
