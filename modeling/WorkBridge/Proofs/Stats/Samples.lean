import Mathlib.Data.List.Basic
import WorkBridge.Proofs.Stats.Moves

/-!
What a poller asks for and what it records.

A tick finds somebody in the slot or nobody, and what it asks for is answered one way or the other
(`Tick`).  That settles its story: the requests with their answers, and then the sample that is
recorded or the failure that is told.  A run tells the stories of its ticks, one after another, and
behind them at most the beginning of another one: `good_samples_recorded`.
-/

namespace WorkBridge.Stats.Poller

open Node (ClientId)

/-! ### Ticks and their stories -/

/-- What a tick meets, asked for or not. -/
structure Tick where
  slot : Option ClientId
  dag : Except Node.ClientError Node.DagInfo
  rate : Except Node.ClientError Nat

inductive Deed
  /-- A tick is taken, with this in the slot. -/
  | tick (slot : Option ClientId)
  | answered (a : Answer)
  | did (o : Output)

namespace Tick

def result (t : Tick) : Except Error Sample :=
  match t.slot, t.dag with
  | none, _ => .error .notConnected
  | some _, .error e => .error (.dagInfo e)
  | some _, .ok info =>
    match info.tipHashes, t.rate with
    | [], _ => .error .noTipHashes
    | _ :: _, .error e => .error (.hashRate e)
    | _ :: _, .ok rate => .ok ⟨Binary64.ofNat rate, info.blockCount, info.difficulty⟩

/-- The requests, each with its answer. -/
def exchange (window : Nat) (t : Tick) : List (Node.Request × Answer) :=
  match t.slot with
  | none => []
  | some client =>
    (.getDagInfo client, .dag t.dag) ::
      match t.dag with
      | .error _ => []
      | .ok info =>
        match info.tipHashes with
        | [] => []
        | tip :: _ => [(.estimateHashRate client tip window, .estimate t.rate)]

def story (window : Nat) (t : Tick) : List Deed :=
  .tick t.slot ::
    ((t.exchange window).flatMap (fun x => [.did (.request x.1), .answered x.2]) ++
      (verdict t.result).map .did)

end Tick

/-! ### What is seen of a run -/

namespace Output

def request? : Output → Option Node.Request
  | .request r => some r
  | _ => none

def record? : Output → Option Sample
  | .record s => some s
  | _ => none

def failure? : Output → Option LogEntry
  | .log e => if e.level = .warn then some e else none
  | _ => none

end Output

/-- What is told of a tick that fails. -/
def complaint? : Except Error Sample → Option LogEntry
  | .ok _ => none
  | .error e => some (failedEntry e)

def Deed.output? : Deed → Option Output
  | .did o => some o
  | _ => none

/-- What the poller takes note of, if it does anything about it. -/
def heard (p : Poller) : Stimulus → List Deed
  | .turn _ slot answer =>
    match p.point with
    | .ticking => [.tick slot]
    | .sampling _ => answer.toList.map .answered
    | _ => []
  | _ => []

def deedsOf (p : Poller) (s : Stimulus) : List Deed :=
  match (p.step s).2.filter Output.ofTick with
  | [] => []
  | out => p.heard s ++ out.map .did

def deeds (p : Poller) : List Stimulus → List Deed
  | [] => []
  | s :: rest => p.deedsOf s ++ deeds (p.step s).1 rest

variable {settings : Settings} {p : Poller} {s : Stimulus} {now window : Nat}
  {slot : Option ClientId} {answer : Option Answer} {ds : List Deed}

theorem deeds_snoc (p : Poller) (ss : List Stimulus) (s : Stimulus) :
    p.deeds (ss ++ [s]) = p.deeds ss ++ (p.after ss).deedsOf s := by
  induction ss generalizing p with
  | nil => exact List.append_nil _
  | cons e ss ih => rw [List.cons_append, deeds, deeds, ih, List.append_assoc]; rfl

/-! ### Steps -/

theorem deedsOf_of_said {out : List Output} (h : (p.step s).2.filter Output.ofTick = out)
    (hne : out ≠ []) : p.deedsOf s = p.heard s ++ out.map .did := by
  unfold deedsOf
  rw [h]
  split
  · exact absurd rfl hne
  · rfl

theorem deedsOf_of_quiet (h : (p.step s).2.filter Output.ofTick = []) : p.deedsOf s = [] := by
  unfold deedsOf
  rw [h]

/-! ### Where a story stands -/

/-- What has been told of a sample that waits for an answer. -/
inductive Begun (window : Nat) : Progress → List Deed → Prop
  | dag (client : ClientId) :
      Begun window (.askDag client) [.tick (some client), .did (.request (.getDagInfo client))]
  | estimate (client : ClientId) (info : Node.DagInfo) (tip : String) (others : List String)
      (h : info.tipHashes = tip :: others) :
      Begun window (.askEstimate client info tip)
        [.tick (some client), .did (.request (.getDagInfo client)), .answered (.dag (.ok info)),
          .did (.request (.estimateHashRate client tip window))]

/-- Whether a story that has been told up to here goes on with this. -/
def Leads (window : Nat) (ds : List Deed) : Progress → Prop
  | .done r => ∃ t : Tick, t.story window = ds ++ (verdict r).map .did
  | progress => Begun window progress (ds ++ (said window progress).map .did)

theorem leads_start (window : Nat) : (slot : Option ClientId) →
    Leads window [.tick slot] (.start slot)
  | none => ⟨⟨none, .error .disconnected, .ok 0⟩, rfl⟩
  | some client => .dag client

theorem leads_dag (client : ClientId) (r : Except Node.ClientError Node.DagInfo) :
    Leads window
      [.tick (some client), .did (.request (.getDagInfo client)), .answered (.dag r)]
      (.onDag client r) := by
  cases r with
  | error e => exact ⟨⟨some client, .error e, .ok 0⟩, rfl⟩
  | ok info =>
    cases h : info.tipHashes with
    | nil =>
      have hnext : Progress.onDag client (.ok info) = .done (.error .noTipHashes) := by
        rw [Progress.onDag, h]
      rw [hnext]
      refine ⟨⟨some client, .ok info, .ok 0⟩, ?_⟩
      simp [Tick.story, Tick.exchange, Tick.result, h]
    | cons tip others =>
      have hnext : Progress.onDag client (.ok info) = .askEstimate client info tip := by
        rw [Progress.onDag, h]
      rw [hnext]
      exact .estimate client info tip others h

theorem leads_follows {progress next : Progress} {a : Answer} {last : List Deed}
    (h : Begun window progress last) (hf : Follows progress a next) :
    Leads window (last ++ [.answered a]) next := by
  cases hf with
  | dag client r =>
    cases h with
    | dag client => exact leads_dag client r
  | estimate client info tip r =>
    cases h with
    | estimate client info tip others h =>
      cases r with
      | error e =>
        refine ⟨⟨some client, .ok info, .error e⟩, ?_⟩
        simp [Tick.story, Tick.exchange, Tick.result, h]
      | ok rate =>
        refine ⟨⟨some client, .ok info, .ok rate⟩, ?_⟩
        simp [Tick.story, Tick.exchange, Tick.result, h]

/-- What a story lacks begins with an answer. -/
theorem Begun.lacking {progress : Progress} {last : List Deed} (h : Begun window progress last) :
    ∃ t answer rest, Tick.story window t = last ++ .answered answer :: rest := by
  cases h with
  | dag client => exact ⟨⟨some client, .error .disconnected, .ok 0⟩, _, _, rfl⟩
  | estimate client info tip others h =>
    refine ⟨⟨some client, .ok info, .ok 0⟩, .estimate (.ok 0),
      (verdict (.ok ⟨Binary64.ofNat 0, info.blockCount, info.difficulty⟩)).map .did, ?_⟩
    simp [Tick.story, Tick.exchange, Tick.result, h]

/-- The story that a poller is in the middle of, or was when it ended. -/
inductive Leaves (window : Nat) (p : Poller) : List Deed → Prop
  | nothing (h : ∀ progress, p.point ≠ .sampling progress) : Leaves window p []
  | begun (progress : Progress) (hp : p.point = .sampling progress) (last : List Deed)
      (h : Begun window progress last) : Leaves window p last
  | broken (he : p.isEnded = true) (progress : Progress) (last : List Deed)
      (h : Begun window progress last) : Leaves window p last

/-- What a poller has done is whole stories, and what it leaves. -/
def Tells (window : Nat) (p : Poller) (ds : List Deed) : Prop :=
  ∃ (ticks : List Tick) (last : List Deed),
    ds = ticks.flatMap (Tick.story window) ++ last ∧ Leaves window p last

theorem not_sampling (h : p.isEnded = true) (progress : Progress) :
    p.point ≠ .sampling progress := by
  intro hp
  rw [isEnded, hp] at h
  cases h

theorem Leaves.ends {last : List Deed} {p' : Poller} (h : Leaves window p last)
    (he : p'.isEnded = true) : Leaves window p' last := by
  cases h with
  | nothing h => exact .nothing (not_sampling he)
  | begun progress hp last h => exact .broken he progress last h
  | broken _ progress last h => exact .broken he progress last h

theorem Leaves.congr {last : List Deed} {p' : Poller} (h : Leaves window p last)
    (hp : p'.point = p.point) : Leaves window p' last := by
  cases h with
  | nothing h => exact .nothing (hp ▸ h)
  | begun progress hp' last h => exact .begun progress (hp.trans hp') last h
  | broken he progress last h => exact .broken (by rw [isEnded, hp]; exact he) progress last h

theorem Leaves.of_sampling {last : List Deed} {progress : Progress} (h : Leaves window p last)
    (hp : p.point = .sampling progress) : Begun window progress last := by
  cases h with
  | nothing h => exact absurd hp (h progress)
  | begun progress' hp' last h =>
    cases hp.symm.trans hp'
    exact h
  | broken he => exact absurd hp (not_sampling he progress)

theorem Leaves.of_rest {last : List Deed} (h : Leaves window p last)
    (hp : p.point = .ready ∨ p.point = .ticking ∨ p.point = .recording) : last = [] := by
  cases h with
  | nothing h => rfl
  | begun progress hp' => simp [hp'] at hp
  | broken he =>
    unfold isEnded at he
    rcases hp with hp | hp | hp <;> simp [hp] at he

theorem tells_proceed {progress : Progress} (ticks : List Tick) (h : Leads window ds progress) :
    Tells window (p.proceed progress).1
      (ticks.flatMap (Tick.story window) ++ (ds ++ (said window progress).map .did)) := by
  match progress with
  | .askDag client => exact ⟨ticks, _, rfl, .begun _ rfl _ h⟩
  | .askEstimate client info tip => exact ⟨ticks, _, rfl, .begun _ rfl _ h⟩
  | .done r =>
    obtain ⟨t, ht⟩ := h
    refine ⟨ticks ++ [t], [], ?_, .nothing ?_⟩
    · rw [said, ← ht]
      simp
    · cases r with
      | ok sample => exact fun progress => nofun
      | error e =>
        show ∀ progress, p.awaitTick.1.point ≠ .sampling progress
        unfold awaitTick
        split <;> simp [stop]

/-- A step that has nothing to do with a tick tells nothing. -/
theorem Leaves.tells {last : List Deed} (ticks : List Tick)
    (hq : (p.step s).2.filter Output.ofTick = []) (hl : Leaves window (p.step s).1 last) :
    Tells window (p.step s).1 (ticks.flatMap (Tick.story window) ++ last ++ p.deedsOf s) := by
  rw [deedsOf_of_quiet hq, List.append_nil]
  exact ⟨ticks, last, rfl, hl⟩

/-- A step that goes on with a sample goes on with its story. -/
theorem Leads.tells {q : Poller} {progress : Progress} {last : List Deed} (ticks : List Tick)
    (hw : q.settings.window = window) (hstep : p.step s = q.proceed progress)
    (hl : Leads window (last ++ p.heard s) progress) :
    Tells window (p.step s).1 (ticks.flatMap (Tick.story window) ++ last ++ p.deedsOf s) := by
  have hout : (p.step s).2.filter Output.ofTick = said window progress := by
    rw [hstep, ofTick_proceed, hw]
  have htells := tells_proceed (p := q) ticks hl
  rw [deedsOf_of_said hout (said_ne_nil window progress), hstep]
  rwa [List.append_assoc] at htells ⊢

theorem tells_step (hw : p.settings.window = window) (h : Tells window p ds) (s : Stimulus) :
    Tells window (p.step s).1 (ds ++ p.deedsOf s) := by
  obtain ⟨ticks, last, rfl, hl⟩ := h
  cases moved p s with
  | idle hq hp ht => exact Leaves.tells ticks hq (hl.congr hp)
  | ended hq he hwhy => exact Leaves.tells ticks hq (hl.ends he)
  | hello hq hp now slot answer hs ticker ht hn =>
    have hlast : last = [] := hl.of_rest (.inl hp)
    subst hlast
    exact Leaves.tells ticks hq (.nothing (by simp [hn]))
  | recorded hq hp hn =>
    have hlast : last = [] := hl.of_rest (.inr (.inr hp))
    subst hlast
    exact Leaves.tells ticks hq (.nothing (by simp [hn]))
  | tick now slot answer hs hp hc t ticker ht hd hk hn =>
    have hlast : last = [] := hl.of_rest (.inr (.inl hp))
    subst hlast
    refine Leads.tells (q := { p with ticker := some ticker }) ticks hw hn ?_
    rw [hs, heard, hp]
    exact leads_start window slot
  | goOn now slot answer hs progress next hp hf hn =>
    refine Leads.tells ticks hw hn ?_
    rw [hs, heard, hp]
    exact leads_follows (hl.of_sampling hp) hf

/-! ### Runs -/

theorem tells (settings : Settings) (ss : List Stimulus) :
    Tells settings.window ((start settings).after ss) ((start settings).deeds ss) := by
  induction ss using List.reverseRecOn with
  | nil => exact ⟨[], [], rfl, .nothing fun progress => nofun⟩
  | append_singleton ss s ih =>
    rw [after_snoc, deeds_snoc]
    exact tells_step (by rw [(regular settings ss).same]) ih s

/-- Nothing that has to do with a tick is missing from the deeds. -/
theorem output?_deeds (p : Poller) (ss : List Stimulus) :
    (p.deeds ss).filterMap Deed.output? = (p.outputs ss).filter Output.ofTick := by
  induction ss generalizing p with
  | nil => rfl
  | cons s ss ih =>
    have hheard : (p.heard s).filterMap Deed.output? = [] := by
      unfold heard
      split
      · split
        · rfl
        · cases ‹Option Answer› <;> rfl
        · rfl
      · rfl
    have hstep : (p.deedsOf s).filterMap Deed.output? = (p.step s).2.filter Output.ofTick := by
      unfold deedsOf
      generalize (p.step s).2.filter Output.ofTick = out
      cases out with
      | nil => rfl
      | cons o out =>
        dsimp only
        rw [List.filterMap_append, hheard, List.nil_append, List.filterMap_map]
        exact List.filterMap_some
    rw [deeds, outputs, List.filterMap_append, List.filter_append, ih, hstep]

section Picking

variable {α : Type} {pick : Output → Option α} {f : Except Error Sample → Option α}

theorem pick_story (hr : ∀ r, pick (.request r) = none)
    (hf : ∀ r, (verdict r).filterMap pick = (f r).toList) (window : Nat) (t : Tick) :
    ((t.story window).filterMap Deed.output?).filterMap pick = (f t.result).toList := by
  have hexchange : ∀ xs : List (Node.Request × Answer),
      ((xs.flatMap fun x => [.did (.request x.1), .answered x.2]).filterMap
        Deed.output?).filterMap pick = [] := by
    intro xs
    induction xs with
    | nil => rfl
    | cons x xs ih => simpa [Deed.output?, hr] using ih
  have hverdict : ((verdict t.result).map Deed.did).filterMap Deed.output? = verdict t.result := by
    rw [List.filterMap_map]
    exact List.filterMap_some
  rw [Tick.story, List.filterMap_cons_none rfl, List.filterMap_append, List.filterMap_append,
    hexchange, hverdict, hf, List.nil_append]

theorem pick_begun (hr : ∀ r, pick (.request r) = none) {progress : Progress} {last : List Deed}
    (h : Begun window progress last) : (last.filterMap Deed.output?).filterMap pick = [] := by
  cases h with
  | dag client => exact List.filterMap_cons_none (hr _)
  | estimate client info tip others h =>
    exact (List.filterMap_cons_none (hr _)).trans (List.filterMap_cons_none (hr _))

/-- What is said at the end of a story is said for each tick whose story has ended. -/
theorem pick_outputs (hr : ∀ r, pick (.request r) = none)
    (ho : ∀ o, Output.ofTick o = false → pick o = none)
    (hf : ∀ r, (verdict r).filterMap pick = (f r).toList) {ss : List Stimulus} {ticks : List Tick}
    {last : List Deed} (hd : p.deeds ss = ticks.flatMap (Tick.story window) ++ last)
    (hl : Leaves window (p.after ss) last) :
    (p.outputs ss).filterMap pick = ticks.filterMap fun t => f t.result := by
  have hall : (p.outputs ss).filterMap pick =
      ((p.deeds ss).filterMap Deed.output?).filterMap pick := by
    rw [output?_deeds, List.filterMap_filter]
    congr 1
    funext o
    split
    · rfl
    · rename_i h
      exact ho o (by simpa using h)
  have hlast : (last.filterMap Deed.output?).filterMap pick = [] := by
    cases hl with
    | nothing h => rfl
    | begun progress hp last h => exact pick_begun hr h
    | broken he progress last h => exact pick_begun hr h
  rw [hall, hd, List.filterMap_append, List.filterMap_append, hlast, List.append_nil,
    List.filterMap_flatMap, List.filterMap_flatMap, List.filterMap_eq_flatMap_toList]
  simp only [pick_story hr hf]

end Picking

/-! ### Going on -/

theorem ticking_of_failure (hc : p.cancelled = false) {progress : Progress} {e : Error}
    (h : .log (failedEntry e) ∈ (p.proceed progress).2) :
    (p.proceed progress).1.point = .ticking := by
  match progress with
  | .askDag client => simp [proceed, Progress.request?] at h
  | .askEstimate client info tip => simp [proceed, Progress.request?] at h
  | .done (.ok sample) => simp [proceed, failedEntry, entry] at h
  | .done (.error e) => simp [proceed, awaitTick, hc]

/-- A failure is told, and then the next tick is waited for. -/
theorem waits_after_failure (hc : p.cancelled = false) (s : Stimulus) {e : Error}
    (h : .log (failedEntry e) ∈ (p.step s).2) : (p.step s).1.point = .ticking := by
  have hnot : (p.step s).2.filter Output.ofTick ≠ [] :=
    List.ne_nil_of_mem (List.mem_filter.mpr ⟨h, rfl⟩)
  cases moved p s with
  | tick now slot answer hs hp hc' t ticker ht hd hk hn =>
    rw [hn] at h ⊢
    exact ticking_of_failure (p := { p with ticker := some ticker }) hc h
  | goOn now slot answer hs progress next hp hf hn =>
    rw [hn] at h ⊢
    exact ticking_of_failure hc h
  | _ hq => exact absurd hq hnot

/-- A tick that is due is taken. -/
theorem takes_tick (h : Regular settings p) (hp : p.point = .ticking) (hc : p.cancelled = false)
    (hd : p.ticker.any (·.ready now) = true)
    (hl : now + settings.interval.toMillis < instantLimit) (slot : Option ClientId)
    (answer : Option Answer) :
    p.deedsOf (.turn now slot answer) =
      .tick slot :: (said settings.window (.start slot)).map .did := by
  obtain ⟨t, ht, hready⟩ := Option.any_eq_true _ _ |>.mp hd
  obtain ⟨ticker, hk⟩ : ∃ ticker, t.tick? now = some ticker := by
    cases hk : t.tick? now with
    | some ticker => exact ⟨ticker, rfl⟩
    | none =>
      have := Ticker.limit_of_tick hk
      rw [h.period t ht] at this
      omega
  have hturn : p.turn now slot answer =
      { p with ticker := some ticker }.proceed (.start slot) := by
    simp [turn, hp, hc, ht, hready, sample, hk]
  have hout : (p.step (.turn now slot answer)).2.filter Output.ofTick =
      said settings.window (.start slot) := by
    rw [step, hturn, ofTick_proceed, ← h.same]
  rw [deedsOf_of_said hout (said_ne_nil _ _), heard, hp]
  rfl

/-- A poller takes one tick after another.  A tick asks for the state of the block graph, if there
is a client to ask, and once it knows a tip, for an estimate from the first one, of the same client
and over the window that is set.  Its story ends with the sample that is recorded or with the
failure that is told, and only the last story of a run may lack its end.  So the samples recorded
are those of the good ticks, and the failures told those of the others, in their order.  And unless
the poller is cancelled or broken off it has not ended: it waits for the next tick after each
failure, and takes it when it is due. -/
theorem good_samples_recorded (settings : Settings) (ss : List Stimulus) :
    let p := (start settings).after ss
    let out := (start settings).outputs ss
    (∃ (ticks : List Tick) (last : List Deed),
      (start settings).deeds ss = ticks.flatMap (Tick.story settings.window) ++ last ∧
      (last = [] ∨
        ∃ t answer rest, Tick.story settings.window t = last ++ .answered answer :: rest) ∧
      out.filterMap Output.record? = ticks.filterMap (fun t => t.result.toOption) ∧
      out.filterMap Output.failure? = ticks.filterMap (fun t => complaint? t.result)) ∧
    ((start settings).deeds ss).filterMap Deed.output? = out.filter Output.ofTick ∧
    (settings.interval.isZero = false → (∀ s ∈ ss, s.isHarmless settings.interval.toMillis) →
      p.isEnded = false ∧
      (∀ s e, .log (failedEntry e) ∈ (p.step s).2 → (p.step s).1.point = .ticking) ∧
      ∀ now slot answer, p.point = .ticking → p.ticker.any (·.ready now) = true →
        now + settings.interval.toMillis < instantLimit →
        p.deedsOf (.turn now slot answer) =
          .tick slot :: (said settings.window (.start slot)).map .did) := by
  intro p out
  refine ⟨?_, output?_deeds _ ss, fun hz hs => ?_⟩
  · obtain ⟨ticks, last, hd, hl⟩ := tells settings ss
    refine ⟨ticks, last, hd, ?_, ?_, ?_⟩
    · cases hl with
      | nothing h => exact .inl rfl
      | begun progress hp last h => exact .inr h.lacking
      | broken he progress last h => exact .inr h.lacking
    · refine pick_outputs (fun r => rfl) (fun o ho => ?_) (fun r => ?_) hd hl
      · cases o with
        | record sample => cases ho
        | _ => rfl
      · cases r <;> rfl
    · refine pick_outputs (fun r => rfl) (fun o ho => ?_) (fun r => ?_) hd hl
      · cases o with
        | log e =>
          have hinfo : e.level = .info := by simpa [Output.ofTick] using ho
          simp [Output.failure?, hinfo]
        | _ => rfl
      · cases r <;> rfl
  · have hne : settings.interval.toMillis ≠ 0 := fun h =>
      absurd (hz.symm.trans (Span.isZero_of_toMillis h)) Bool.false_ne_true
    obtain ⟨hn, hc⟩ := goes_on settings hne hs
    refine ⟨hn, fun s e h => waits_after_failure hc s h, fun now slot answer hp hd hl => ?_⟩
    exact takes_tick (regular settings ss) hp hc hd hl slot answer

/-- A tick without a client, and one whose client is replaced between the two requests. -/
def twoTicks : List Stimulus := [
  .turn 0 (some 0) none, .turn 30000 none none, .turn 60000 (some 0) none,
  .turn 60010 (some 1) (some (.dag (.ok { blockCount := 5, tipHashes := ["aa", "bb"] }))),
  .turn 60020 (some 1) (some (.estimate (.ok 7))), .turn 60020 (some 1) (some .recorded)]

theorem twoTicks_harmless : ∀ s ∈ twoTicks, s.isHarmless 30000 := by
  simp [twoTicks, Stimulus.isHarmless, instantLimit, UInt64.size]

theorem good_one_recorded :
    let p := (start ⟨.ofSeconds 30, 1000⟩).after twoTicks
    ((start ⟨.ofSeconds 30, 1000⟩).outputs twoTicks).filterMap Output.record? =
      [⟨Binary64.ofNat 7, 5, Binary64.zero⟩] ∧
    ((start ⟨.ofSeconds 30, 1000⟩).outputs twoTicks).filterMap Output.failure? =
      [failedEntry .notConnected] ∧
    p.isEnded = false ∧
    (p.step (.turn 90000 none none)).1.point = .ticking ∧
    p.deedsOf (.turn 90000 (some 1) none) =
      [.tick (some 1), .did (.request (.getDagInfo 1))] := by
  intro p
  obtain ⟨-, -, h⟩ := good_samples_recorded ⟨.ofSeconds 30, 1000⟩ twoTicks
  obtain ⟨hn, hfail, htick⟩ := h rfl twoTicks_harmless
  have hdue : p.ticker.any (·.ready 90000) = true := by decide +kernel
  refine ⟨rfl, rfl, hn, hfail _ .notConnected ?_, htick 90000 (some 1) none rfl hdue ?_⟩
  · exact List.mem_cons_self
  · decide

end WorkBridge.Stats.Poller
