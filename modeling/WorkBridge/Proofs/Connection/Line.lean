import WorkBridge.Proofs.Connection.Record

/-!
Who is in the line of a connection.

`line` gives the calls of one caller, by what they are for.  A caller gets into the line by asking
and leaves it when the call ends or is dropped; what the others do makes no difference
(`line_ask`, `line_drop`, `Move.line`).
-/

namespace WorkBridge.Connection

/-- What a call was for that ended so. -/
def Result.kind : Result → Kind
  | .reconnected _ => .reconnect
  | .closed => .close

namespace Supervisor

/-- The call that an event lets go on. -/
def Event.woken? : Event → Option Nat
  | .ask _ _ => none
  | .proceed t => some t
  | .connected t _ => some t
  | .reconnected t _ => some t
  | .disconnected t => some t
  | .drop _ => none

def line (s : Supervisor) (t : Nat) : List Kind :=
  (s.calls.filter fun c => c.ticket = t).map (·.kind)

variable {s : Supervisor} {e : Event} {t : Nat} {r : Supervisor × List Effect}

theorem line_ask (s : Supervisor) (t : Nat) (k : Kind) (u : Nat) :
    (s.step (.ask t k)).1.line u = s.line u ++ if t = u then [k] else [] := by
  unfold line
  show ((s.calls ++ [_]).filter _).map _ = _
  rw [List.filter_append, List.map_append]
  by_cases h : t = u <;> simp [h]

theorem line_drop (s : Supervisor) (t u : Nat) :
    (s.step (.drop t)).1.line u = if t = u then [] else s.line u := by
  unfold line
  show ((s.calls.filter _).filter _).map _ = _
  rw [List.filter_filter]
  by_cases h : t = u
  · rw [if_pos h, List.filter_eq_nil_iff.mpr]
    · rfl
    · intro c _
      simp [h]
  · rw [if_neg h]
    congr 1
    refine List.filter_congr fun c _ => ?_
    by_cases hc : c.ticket = u
    · simp [hc, Ne.symm h]
    · simp [hc]

theorem line_cons {c : Call} {rest : List Call} (h : s.calls = c :: rest) (u : Nat) :
    s.line u =
      (if c.ticket = u then [c.kind] else []) ++
        (rest.filter fun c => c.ticket = u).map (·.kind) := by
  unfold line
  rw [h, List.filter_cons]
  by_cases hu : c.ticket = u <;> simp [hu]

theorem mem_results {i : Result} {out : List Effect} :
    i ∈ results out ↔ ∃ t, .done t i ∈ out := by
  rw [results, List.mem_filterMap]
  constructor
  · rintro ⟨x, hx, hi⟩
    cases x with
    | done t i =>
      cases hi
      exact ⟨t, hx⟩
    | _ => cases hi
  · rintro ⟨t, ht⟩
    exact ⟨_, ht, rfl⟩

/-- A call that goes on keeps its place or ends. -/
theorem Move.line (hm : Move s e r) (h : Orderly s) (he : e.woken? = some t) :
    (results r.2 = [] ∧ ∀ u, r.1.line u = s.line u) ∨
      ∃ i : Result, results r.2 = [i] ∧ s.line t = i.kind :: r.1.line t ∧
        ∀ u, u ≠ t → r.1.line u = s.line u := by
  -- The call that has the lock goes on to another stage.
  have advances {k : Kind} {stage stage' : Stage} {rest : List Call} {s' : Supervisor}
      (hc : s.calls = ⟨t, k, stage⟩ :: rest) (hc' : s'.calls = ⟨t, k, stage'⟩ :: rest) (u : Nat) :
      s'.line u = s.line u := by
    rw [line_cons hc, line_cons hc']
  have ends {k : Kind} {stage : Stage} {rest : List Call} {s' : Supervisor}
      (hc : s.calls = ⟨t, k, stage⟩ :: rest) (hc' : s'.calls = rest) {i : Result}
      (hk : k = i.kind) : s.line t = i.kind :: s'.line t ∧ ∀ u, u ≠ t → s'.line u = s.line u := by
    have hline (u : Nat) : s'.line u = (rest.filter fun c => c.ticket = u).map (·.kind) := by
      rw [Supervisor.line, hc']
    refine ⟨?_, fun u hu => ?_⟩
    · rw [line_cons hc, if_pos rfl, hline, hk]
      rfl
    · rw [line_cons hc, if_neg (Ne.symm hu), hline]
      rfl
  have releases {s' : Supervisor} {c : Call} {rest : List Call} (hs : s'.calls = s.calls)
      (hc : s.calls = c :: rest) : s'.release.calls = rest := by
    unfold release
    rw [hs, hc]
    rfl
  -- A call that ends has the lock, and `Orderly` says what for.
  cases hm with
  | idle e hd => exact .inl ⟨rfl, fun _ => rfl⟩
  | ask t k => cases he
  | drop t => cases he
  | renew t client rest hc hs =>
    cases he
    exact .inl ⟨rfl, advances hc rfl⟩
  | dial t rest hc hs =>
    cases he
    exact .inl ⟨rfl, advances hc rfl⟩
  | shut t client rest hc hs =>
    cases he
    exact .inl ⟨rfl, advances hc rfl⟩
  | shutEmpty t rest hc hs =>
    cases he
    exact .inr ⟨.closed, rfl, ends hc (releases rfl hc) rfl⟩
  | replaced t k client rest hc =>
    cases he
    have hk : k = .reconnect := (h.holder _ _ hc).1
    exact .inr ⟨_, rfl, ends hc (releases rfl hc) hk⟩
  | unconnected t k i rest hc =>
    cases he
    have hk : k = .reconnect := (h.holder _ _ hc).1
    exact .inr ⟨_, rfl, ends hc (releases rfl hc) hk⟩
  | reestablished t k client rest hc =>
    cases he
    have hk : k = .reconnect := (h.holder _ _ hc).1
    exact .inr ⟨_, rfl, ends hc (releases rfl hc) hk⟩
  | unestablished t k client i rest hc =>
    cases he
    have hk : k = .reconnect := (h.holder _ _ hc).1
    exact .inr ⟨_, rfl, ends hc (releases rfl hc) hk⟩
  | closed t k client rest e hc =>
    cases he
    have hk : k = .close := (h.holder _ _ hc).1
    exact .inr ⟨.closed, rfl, ends hc (releases rfl hc) hk⟩

/-! ### The call at the head -/

/-- A call that has the lock keeps it until it ends or is dropped. -/
theorem Move.keeps_lock (hm : Move s e r) (h : s.hasLock t = true) (hd : e ≠ .drop t) :
    r.1.hasLock t = true ∨ e.woken? = some t ∧ results r.2 ≠ [] := by
  obtain ⟨c, rest, hc, rfl, hq⟩ := hasLock_iff.mp h
  -- Where another call than this one would have to be at the head.
  have queued {c' : Call} {rest' : List Call} (hc' : s.calls = c' :: rest')
      (hq' : c'.stage = .queued) : False := by
    obtain ⟨rfl, -⟩ := List.cons.inj (hc.symm.trans hc')
    exact hq hq'
  have head {c' : Call} {rest' : List Call} (hc' : s.calls = c' :: rest') :
      c'.ticket = c.ticket := by
    rw [(List.cons.inj (hc.symm.trans hc')).1]
  cases hm with
  | idle e hd' => exact .inl h
  | ask t k =>
    exact .inl (hasLock_iff.mpr ⟨c, rest ++ [{ ticket := t, kind := k }], by simp [hc], rfl, hq⟩)
  | drop t =>
    have ht : c.ticket ≠ t := fun ht => hd (ht ▸ rfl)
    exact .inl (hasLock_iff.mpr ⟨c, rest.filter (·.ticket ≠ t), by simp [hc, ht], rfl, hq⟩)
  | renew t client rest' hc' hs => exact (queued hc' rfl).elim
  | dial t rest' hc' hs => exact (queued hc' rfl).elim
  | shut t client rest' hc' hs => exact (queued hc' rfl).elim
  | shutEmpty t rest' hc' hs => exact (queued hc' rfl).elim
  | replaced t k client rest' hc' => exact .inr ⟨congrArg some (head hc'), nofun⟩
  | unconnected t k i rest' hc' => exact .inr ⟨congrArg some (head hc'), nofun⟩
  | reestablished t k client rest' hc' => exact .inr ⟨congrArg some (head hc'), nofun⟩
  | unestablished t k client i rest' hc' => exact .inr ⟨congrArg some (head hc'), nofun⟩
  | closed t k client rest' e hc' => exact .inr ⟨congrArg some (head hc'), nofun⟩

/-- A close at the head of the line gets the lock or ends as it goes on. -/
theorem proceed_close {stage : Stage} {rest : List Call}
    (hc : s.calls = ⟨t, .close, stage⟩ :: rest) :
    (s.step (.proceed t)).1.hasLock t = true ∨ results (s.step (.proceed t)).2 ≠ [] := by
  by_cases hq : stage = .queued
  · subst hq
    cases hs : s.slot with
    | none => exact .inr (by simp [step, holder_eq hc, begin, hs, settle, results])
    | some client =>
      refine .inl (hasLock_iff.mpr ⟨⟨t, .close, .disconnecting client⟩, rest, ?_, rfl, by simp⟩)
      simp [step, holder_eq hc, begin, hs, advance, hc]
  · have hl : s.hasLock t = true := hasLock_iff.mpr ⟨_, rest, hc, rfl, hq⟩
    exact ((step_move s (.proceed t)).keeps_lock hl (by simp)).imp_right And.right

/-- A close that has the lock ends once the client has been disconnected. -/
theorem disconnected_close {stage : Stage} {rest : List Call} (h : Orderly s)
    (hc : s.calls = ⟨t, .close, stage⟩ :: rest) (hq : stage ≠ .queued) :
    results (s.step (.disconnected t)).2 ≠ [] := by
  have ha := h.holder _ _ hc
  cases stage with
  | queued => exact absurd rfl hq
  | connecting => cases ha.1
  | reconnecting client => cases ha.1
  | disconnecting client => simp [step, holder_eq hc, settle, results]

end Supervisor
end WorkBridge.Connection
