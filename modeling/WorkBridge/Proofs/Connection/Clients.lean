import WorkBridge.Proofs.Connection.Calls

/-!
What becomes of the clients that a connector makes.

Whatever the calls do, and whichever of them are dropped, the clients made so far are, in order,
those that have been disconnected and the one in the slot (`clients_accounted`).  Only a close
takes a client out of the slot, and only a reconnect that found the slot empty fills it
(`client_lifecycle`).
-/

namespace WorkBridge.Connection.Supervisor

open Node (ClientId)

/-- The clients that are asked to disconnect, in order. -/
def disconnected (out : List Effect) : List ClientId :=
  out.filterMap fun
    | .request (.disconnect c) => some c
    | _ => none

/-- The clients that calls get from the connector in a run, in order. -/
def returned (s : Supervisor) : List Event → List ClientId
  | [] => []
  | e :: es => s.delivered e ++ (s.step e).1.returned es

variable {s : Supervisor} {e : Event} {r : Supervisor × List Effect} {t : Nat} {o : Outcome}

theorem disconnected_append (out out' : List Effect) :
    disconnected (out ++ out') = disconnected out ++ disconnected out' := List.filterMap_append

theorem succeed_disconnected (s : Supervisor) (t : Nat) (o : Outcome) :
    disconnected (s.succeed t o).2 = [] := rfl

/-! ### Every client is disconnected once or in the slot -/

theorem Move.accounted (hm : Move s e r) (h : Orderly s) :
    s.slot.toList ++ s.delivered e = disconnected r.2 ++ r.1.slot.toList := by
  cases hm with
  | idle e hd => simp [hd, disconnected]
  | shut t client rest hc hs => simp [hs, delivered, disconnected]
  | replaced t k client rest hc =>
    -- The call has had the lock since it found the slot empty, so it overwrites nothing.
    have hs : s.slot = none := (h.holder _ _ hc).2
    have hd : s.delivered (.connected t (.ok client)) = [client] := by
      simp [delivered, holder_eq hc]
    rw [hs, hd, succeed_disconnected]
    rfl
  | _ => simp [delivered, disconnected, succeed, fail, settle, release]

theorem clients_accounted (h : Orderly s) (es : List Event) :
    s.slot.toList ++ s.returned es = disconnected (s.effects es) ++ (s.after es).slot.toList := by
  induction es generalizing s with
  | nil => simp [returned, effects, after, disconnected]
  | cons e es ih =>
    have hm := step_move s e
    calc s.slot.toList ++ (s.delivered e ++ (s.step e).1.returned es)
        = disconnected (s.step e).2 ++ ((s.step e).1.slot.toList ++ (s.step e).1.returned es) := by
          rw [← List.append_assoc, hm.accounted h, List.append_assoc]
      _ = disconnected (s.step e).2 ++ (disconnected ((s.step e).1.effects es) ++
            (s.after (e :: es)).slot.toList) := by
          rw [ih (hm.orderly h)]
          rfl
      _ = disconnected (s.effects (e :: es)) ++ (s.after (e :: es)).slot.toList := by
          rw [← List.append_assoc, ← disconnected_append]
          rfl

/-! ### Who changes the slot -/

theorem Move.kept (hm : Move s e r) (h : Orderly s) {client : ClientId}
    (hs : s.slot = some client) :
    r.1.slot = some client ∨ ∃ t, e = .proceed t ∧ s.isNext t .close = true := by
  cases hm with
  | shut t client' rest hc hs' => exact .inr ⟨t, rfl, isNext_of_calls hc⟩
  | replaced t k client' rest hc =>
    have hn : s.slot = none := (h.holder _ _ hc).2
    rw [hn] at hs
    cases hs
  | _ => exact .inl hs

theorem Move.not_replaced (hm : Move s e r) (hs : r.1.slot = none) (t : Nat) :
    .done t (.reconnected (.ok .replaced)) ∉ r.2 := by
  cases hm with
  | replaced t' k client rest hc => cases hs
  | _ => simp [succeed, fail, settle]

/-- A slot that is empty has been emptied by a close and not been filled since. -/
theorem emptied_since (h : Orderly s) {first : ClientId} (hf : s.slot = some first)
    (es : List Event) (hs : (s.after es).slot = none) :
    ∃ before t client since, es = before ++ .proceed t :: since ∧
      (s.after before).isNext t .close = true ∧ (s.after before).slot = some client ∧
      ∀ t', .done t' (.reconnected (.ok .replaced)) ∉
        (s.after (before ++ [.proceed t])).effects since := by
  induction es using List.reverseRecOn with
  | nil =>
    rw [show s.after [] = s from rfl, hf] at hs
    cases hs
  | append_singleton es e ih =>
    rw [after_snoc] at hs
    have hm := step_move (s.after es) e
    -- The slot was empty before the last event, or that event is the close.
    cases hc : (s.after es).slot with
    | none =>
      obtain ⟨before, t, client, since, rfl, hn, hb, hk⟩ := ih hc
      refine ⟨before, t, client, since ++ [e], by simp, hn, hb, fun t' ht => ?_⟩
      rw [effects_snoc, ← after_append, List.append_assoc, List.singleton_append] at ht
      rcases List.mem_append.mp ht with ht | ht
      · exact hk t' ht
      · exact hm.not_replaced hs t' ht
    | some client =>
      rcases hm.kept (h.after es) hc with hk | ⟨t, rfl, hn⟩
      · rw [hk] at hs
        cases hs
      · exact ⟨es, t, client, [], rfl, hn, hc, by simp [effects]⟩

/-! ### An empty slot -/

structure Shut (s : Supervisor) : Prop where
  slot : s.slot = none
  connected : s.connected = false

theorem Move.closes (hm : Move s e r) (h : Orderly s) (hd : .done t .closed ∈ r.2) :
    Shut r.1 := by
  cases hm with
  | shutEmpty t' rest hc hs => exact ⟨hs, rfl⟩
  | closed t' k client rest e hc => exact ⟨(h.holder _ _ hc).2, rfl⟩
  | _ => simp [succeed, fail] at hd

/-- Only a reconnect that makes a client opens it again. -/
theorem Move.shut_or_replaced (hm : Move s e r) (h : Orderly s) (hs : Shut s) :
    Shut r.1 ∨ ∃ t, .done t (.reconnected (.ok .replaced)) ∈ r.2 := by
  cases hm with
  | replaced t k client rest hc => exact .inr ⟨t, by simp [succeed]⟩
  | reestablished t k client rest hc =>
    have hslot : s.slot = some client := (h.holder _ _ hc).2
    cases hs.slot.symm.trans hslot
  | unconnected t k i rest hc => exact .inl ⟨hs.slot, rfl⟩
  | unestablished t k client i rest hc => exact .inl ⟨hs.slot, rfl⟩
  | shut t client rest hc hslot => cases hs.slot.symm.trans hslot
  | shutEmpty t rest hc hslot => exact .inl ⟨hslot, rfl⟩
  | closed t k client rest e hc => exact .inl ⟨hs.slot, rfl⟩
  | _ => exact .inl ⟨hs.slot, hs.connected⟩

/-- Closing once more what nobody waits for changes nothing, and nobody is asked to disconnect. -/
theorem close_shut (h : Shut s) (hc : s.calls = []) (t : Nat) :
    (s.step (.ask t .close)).1.step (.proceed t) =
      (s, [.update (.connected false), .done t .closed]) := by
  obtain ⟨address, slot, connected, calls⟩ := s
  obtain ⟨rfl, rfl⟩ := h
  obtain rfl : calls = [] := hc
  simp [step, holder?, begin, settle, release]

/-! ### What a reconnect reports -/

theorem Move.outcome (hm : Move s e r) (h : .done t (.reconnected (.ok o)) ∈ r.2) :
    ∃ c rest, s.calls = c :: rest ∧ c.ticket = t ∧
      ((c.stage = .connecting ∧ o = .replaced) ∨
        ∃ client, c.stage = .reconnecting client ∧ o = .reestablished) := by
  cases hm with
  | replaced t' k client rest hc =>
    obtain ⟨rfl, rfl⟩ : t = t' ∧ o = .replaced := by simpa [succeed] using h
    exact ⟨_, rest, hc, rfl, .inl ⟨rfl, rfl⟩⟩
  | reestablished t' k client rest hc =>
    obtain ⟨rfl, rfl⟩ : t = t' ∧ o = .reestablished := by simpa [succeed] using h
    exact ⟨_, rest, hc, rfl, .inr ⟨client, rfl, rfl⟩⟩
  | _ => simp [fail, settle] at h

theorem outcome_of_slot (h : Orderly s) (hs : ∀ c ∈ s.calls, c.stage = .queued) (es : List Event)
    (e : Event) (hd : .done t (.reconnected (.ok o)) ∈ ((s.after es).step e).2) :
    ∃ before since, es = before ++ .proceed t :: since ∧ s.Locked t .reconnect before since ∧
      o = if (s.after before).slot = none then .replaced else .reestablished := by
  obtain ⟨c, rest, hc, rfl, ho⟩ := (step_move (s.after es) e).outcome hd
  have hq : c.stage ≠ .queued := by
    rcases ho with ⟨hq, -⟩ | ⟨client, hq, -⟩ <;> simp [hq]
  obtain ⟨before, since, he, hl, hf⟩ := locked_since h es hc hq hs
  rcases ho with ⟨hq, rfl⟩ | ⟨client, hq, rfl⟩
  · rw [hq] at hf
    exact ⟨before, since, he, hf.1 ▸ hl, by simp [hf.2]⟩
  · rw [hq] at hf
    exact ⟨before, since, he, hf.1 ▸ hl, by simp [hf.2]⟩

/-! ### The whole run -/

theorem client?_eq_ok {client : ClientId} : s.client? = .ok client ↔ s.slot = some client := by
  unfold client?
  cases s.slot <;> simp

theorem client?_eq_error : s.client? = .error .notConnected ↔ s.slot = none := by
  unfold client?
  cases s.slot <;> simp

/-- In a list without repetition whose end is the slot, each client is in the slot or stands
once before it. -/
theorem count_of_slot {made closed : List ClientId} {slot : Option ClientId}
    (h : made = closed ++ slot.toList) (hn : made.Nodup) {client : ClientId}
    (hm : client ∈ made) :
    (slot = some client ∧ closed.count client = 0) ∨
      (slot ≠ some client ∧ closed.count client = 1) := by
  have hc : closed.count client + slot.toList.count client = 1 := by
    rw [← List.count_append, ← h]
    exact hn.count.trans (if_pos hm)
  cases slot with
  | none => exact .inr ⟨by simp, by simpa using hc⟩
  | some c =>
    by_cases hs : c = client
    · subst hs
      exact .inl ⟨rfl, by simpa using hc⟩
    · refine .inr ⟨by simpa using hs, ?_⟩
      have h0 : [c].count client = 0 := List.count_eq_zero.mpr (by simpa using Ne.symm hs)
      rwa [Option.toList_some, h0] at hc

/-- For calls in any number and order, of which any may be dropped anywhere:

* the clients made so far are those that were disconnected and the one in the slot, so that,
  where the connector makes no client twice, each is in the slot or was disconnected once;
* no two of them are still to be disconnected;
* a reconnect tells whether the slot was empty as it got the lock;
* there is no client only where a close has taken it and no reconnect has replaced it since;
* nothing but a close that gets the lock takes a client away. -/
theorem client_lifecycle (address : Node.Address) (first : ClientId) (es : List Event) :
    let s := opened address first
    let made := first :: s.returned es
    let closed := disconnected (s.effects es)
    made = closed ++ (s.after es).slot.toList ∧
    (made.Nodup → ∀ client ∈ made,
      ((s.after es).slot = some client ∧ closed.count client = 0) ∨
        ((s.after es).slot ≠ some client ∧ closed.count client = 1)) ∧
    (∀ c ∈ made, ∀ c' ∈ made, c ∉ closed → c' ∉ closed → c = c') ∧
    (∀ e t o, .done t (.reconnected (.ok o)) ∈ ((s.after es).step e).2 →
      ∃ before since, es = before ++ .proceed t :: since ∧ s.Locked t .reconnect before since ∧
        o = if (s.after before).slot = none then .replaced else .reestablished) ∧
    ((s.after es).client? = .error .notConnected →
      ∃ before t client since, es = before ++ .proceed t :: since ∧
        (s.after before).isNext t .close = true ∧ (s.after before).client? = .ok client ∧
        ∀ t', .done t' (.reconnected (.ok .replaced)) ∉
          (s.after (before ++ [.proceed t])).effects since) ∧
    (∀ e client, (s.after es).client? = .ok client →
      ((s.after es).step e).1.client? = .ok client ∨
        ∃ t, e = .proceed t ∧ (s.after es).isNext t .close = true) := by
  intro s made closed
  have ho : Orderly s := orderly_opened address first
  have hq : ∀ c ∈ s.calls, c.stage = .queued := fun _ hc => nomatch hc
  have ha : made = closed ++ (s.after es).slot.toList := clients_accounted ho es
  refine ⟨ha, fun hn client hm => count_of_slot ha hn hm, fun c hc c' hc' h h' => ?_,
    fun e t o hd => ?_, fun hs => ?_, fun e client hc => ?_⟩
  · have inSlot : ∀ c ∈ made, c ∉ closed → (s.after es).slot = some c := by
      intro c hc h
      rw [ha] at hc
      exact Option.mem_toList.mp ((List.mem_append.mp hc).resolve_left h)
    exact Option.some.inj ((inSlot c hc h).symm.trans (inSlot c' hc' h'))
  · exact outcome_of_slot ho hq es e hd
  · simp only [client?_eq_ok]
    exact emptied_since ho rfl es (client?_eq_error.mp hs)
  · rw [client?_eq_ok] at hc ⊢
    exact (step_move (s.after es) e).kept (ho.after es) hc

/-- A close, with a reconnect that is dropped while it waits, and a reconnect behind them. -/
def replacing : List Event := [
  .ask 0 .close, .proceed 0, .ask 1 .reconnect, .ask 2 .reconnect, .drop 1, .disconnected 0,
  .proceed 2, .connected 2 (.ok 8)]

theorem replaced_client_closed :
    ((opened default 7).after replacing).slot ≠ some 7 ∧
      (disconnected ((opened default 7).effects replacing)).count 7 = 1 :=
  ((client_lifecycle default 7 replacing).2.1 (by decide) 7 (by decide)).resolve_left
    fun h => absurd h.1 (by decide)

end WorkBridge.Connection.Supervisor
