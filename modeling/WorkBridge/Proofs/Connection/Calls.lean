import Mathlib.Data.List.Induction
import WorkBridge.Connection.Supervisor

/-!
Calls of a supervisor that wait for each other.

`step_move` says all that an event can do.  Only the call at the head of the line gets past its
first stage, and its stage tells what it found in the slot (`Orderly`); `locked_since` finds the
event at which it got the lock.
-/

namespace WorkBridge.Connection

open Node (ClientId)

/-- What a call that is at a stage knows of the slot. -/
def Stage.agrees (kind : Kind) (slot : Option ClientId) : Stage → Prop
  | .queued => True
  | .connecting => kind = .reconnect ∧ slot = none
  | .reconnecting client => kind = .reconnect ∧ slot = some client
  | .disconnecting _ => kind = .close ∧ slot = none

/-- What a call that is at a stage found in the slot as it got the lock. -/
def Stage.found (kind : Kind) (slot : Option ClientId) : Stage → Prop
  | .queued => False
  | .connecting => kind = .reconnect ∧ slot = none
  | .reconnecting client => kind = .reconnect ∧ slot = some client
  | .disconnecting client => kind = .close ∧ slot = some client

namespace Supervisor

def after (s : Supervisor) (es : List Event) : Supervisor := es.foldl (fun s e => (s.step e).1) s

/-- All that a supervisor does in a run. -/
def effects (s : Supervisor) : List Event → List Effect
  | [] => []
  | e :: es => (s.step e).2 ++ (s.step e).1.effects es

/-- Whether the call with this ticket has the lock. -/
def hasLock (s : Supervisor) (t : Nat) : Bool := (s.holder? t).any (·.stage ≠ .queued)

/-- Whether the call with this ticket is the next one to get the lock. -/
def isNext (s : Supervisor) (t : Nat) (k : Kind) : Bool :=
  (s.holder? t).any fun c => c.kind = k && c.stage = .queued

/-- A supervisor around the first client. -/
def opened (address : Node.Address) (first : ClientId) : Supervisor := (new address first).1

variable {s s' : Supervisor} {e : Event} {t : Nat} {c : Call} {rest : List Call} {k : Kind}
  {out : List Effect} {r : Supervisor × List Effect}

theorem after_append (s : Supervisor) (es fs : List Event) :
    s.after (es ++ fs) = (s.after es).after fs := List.foldl_append

theorem after_snoc (s : Supervisor) (es : List Event) (e : Event) :
    s.after (es ++ [e]) = ((s.after es).step e).1 := after_append s es [e]

theorem effects_append (s : Supervisor) (es fs : List Event) :
    s.effects (es ++ fs) = s.effects es ++ (s.after es).effects fs := by
  induction es generalizing s with
  | nil => rfl
  | cons e es ih =>
    simp only [List.cons_append, effects, ih, List.append_assoc]
    rfl

theorem effects_snoc (s : Supervisor) (es : List Event) (e : Event) :
    s.effects (es ++ [e]) = s.effects es ++ ((s.after es).step e).2 := by
  rw [effects_append]
  simp [effects]

theorem holder_eq (h : s.calls = c :: rest) (t : Nat) :
    s.holder? t = if c.ticket = t then some c else none := by
  unfold holder?
  rw [h]

theorem calls_of_holder (h : s.holder? t = some c) :
    ∃ rest, s.calls = c :: rest ∧ c.ticket = t := by
  unfold holder? at h
  split at h
  · rename_i c' rest hc
    split at h
    · rename_i ht
      cases h
      exact ⟨rest, hc, ht⟩
    · cases h
  · cases h

theorem hasLock_iff : s.hasLock t = true ↔
    ∃ c rest, s.calls = c :: rest ∧ c.ticket = t ∧ c.stage ≠ .queued := by
  unfold hasLock
  rw [Option.any_eq_true]
  constructor
  · rintro ⟨c, hc, hq⟩
    obtain ⟨rest, hcalls, ht⟩ := calls_of_holder hc
    exact ⟨c, rest, hcalls, ht, by simpa using hq⟩
  · rintro ⟨c, rest, hcalls, ht, hq⟩
    refine ⟨c, ?_, by simpa using hq⟩
    rw [holder_eq hcalls, if_pos ht]

theorem isNext_of_calls (h : s.calls = ⟨t, k, .queued⟩ :: rest) : s.isNext t k = true := by
  unfold isNext
  rw [holder_eq h]
  simp

/-! ### What an event can do -/

/-- The client that a call gets from the connector.  One that a dropped call would have got is
dropped with it. -/
def delivered (s : Supervisor) : Event → List ClientId
  | .connected t (.ok client) =>
    match s.holder? t with
    | some { stage := .connecting, .. } => [client]
    | _ => []
  | _ => []

inductive Move (s : Supervisor) : Event → Supervisor × List Effect → Prop
  | idle (e : Event) (hd : s.delivered e = []) : Move s e (s, [])
  | ask (t : Nat) (k : Kind) :
      Move s (.ask t k) ({ s with calls := s.calls ++ [{ ticket := t, kind := k }] }, [])
  | drop (t : Nat) :
      Move s (.drop t) ({ s with calls := s.calls.filter (·.ticket ≠ t) }, [])
  | renew (t : Nat) (client : ClientId) (rest : List Call)
      (hc : s.calls = ⟨t, .reconnect, .queued⟩ :: rest) (hs : s.slot = some client) :
      Move s (.proceed t)
        ({ s with calls := ⟨t, .reconnect, .reconnecting client⟩ :: rest },
          [.request (.reconnect client)])
  | dial (t : Nat) (rest : List Call) (hc : s.calls = ⟨t, .reconnect, .queued⟩ :: rest)
      (hs : s.slot = none) :
      Move s (.proceed t)
        ({ s with calls := ⟨t, .reconnect, .connecting⟩ :: rest }, [.request (.connect s.address)])
  | shut (t : Nat) (client : ClientId) (rest : List Call)
      (hc : s.calls = ⟨t, .close, .queued⟩ :: rest) (hs : s.slot = some client) :
      Move s (.proceed t)
        ({ s with slot := none, calls := ⟨t, .close, .disconnecting client⟩ :: rest },
          [.request (.disconnect client)])
  | shutEmpty (t : Nat) (rest : List Call) (hc : s.calls = ⟨t, .close, .queued⟩ :: rest)
      (hs : s.slot = none) : Move s (.proceed t) (s.settle t)
  | replaced (t : Nat) (k : Kind) (client : ClientId) (rest : List Call)
      (hc : s.calls = ⟨t, k, .connecting⟩ :: rest) :
      Move s (.connected t (.ok client)) ({ s with slot := some client }.succeed t .replaced)
  | unconnected (t : Nat) (k : Kind) (i : Node.ClientError) (rest : List Call)
      (hc : s.calls = ⟨t, k, .connecting⟩ :: rest) :
      Move s (.connected t (.error i)) (s.fail t i)
  | reestablished (t : Nat) (k : Kind) (client : ClientId) (rest : List Call)
      (hc : s.calls = ⟨t, k, .reconnecting client⟩ :: rest) :
      Move s (.reconnected t (.ok ())) (s.succeed t .reestablished)
  | unestablished (t : Nat) (k : Kind) (client : ClientId) (i : Node.ClientError)
      (rest : List Call) (hc : s.calls = ⟨t, k, .reconnecting client⟩ :: rest) :
      Move s (.reconnected t (.error i)) (s.fail t i)
  | closed (t : Nat) (k : Kind) (client : ClientId) (rest : List Call) (e : LogEntry)
      (hc : s.calls = ⟨t, k, .disconnecting client⟩ :: rest) :
      Move s (.disconnected t) ((s.settle t).1, .log e :: (s.settle t).2)

theorem step_move (s : Supervisor) (e : Event) : Move s e (s.step e) := by
  cases e with
  | ask t k => exact .ask t k
  | drop t => exact .drop t
  | proceed t =>
    unfold step
    dsimp only
    split
    · rename_i c hc
      obtain ⟨rest, hcalls, ht⟩ := calls_of_holder hc
      split
      · rename_i hq
        obtain ⟨ticket, kind, stage⟩ := c
        cases ht
        cases hq
        unfold begin
        cases kind with
        | reconnect =>
          cases hs : s.slot with
          | none => simpa [advance, hcalls, hs] using Move.dial ticket rest hcalls hs
          | some client => simpa [advance, hcalls, hs] using Move.renew ticket client rest hcalls hs
        | close =>
          cases hs : s.slot with
          | none => exact .shutEmpty ticket rest hcalls hs
          | some client => simpa [advance, hcalls, hs] using Move.shut ticket client rest hcalls hs
      · exact .idle _ rfl
    · exact .idle _ rfl
  | connected t i =>
    unfold step
    dsimp only
    split
    · rename_i ticket kind hc
      obtain ⟨rest, hcalls, ht⟩ := calls_of_holder hc
      cases ht
      split
      · exact .replaced ticket kind _ rest hcalls
      · exact .unconnected ticket kind _ rest hcalls
    · rename_i hn
      refine .idle _ ?_
      unfold delivered
      split
      · rename_i heq
        cases heq
        split
        · rename_i ticket kind hc
          exact absurd hc (hn ticket kind)
        · rfl
      · rfl
  | reconnected t i =>
    unfold step
    dsimp only
    split
    · rename_i ticket kind client hc
      obtain ⟨rest, hcalls, ht⟩ := calls_of_holder hc
      cases ht
      split
      · exact .reestablished ticket kind client rest hcalls
      · exact .unestablished ticket kind client _ rest hcalls
    · exact .idle _ rfl
  | disconnected t =>
    unfold step
    dsimp only
    split
    · rename_i ticket kind client hc
      obtain ⟨rest, hcalls, ht⟩ := calls_of_holder hc
      cases ht
      exact .closed ticket kind client rest _ hcalls
    · exact .idle _ rfl

/-! ### The call with the lock -/

structure Orderly (s : Supervisor) : Prop where
  holder : ∀ c rest, s.calls = c :: rest → c.stage.agrees c.kind s.slot
  waiting : ∀ c rest, s.calls = c :: rest → ∀ d ∈ rest, d.stage = .queued

theorem Orderly.of_queued (h : ∀ c ∈ s.calls, c.stage = .queued) : Orderly s where
  holder := fun c rest hc => by
    rw [h c (by simp [hc])]
    trivial
  waiting := fun c rest hc d hd => h d (by simp [hc, hd])

/-- Where the call that has the lock changes, or only the slot does. -/
theorem Orderly.of_head {c : Call} {rest : List Call} (hc : s.calls = c :: rest)
    (ha : c.stage.agrees c.kind s.slot) (hr : ∀ d ∈ rest, d.stage = .queued) : Orderly s where
  holder := fun c' rest' hc' => by
    rw [hc] at hc'
    cases hc'
    exact ha
  waiting := fun c' rest' hc' => by
    rw [hc] at hc'
    cases hc'
    exact hr

theorem Orderly.queued_release (h : Orderly s) {s' : Supervisor} (hc : s'.calls = s.calls) :
    ∀ d ∈ s'.release.calls, d.stage = .queued := by
  intro d hd
  unfold Supervisor.release at hd
  rw [hc] at hd
  cases hs : s.calls with
  | nil => simp [hs] at hd
  | cons c rest => exact h.waiting c rest hs d (by simpa [hs] using hd)

theorem Orderly.release (h : Orderly s) {s' : Supervisor} (hc : s'.calls = s.calls) :
    Orderly s'.release := .of_queued (h.queued_release hc)

theorem Orderly.ask (h : Orderly s) (t : Nat) (k : Kind) : Orderly (s.step (.ask t k)).1 := by
  cases hs : s.calls with
  | nil => exact .of_queued fun c hc => by simp_all [step]
  | cons c rest =>
    have hc : (s.step (.ask t k)).1.calls = c :: (rest ++ [{ ticket := t, kind := k }]) := by
      simp [step, hs]
    refine .of_head hc (h.holder c rest hs) fun d hd => ?_
    rcases List.mem_append.mp hd with hd | hd
    · exact h.waiting c rest hs d hd
    · rw [List.mem_singleton.mp hd]

theorem Orderly.drop (h : Orderly s) (t : Nat) : Orderly (s.step (.drop t)).1 := by
  cases hs : s.calls with
  | nil => exact .of_queued fun c hc => by simp_all [step]
  | cons c rest =>
    have hr : ∀ d ∈ rest.filter (·.ticket ≠ t), d.stage = .queued := fun d hd =>
      h.waiting c rest hs d (List.mem_filter.mp hd).1
    by_cases ht : c.ticket = t
    · refine .of_queued fun d hd => hr d ?_
      simpa [step, hs, ht] using hd
    · exact .of_head (by simp [step, hs, ht] : _ = c :: _) (h.holder c rest hs) hr

theorem Move.orderly (hm : Move s e r) (h : Orderly s) : Orderly r.1 := by
  cases hm with
  | idle e hd => exact h
  | ask t k => exact h.ask t k
  | drop t => exact h.drop t
  | renew t client rest hc hs => exact .of_head rfl ⟨rfl, hs⟩ (h.waiting _ _ hc)
  | dial t rest hc hs => exact .of_head rfl ⟨rfl, hs⟩ (h.waiting _ _ hc)
  | shut t client rest hc hs => exact .of_head rfl ⟨rfl, rfl⟩ (h.waiting _ _ hc)
  | _ =>
    -- All others end the call that has the lock.
    exact h.release rfl

theorem orderly_opened (address : Node.Address) (first : ClientId) :
    Orderly (opened address first) := .of_queued fun _ hc => nomatch hc

theorem Orderly.after (h : Orderly s) (es : List Event) : Orderly (s.after es) := by
  induction es generalizing s with
  | nil => exact h
  | cons e es ih => exact ih ((step_move s e).orderly h)

/-- A call that has the lock had it before, or gets it now. -/
theorem Move.locked (hm : Move s e r) (h : Orderly s) (hc : r.1.calls = c :: rest)
    (hq : c.stage ≠ .queued) :
    (∃ rest', s.calls = c :: rest') ∨ (e = .proceed c.ticket ∧ s.isNext c.ticket c.kind = true ∧
      c.stage.found c.kind s.slot) := by
  have released : ∀ s' : Supervisor, s'.calls = s.calls → s'.release.calls ≠ c :: rest :=
    fun s' hs hr => hq (h.queued_release hs c (hr ▸ List.mem_cons_self))
  cases hm with
  | idle e hd => exact .inl ⟨rest, hc⟩
  | ask t k =>
    cases hs : s.calls with
    | nil =>
      simp only [hs, List.nil_append, List.cons.injEq] at hc
      exact absurd (hc.1 ▸ rfl) hq
    | cons d ds =>
      simp only [hs, List.cons_append, List.cons.injEq] at hc
      exact .inl ⟨ds, by rw [hc.1]⟩
  | drop t =>
    have hm : c ∈ s.calls.filter (·.ticket ≠ t) := by
      rw [show s.calls.filter (·.ticket ≠ t) = c :: rest from hc]
      exact List.mem_cons_self
    cases hs : s.calls with
    | nil => simp [hs] at hm
    | cons d ds =>
      rw [hs] at hm
      rcases List.mem_cons.mp (List.mem_filter.mp hm).1 with hd | hd
      · exact .inl ⟨ds, by rw [hd]⟩
      · exact absurd (h.waiting d ds hs c hd) hq
  | renew t client rest' hn hs =>
    cases hc
    exact .inr ⟨rfl, isNext_of_calls hn, rfl, hs⟩
  | dial t rest' hn hs =>
    cases hc
    exact .inr ⟨rfl, isNext_of_calls hn, rfl, hs⟩
  | shut t client rest' hn hs =>
    cases hc
    exact .inr ⟨rfl, isNext_of_calls hn, rfl, hs⟩
  | _ => exact absurd hc (released _ rfl)

/-- The call with this ticket gets the lock behind `before` and keeps it through `since`. -/
structure Locked (s : Supervisor) (t : Nat) (k : Kind) (before since : List Event) : Prop where
  next : (s.after before).isNext t k = true
  kept : ∀ part, part <+: since → (s.after (before ++ .proceed t :: part)).hasLock t = true

theorem locked_since (h : Orderly s) (es : List Event) (hc : (s.after es).calls = c :: rest)
    (hq : c.stage ≠ .queued) (hs : ∀ c ∈ s.calls, c.stage = .queued) :
    ∃ before since, es = before ++ .proceed c.ticket :: since ∧
      s.Locked c.ticket c.kind before since ∧ c.stage.found c.kind (s.after before).slot := by
  induction es using List.reverseRecOn generalizing rest with
  | nil => exact absurd (hs c (by simp [show s.calls = c :: rest from hc])) hq
  | append_singleton es e ih =>
    have hl : (s.after (es ++ [e])).hasLock c.ticket = true :=
      hasLock_iff.mpr ⟨c, rest, hc, rfl, hq⟩
    rw [after_snoc] at hc
    -- Either the last event leaves the lock with the call, or it is the one that gives it.
    rcases (step_move (s.after es) e).locked (h.after es) hc hq with ⟨rest', hc'⟩ | ⟨rfl, hn, hf⟩
    · obtain ⟨before, since, rfl, hk, hf⟩ := ih hc'
      refine ⟨before, since ++ [e], by simp, ⟨hk.next, fun part hp => ?_⟩, hf⟩
      rcases List.prefix_concat_iff.mp hp with rfl | hp
      · simpa using hl
      · exact hk.kept part hp
    · refine ⟨es, [], rfl, ⟨hn, fun part hp => ?_⟩, hf⟩
      rw [List.prefix_nil.mp hp]
      exact hl

end Supervisor
end WorkBridge.Connection
