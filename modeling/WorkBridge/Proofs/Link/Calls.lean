import Mathlib.Algebra.Ring.Nat
import Mathlib.Data.List.Nodup
import WorkBridge.Link.Client

/-!
Calls, and their line for the lock.

A call is known by its ticket.  `Orderly` says that tickets are good for that, that the line
holds just the calls that need the lock, and that a call that will renew on a connection never
stands behind one that has subscribed on it: who subscribes there found it in the slot, and a
connection gets into the slot only as its own call gets in line.
-/

namespace WorkBridge.Link

namespace Stage

/-- Whether a call has the lock or stands in line for it. -/
def inLine : Stage → Bool
  | .enlisting _ _ => true
  | .queued _ => true
  | .renewing _ _ _ => true
  | .draining => true
  | _ => false

end Stage

namespace Client

variable {c : Client} {t u : Nat} {s s' : Stage}

theorem stage?_wait (c : Client) (t u : Nat) (s : Stage) :
    (c.wait t s).stage? u = if u = t then some s else c.stage? u := by
  unfold stage? wait
  by_cases h : u = t
  · simp [h]
  · have hp : ∀ call : Call, (!decide (call.ticket = t) && decide (call.ticket = u)) =
        decide (call.ticket = u) := by
      intro call
      by_cases hu : call.ticket = u <;> simp [hu, h]
    simp [h, Ne.symm h, List.find?_filter, hp]

theorem stage?_finish (c : Client) (t u : Nat) :
    (c.finish t).stage? u = if u = t then none else c.stage? u := by
  unfold stage? finish
  by_cases h : u = t
  · simp [h]
  · have hp : ∀ call : Call, (!decide (call.ticket = t) && decide (call.ticket = u)) =
        decide (call.ticket = u) := by
      intro call
      by_cases hu : call.ticket = u <;> simp [hu, h]
    simp [h, List.find?_filter, hp]

theorem mem_of_stage? (h : c.stage? t = some s) : ⟨t, s⟩ ∈ c.calls := by
  obtain ⟨call, hf, rfl⟩ := Option.map_eq_some_iff.mp h
  have ht : call.ticket = t := by simpa using List.find?_some hf
  rw [← ht]
  exact List.mem_of_find?_eq_some hf

theorem stage?_of_mem (hn : (c.calls.map (·.ticket)).Nodup) {call : Call} (h : call ∈ c.calls) :
    c.stage? call.ticket = some call.stage := by
  unfold stage?
  generalize c.calls = calls at hn h
  induction calls with
  | nil => cases h
  | cons first rest ih =>
    rw [List.map_cons, List.nodup_cons] at hn
    rcases List.mem_cons.mp h with rfl | h
    · simp
    · have hf : first.ticket ≠ call.ticket := by
        intro he
        exact hn.1 (he ▸ List.mem_map_of_mem h)
      simpa [hf] using ih hn.2 h

theorem not_mem_of_stage? (h : c.stage? t = none) : t ∉ c.calls.map (·.ticket) := by
  intro hm
  obtain ⟨call, hc, ht⟩ := List.mem_map.mp hm
  have hf := List.find?_eq_none.mp (Option.map_eq_none_iff.mp h) call hc
  exact hf (by simpa using ht)

theorem nodup_finish (h : (c.calls.map (·.ticket)).Nodup) (t : Nat) :
    ((c.finish t).calls.map (·.ticket)).Nodup := (List.filter_sublist.map _).nodup h

theorem nodup_wait (h : (c.calls.map (·.ticket)).Nodup) (t : Nat) (s : Stage) :
    ((c.wait t s).calls.map (·.ticket)).Nodup := by
  refine List.nodup_cons.mpr ⟨fun hm => ?_, nodup_finish h t⟩
  obtain ⟨call, hc, ht⟩ := List.mem_map.mp hm
  have hne : call.ticket ≠ t := by simpa using (List.mem_filter.mp hc).2
  exact hne ht

/-! ### Weighing calls by their stages -/

def weigh (c : Client) (f : Stage → Nat) : Nat := (c.calls.map fun call => f call.stage).sum

/-- A sum with another value in the place of one. -/
theorem sum_map_set {α : Type} (f : α → Nat) {l : List α} {i : Nat} {a : α} (h : l[i]? = some a)
    (a' : α) : ((l.set i a').map f).sum + f a = (l.map f).sum + f a' := by
  induction l generalizing i with
  | nil => cases h
  | cons x l ih =>
    cases i with
    | zero =>
      cases h
      simp only [List.set_cons_zero, List.map_cons, List.sum_cons]
      omega
    | succ i =>
      have hl := ih (i := i) h
      simp only [List.set_cons_succ, List.map_cons, List.sum_cons]
      omega

theorem sum_without (calls : List Call) (hn : (calls.map (·.ticket)).Nodup) (t : Nat)
    (f : Stage → Nat) :
    ((calls.filter (·.ticket ≠ t)).map fun call => f call.stage).sum +
        ((calls.find? (·.ticket = t)).map (·.stage)).elim 0 f =
      (calls.map fun call => f call.stage).sum := by
  induction calls with
  | nil => rfl
  | cons first rest ih =>
    rw [List.map_cons, List.nodup_cons] at hn
    have ih := ih hn.2
    by_cases ht : first.ticket = t
    · have hr : rest.filter (fun call => !decide (call.ticket = t)) = rest := by
        rw [List.filter_eq_self]
        intro call hc
        have hne : call.ticket ≠ t := fun he => hn.1 (ht ▸ he ▸ List.mem_map_of_mem hc)
        simpa using hne
      simp [ht, hr, Nat.add_comm]
    · simp only [ne_eq] at ih
      simp only [ne_eq, ht, not_false_eq_true, decide_true, List.filter_cons_of_pos, List.map_cons,
        List.sum_cons, decide_false, Bool.false_eq_true, List.find?_cons_of_neg]
      omega

theorem weigh_finish (hn : (c.calls.map (·.ticket)).Nodup) (h : c.stage? t = some s)
    (f : Stage → Nat) : (c.finish t).weigh f + f s = c.weigh f := by
  have hs := sum_without c.calls hn t f
  have h' : (c.calls.find? (·.ticket = t)).map (·.stage) = some s := h
  rw [h'] at hs
  exact hs

theorem weigh_wait (hn : (c.calls.map (·.ticket)).Nodup) (h : c.stage? t = some s)
    (s' : Stage) (f : Stage → Nat) : (c.wait t s').weigh f + f s = c.weigh f + f s' := by
  have hf := weigh_finish hn h f
  have hw : (c.wait t s').weigh f = f s' + (c.finish t).weigh f := rfl
  omega

theorem weigh_enter (h : c.stage? t = none) (s : Stage) (f : Stage → Nat) :
    (c.wait t s).weigh f = c.weigh f + f s := by
  have hr : c.calls.filter (·.ticket ≠ t) = c.calls := by
    rw [List.filter_eq_self]
    intro call hc
    have hne : call.ticket ≠ t := fun he => not_mem_of_stage? h (he ▸ List.mem_map_of_mem hc)
    simpa using hne
  unfold weigh wait
  rw [hr, List.map_cons, List.sum_cons, Nat.add_comm]

theorem le_weigh (hn : (c.calls.map (·.ticket)).Nodup) (h : c.stage? t = some s)
    (f : Stage → Nat) : f s ≤ c.weigh f := by
  have hf := weigh_finish hn h f
  omega

theorem exists_of_weigh_pos {f : Stage → Nat} (h : 0 < c.weigh f) :
    ∃ call ∈ c.calls, 0 < f call.stage := by
  obtain ⟨n, hm, hn⟩ := List.sum_pos_iff_exists_pos_nat.mp h
  obtain ⟨call, hc, rfl⟩ := List.mem_map.mp hm
  exact ⟨call, hc, hn⟩

/-! ### The line -/

/-- What holds of calls and their line, between any two events and within one. -/
structure Orderly (c : Client) : Prop where
  tickets : (c.calls.map (·.ticket)).Nodup
  line : ∀ t, t ∈ c.lock ↔ ∃ s, c.stage? t = some s ∧ s.inLine = true
  once : c.lock.Nodup
  holder : ∀ t k r rest, c.stage? t = some (.renewing k r rest) → c.lock.head? = some t
  order : c.lock.Pairwise fun t u =>
    ∀ k key, c.stage? t = some (.enlisting k key) → c.stage? u ≠ some (.queued k)

namespace Orderly

theorem congr {c' : Client} (h : Orderly c) (hc : c'.calls = c.calls) (hl : c'.lock = c.lock) :
    Orderly c' := by
  have hs : ∀ t, c'.stage? t = c.stage? t := fun t => by rw [stage?, stage?, hc]
  refine ⟨hc ▸ h.tickets, fun t => ?_, hl ▸ h.once, fun t k r rest ht => ?_, ?_⟩
  · rw [hl, h.line]
    simp only [hs]
  · rw [hl]
    exact h.holder t k r rest (hs t ▸ ht)
  · rw [hl]
    simp only [hs]
    exact h.order

theorem not_mem_lock (h : Orderly c) (ht : ∀ s, c.stage? t = some s → s.inLine = false) :
    t ∉ c.lock := by
  intro hm
  obtain ⟨s, hs, hl⟩ := (h.line t).mp hm
  rw [ht s hs] at hl
  cases hl

theorem head_mem (h : c.holdsLock t = true) : t ∈ c.lock :=
  List.mem_of_head? (by simpa [holdsLock] using h)

/-- A call that ends, wherever it was. -/
theorem finish (h : Orderly c) (t : Nat) : Orderly (c.finish t) where
  tickets := nodup_finish h.tickets t
  line := by
    intro u
    have hm : u ∈ (c.finish t).lock ↔ u ∈ c.lock ∧ u ≠ t := by simp [Client.finish]
    rw [hm, stage?_finish, h.line]
    by_cases hu : u = t <;> simp [hu]
  once := h.once.filter _
  holder := by
    intro u k r rest hs
    rw [stage?_finish] at hs
    split at hs
    · cases hs
    · rename_i hu
      have hd := h.holder u k r rest hs
      show (c.lock.filter (· ≠ t)).head? = some u
      cases hl : c.lock with
      | nil => simp [hl] at hd
      | cons v vs =>
        have hv : v = u := by simpa [hl] using hd
        simp [hv, hu]
  order := by
    refine (h.order.filter _).imp fun {a b} hab k key ha hb => ?_
    rw [stage?_finish] at ha hb
    split at ha
    · cases ha
    · split at hb
      · cases hb
      · exact hab k key ha hb

/-- A new call that does not get in line. -/
theorem enter (h : Orderly c) (ht : c.stage? t = none) (hs : s.inLine = false) :
    Orderly (c.wait t s) where
  tickets := nodup_wait h.tickets t s
  line := by
    intro u
    rw [stage?_wait, show (c.wait t s).lock = c.lock from rfl, h.line]
    by_cases hu : u = t <;> simp [hu, ht, hs]
  once := h.once
  holder := by
    intro u k r rest hr
    rw [stage?_wait] at hr
    split at hr
    · cases hr
      cases hs
    · exact h.holder u k r rest hr
  order := by
    refine h.order.imp fun {a b} hab k key ha hb => ?_
    rw [stage?_wait] at ha hb
    split at ha
    · cases ha
      cases hs
    · split at hb
      · cases hb
        cases hs
      · exact hab k key ha hb

/-- A call that gets in line, after all others. -/
theorem enqueue (h : Orderly c) (ht : ∀ s, c.stage? t = some s → s.inLine = false)
    (hs : s.inLine = true) (hr : ∀ k r rest, s ≠ .renewing k r rest)
    (ho : ∀ k, s = .queued k → ∀ u key, c.stage? u ≠ some (.enlisting k key)) :
    Orderly ({ c with lock := c.lock ++ [t] }.wait t s) where
  tickets := nodup_wait h.tickets t s
  line := by
    intro u
    have hm : u ∈ ({ c with lock := c.lock ++ [t] }.wait t s).lock ↔ u ∈ c.lock ∨ u = t := by
      simp [wait]
    rw [stage?_wait, hm, h.line]
    by_cases hu : u = t
    · simp [hu, hs]
    · simp only [hu, or_false, if_false]
      exact Iff.rfl
  once := by
    have hd := List.disjoint_singleton.mpr (h.not_mem_lock ht)
    exact h.once.append (List.nodup_singleton t) hd
  holder := by
    intro u k r rest hu
    rw [stage?_wait] at hu
    split at hu
    · cases hu
      exact absurd rfl (hr k r rest)
    · have hd := h.holder u k r rest hu
      show (c.lock ++ [t]).head? = some u
      rw [List.head?_append, hd]
      rfl
  order := by
    have hn := h.not_mem_lock ht
    refine List.pairwise_append.mpr ⟨?_, List.pairwise_singleton _ t, ?_⟩
    · refine h.order.imp_of_mem fun {a b} hma hmb hab k key ha hb => ?_
      rw [stage?_wait, if_neg (fun he : a = t => hn (he ▸ hma))] at ha
      rw [stage?_wait, if_neg (fun he : b = t => hn (he ▸ hmb))] at hb
      exact hab k key ha hb
    · intro a hma b hmb k key ha hb
      rw [List.mem_singleton.mp hmb, stage?_wait, if_pos rfl] at hb
      rw [stage?_wait, if_neg (fun he : a = t => hn (he ▸ hma))] at ha
      exact ho k (Option.some.inj hb) a key ha

/-- A call that has the lock and goes on to renew. -/
theorem advance (h : Orderly c) (ht : c.holdsLock t = true) {k : ConnectionId}
    {r : RegistrationId} {rest : List RegistrationId} :
    Orderly (c.wait t (.renewing k r rest)) where
  tickets := nodup_wait h.tickets t _
  line := by
    intro u
    rw [stage?_wait, show (c.wait t (.renewing k r rest)).lock = c.lock from rfl]
    by_cases hu : u = t
    · simp [hu, head_mem ht, Stage.inLine]
    · simp only [hu, if_false]
      exact h.line u
  once := h.once
  holder := by
    intro u k' r' rest' hr
    rw [stage?_wait] at hr
    split at hr
    · rename_i hu
      rw [hu]
      exact of_decide_eq_true ht
    · exact h.holder u k' r' rest' hr
  order := by
    refine h.order.imp fun {a b} hab k' key ha hb => ?_
    rw [stage?_wait] at ha hb
    split at ha
    · cases ha
    · split at hb
      · cases hb
      · exact hab k' key ha hb

/-- Nobody waits to renew on a connection as a call that has subscribed there gets the lock. -/
theorem not_queued (h : Orderly c) (ht : c.holdsLock t = true) {k : ConnectionId}
    {key : Rpc.SubscriptionKey} (hs : c.stage? t = some (.enlisting k key)) (u : Nat) :
    c.stage? u ≠ some (.queued k) := by
  intro hu
  have hm : u ∈ c.lock := (h.line u).mpr ⟨_, hu, rfl⟩
  have hd : c.lock.head? = some t := of_decide_eq_true ht
  have ho := h.order
  cases hl : c.lock with
  | nil => simp [hl] at hd
  | cons v rest =>
    have hv : v = t := by simpa [hl] using hd
    -- Who stands behind the holder is not one that waits to renew there.
    rw [hl, hv] at hm ho
    rcases List.mem_cons.mp hm with rfl | hm
    · rw [hs] at hu
      cases hu
    · exact (List.pairwise_cons.mp ho).1 u hm k key hs hu

end Orderly

end Client
end WorkBridge.Link
