import Mathlib.Algebra.Order.BigOperators.Group.List
import Mathlib.Algebra.Order.Group.Nat
import WorkBridge.Proofs.Link.Acts

/-!
What becomes of a registration that has been ended, in whichever order events and turns come.

Every stream of it is cancelled (`Heeds`), and every turn that a forwarder takes brings it nearer
to its end (`load`).  So nothing but the items that wait stands between it and silence:
`ended_falls_silent`.
-/

namespace WorkBridge.Link

namespace Forwarder

variable {f : Forwarder} {b : Branch}

/-- Whether a branch can be taken. -/
def isReady (f : Forwarder) : Branch → Bool
  | .cancellation => f.running && f.cancelled
  | .stream => f.running && (f.ended || !f.queue.isEmpty)

/-- How many turns a forwarder takes at most, if no item comes any more. -/
def load (f : Forwarder) : Nat := if f.running then f.queue.length + 1 else 0

theorem turn_of_not_ready (h : f.isReady b = false) : f.turn b = (f, []) := by
  obtain ⟨queue, ended, cancelled, running⟩ := f
  cases running with
  | false => rfl
  | true =>
    cases b with
    | cancellation =>
      cases cancelled with
      | false => rfl
      | true => cases h
    | stream =>
      cases queue with
      | cons item rest => cases ended <;> cases h
      | nil =>
        cases ended with
        | false => rfl
        | true => cases h

/-- A turn takes an item or is the last. -/
theorem load_turn (h : f.isReady b = true) : (f.turn b).1.load < f.load := by
  obtain ⟨queue, ended, cancelled, running⟩ := f
  cases running with
  | false => cases b <;> cases h
  | true =>
    cases b with
    | cancellation =>
      cases cancelled with
      | false => cases h
      | true => exact Nat.succ_pos _
    | stream =>
      cases queue with
      | cons item rest => exact Nat.lt_succ_self _
      | nil =>
        cases ended with
        | false => cases h
        | true => exact Nat.succ_pos _

theorem cancelled_turn (f : Forwarder) (b : Branch) : (f.turn b).1.cancelled = f.cancelled := by
  unfold turn
  repeat' split
  all_goals rfl

theorem handle_turn (h : .handle ∈ (f.turn b).2) :
    b = .stream ∧ f.running = true ∧ f.queue ≠ [] := by
  obtain ⟨queue, ended, cancelled, running⟩ := f
  cases running with
  | false => cases h
  | true =>
    cases b with
    | cancellation => cases cancelled <;> simp [turn] at h
    | stream =>
      cases queue with
      | cons item rest => exact ⟨rfl, rfl, List.cons_ne_nil _ _⟩
      | nil => cases ended <;> simp [turn] at h

theorem load_push (f : Forwarder) (i : Item) :
    (f.push i).load = f.load + (f.running && !f.ended).toNat := by
  obtain ⟨queue, ended, cancelled, running⟩ := f
  cases ended <;> cases running <;> simp [push, load]

end Forwarder

namespace Client

open Forwarder (Branch)

variable {c c' c'' : Client} {r : RegistrationId} {n m t i : Nat} {b : Branch} {s : Stream}
  {out out' : List Output}

/-! ### What an ended registration has left -/

/-- Whether every stream of a registration is cancelled once that has been ended. -/
def Heeds (c : Client) (r : RegistrationId) : Prop :=
  c.isActive r = false →
    ∀ s ∈ c.streams, s.registration = some r → s.forwarder.cancelled = true

/-- How many turns a stream's forwarder takes at most for a registration. -/
def loadOf (r : RegistrationId) (s : Stream) : Nat :=
  if s.registration = some r then s.forwarder.load else 0

def load (c : Client) (r : RegistrationId) : Nat := (c.streams.map (loadOf r)).sum

/-- Whether an item of a subscription is one more for a registration's forwarder. -/
def takesIn (r : RegistrationId) (k : ConnectionId) (key : Rpc.SubscriptionKey) (s : Stream) :
    Bool :=
  s.registration = some r && s.connection = k && s.key = key && s.forwarder.running &&
    !s.forwarder.ended

/-- What an act brings a registration: an item for a forwarder, or one more forwarder. -/
def arrives (c : Client) (r : RegistrationId) : Act → Nat
  | .happen (.item k key _) => c.streams.countP (takesIn r k key)
  | .happen (.subscribed t (.ok _)) =>
    match c.stage? t with
    | some (.renewing _ r' _) => if r' = r then 1 else 0
    | _ => 0
  | _ => 0

def arrivals (c : Client) (r : RegistrationId) : List Act → Nat
  | [] => 0
  | a :: acts => c.arrives r a + (c.act a).1.arrivals r acts

/-- Whether an act is a turn of one of a registration's forwarders, with a branch that is ready. -/
def isTurn (c : Client) (r : RegistrationId) : Act → Bool
  | .turn i b => c.streams[i]?.any fun s => s.registration = some r && s.forwarder.isReady b
  | _ => false

def turns (c : Client) (r : RegistrationId) : List Act → Nat
  | [] => 0
  | a :: acts => (c.isTurn r a).toNat + (c.act a).1.turns r acts

/-! ### Streams that change -/

theorem sum_map_le {α : Type} (l : List α) {f g : α → Nat} {p : α → Bool}
    (h : ∀ a ∈ l, f a ≤ g a + (p a).toNat) : (l.map f).sum ≤ (l.map g).sum + l.countP p := by
  induction l with
  | nil => exact Nat.le_refl 0
  | cons a l ih =>
    have ha := h a List.mem_cons_self
    have hl := ih fun a ha => h a (List.mem_cons_of_mem _ ha)
    rw [List.map_cons, List.map_cons, List.sum_cons, List.sum_cons, List.countP_cons]
    cases hp : p a <;> simp [hp] at ha ⊢ <;> omega

theorem isActive_congr (ha : c'.active = c.active) (r : RegistrationId) :
    c'.isActive r = c.isActive r := by
  rw [isActive, isActive, ha]

theorem heeds_map (h : c.Heeds r) {f : Stream → Stream} (hs : c'.streams = c.streams.map f)
    (ha : c'.isActive r = false → c.isActive r = false)
    (hr : ∀ s, (f s).registration = some r → s.registration = some r)
    (hc : ∀ s, s.forwarder.cancelled = true → (f s).forwarder.cancelled = true) :
    c'.Heeds r := by
  intro hd s hm hrs
  rw [hs] at hm
  obtain ⟨s₀, hm₀, rfl⟩ := List.mem_map.mp hm
  exact hc s₀ (h (ha hd) s₀ hm₀ (hr s₀ hrs))

theorem load_map {f : Stream → Stream} (hs : c'.streams = c.streams.map f) {p : Stream → Bool}
    (hl : ∀ s, loadOf r (f s) ≤ loadOf r s + (p s).toNat) :
    c'.load r ≤ c.load r + c.streams.countP p := by
  rw [load, hs, List.map_map]
  exact sum_map_le c.streams fun s _ => hl s

theorem load_map_le {f : Stream → Stream} (hs : c'.streams = c.streams.map f)
    (hl : ∀ s, loadOf r (f s) ≤ loadOf r s) : c'.load r ≤ c.load r := by
  have h := load_map (p := fun _ => false) hs hl
  rwa [List.countP_false] at h

theorem load_filter (c : Client) (p : Stream → Bool) :
    { c with streams := c.streams.filter p }.load r ≤ c.load r :=
  (List.filter_sublist.map _).sum_le_sum fun _ _ => Nat.zero_le _

/-! ### Parts of an event -/

/-- What a part of an event makes of a registration.  Where that has been ended it stays so, its
forwarders stay cancelled and have no more to do than what has come, and nobody is called. -/
structure Fades (r : RegistrationId) (n : Nat) (c : Client) (x : Client × List Output) : Prop where
  known : c.active.length ≤ x.1.active.length
  stays : r < c.active.length → c.isActive r = false → x.1.isActive r = false
  heeds : c.Heeds r → x.1.Heeds r
  load : r < c.active.length → x.1.load r ≤ c.load r + n
  quiet : .handle r ∉ x.2

namespace Fades

/-- Registrations and streams are as before. -/
theorem still (ha : c'.active = c.active) (hs : c'.streams = c.streams)
    (ho : .handle r ∉ out) : Fades r 0 c (c', out) where
  known := Nat.le_of_eq (congrArg List.length ha).symm
  stays := fun _ hd => (isActive_congr ha r).trans hd
  heeds := fun h hd s hm => h ((isActive_congr ha r).symm.trans hd) s (hs ▸ hm)
  load := fun _ => by rw [Client.load, Client.load, hs]; exact Nat.le_refl _
  quiet := ho

theorem trans (h : Fades r n c (c', out)) (h' : Fades r m c' (c'', out')) :
    Fades r (n + m) c (c'', out ++ out') where
  known := Nat.le_trans h.known h'.known
  stays := fun hr hd => h'.stays (Nat.lt_of_lt_of_le hr h.known) (h.stays hr hd)
  heeds := fun hh => h'.heeds (h.heeds hh)
  load := fun hr => by
    have h₁ := h.load hr
    have h₂ := h'.load (Nat.lt_of_lt_of_le hr h.known)
    dsimp only at h₁ h₂ ⊢
    omega
  quiet := fun hm => (List.mem_append.mp hm).elim h.quiet h'.quiet

/-- Something else changes first. -/
theorem congr_left {x : Client × List Output} (h : Fades r n c' x) (ha : c'.active = c.active)
    (hs : c'.streams = c.streams) : Fades r n c x := by
  have h₀ : Fades r 0 c (c', []) := still ha hs List.not_mem_nil
  have ht := h₀.trans h
  rwa [Nat.zero_add] at ht

/-- Something else changes afterwards. -/
theorem congr_right (h : Fades r n c (c', out)) (ha : c''.active = c'.active)
    (hs : c''.streams = c'.streams) (ho : .handle r ∉ out') : Fades r n c (c'', out ++ out') :=
  h.trans (still ha hs ho)

/-- The forwarders of some streams change. -/
theorem forwarders (q : Stream → Prop) [DecidablePred q] (g : Forwarder → Forwarder)
    {p : Stream → Bool} (hc : ∀ f, (g f).cancelled = f.cancelled)
    (hl : ∀ s, q s → s.registration = some r →
      (g s.forwarder).load ≤ s.forwarder.load + (p s).toNat) (hs : c'.streams = c.streams.map
        fun s => if q s then { s with forwarder := g s.forwarder } else s)
    (ha : c'.active = c.active) (ho : .handle r ∉ out) :
    Fades r (c.streams.countP p) c (c', out) where
  known := Nat.le_of_eq (congrArg List.length ha).symm
  stays := fun _ hd => (isActive_congr ha r).trans hd
  heeds := fun h => by
    refine heeds_map h hs (fun hd => (isActive_congr ha r).symm.trans hd) (fun s hr => ?_)
      fun s hs => ?_
    · split at hr <;> exact hr
    · split
      · exact (hc _).trans hs
      · exact hs
  load := fun _ => by
    refine load_map hs fun s => ?_
    unfold loadOf
    by_cases hr : s.registration = some r
    · split
      · rename_i hq
        simpa [hr] using hl s hq hr
      · exact Nat.le_add_right _ _
    · split <;> exact Nat.zero_le _
  quiet := ho

/-- Some streams end. -/
theorem ending (c : Client) (q : Stream → Prop) [DecidablePred q] (hs : c'.streams = c.streams.map
      fun s => if q s then { s with forwarder := { s.forwarder with ended := true } } else s)
    (ha : c'.active = c.active) (ho : .handle r ∉ out) : Fades r 0 c (c', out) := by
  have h := forwarders (r := r) (p := fun _ => false) q (fun f => { f with ended := true })
    (fun _ => rfl) (fun _ _ _ => Nat.le_refl _) hs ha ho
  rwa [List.countP_false] at h

theorem cancel (c : Client) (r' : RegistrationId) (ho : .handle r ∉ out) :
    Fades r 0 c (c.cancel r', out) where
  known := Nat.le_of_eq (length_cancel c r').symm
  stays := fun _ hd => by
    rw [isActive_cancel, hd]
    rfl
  heeds := by
    intro h hd s hm hr
    obtain ⟨s₀, hm₀, rfl⟩ := List.mem_map.mp hm
    split at hr
    · rename_i hs₀
      rw [if_pos hs₀]
    · rename_i hs₀
      rw [if_neg hs₀]
      have hne : r ≠ r' := fun he => hs₀ (he ▸ hr)
      rw [isActive_cancel, decide_eq_true hne, Bool.and_true] at hd
      exact h hd s₀ hm₀ hr
  load := fun _ => load_map_le rfl fun s => by
    unfold loadOf Forwarder.load
    split <;> simp
  quiet := ho

theorem cancelAll (c : Client) (rs : List RegistrationId) : Fades r 0 c (c.cancelAll rs, []) := by
  unfold Client.cancelAll
  induction rs generalizing c with
  | nil => exact still rfl rfl List.not_mem_nil
  | cons r' rs ih => exact (cancel c r' List.not_mem_nil).trans (ih (c.cancel r'))

theorem addStream (c : Client) (k : ConnectionId) (key : Rpc.SubscriptionKey)
    (o : Option RegistrationId) (ho : .handle r ∉ out) :
    Fades r (if o = some r then 1 else 0) c (c.addStream k key o, out) where
  known := Nat.le_refl _
  stays := fun _ hd => hd
  heeds := by
    intro h hd s hm hr
    rcases List.mem_append.mp hm with hm | hm
    · exact h hd s hm hr
    · cases List.mem_singleton.mp hm
      cases hr
      have hd : c.isActive r = false := hd
      show (!c.isActive r) = true
      rw [hd]
      rfl
  load := fun _ => by
    simp [Client.load, Client.addStream, loadOf, Forwarder.load]
  quiet := ho

theorem renew (c : Client) (t : Nat) (k : ConnectionId) (rs : List RegistrationId) :
    Fades r 0 c (c.renew t k rs) := by
  cases rs with
  | nil => exact still rfl rfl (by simp)
  | cons r' rest => exact still rfl rfl (by simp)

theorem enlist (c : Client) (t : Nat) (k : ConnectionId) (key : Rpc.SubscriptionKey) :
    Fades r 0 c (c.enlist t k key) where
  known := by simp [Client.enlist, Client.finish]
  stays := fun hr hd => by
    rw [Bool.eq_false_iff, ne_eq, isActive_enlist]
    exact fun h => h.elim (fun h => by rw [hd] at h; cases h) (Nat.ne_of_lt hr)
  heeds := by
    intro h hd
    have hold := hd
    rw [Bool.eq_false_iff, ne_eq, isActive_enlist, not_or] at hold
    refine heeds_map h rfl (fun _ => by simpa using hold.1) (fun s hr => ?_) (fun s hs => ?_) hd
    · split at hr
      · exact absurd (Option.some.inj hr).symm hold.2
      · exact hr
    · split <;> exact hs
  load := fun hr => load_map_le rfl fun s => by
    unfold loadOf
    split
    · simp [Nat.ne_of_gt hr]
    · exact Nat.le_refl _
  quiet := by simp [Client.enlist]

theorem drain (c : Client) (t : Nat) : Fades r 0 c (c.drain t) := by
  refine (cancelAll c c.listed).congr_right rfl rfl ?_
  split <;> simp

theorem underLock (c : Client) (t : Nat) : Fades r 0 c (c.underLock t) := by
  unfold Client.underLock
  split
  · exact enlist c t _ _
  · exact (renew _ t _ _).congr_left rfl rfl
  · exact drain c t
  · exact still rfl rfl List.not_mem_nil

theorem takeLock (c : Client) (t : Nat) (s : Stage) : Fades r 0 c (c.takeLock t s) := by
  unfold Client.takeLock
  dsimp only
  split
  · exact (underLock _ t).congr_left rfl rfl
  · exact still rfl rfl List.not_mem_nil

theorem begin (c : Client) (t : Nat) (task : Task) : Fades r 0 c (c.begin t task) := by
  unfold Client.begin
  split
  · split <;> exact still rfl rfl (by simp)
  · split <;> exact still rfl rfl (by simp)
  · exact still rfl rfl (by simp)
  · exact takeLock c t .draining

theorem answered (c : Client) (t : Nat) (a : Except Node.ClientError Unit) :
    Fades r 0 c (c.answered t a) := by
  unfold Client.answered countRequest
  split
  · split <;> exact still rfl rfl (by simp)
  · exact still rfl rfl List.not_mem_nil

/-- A subscription for a registration that is renewed brings one forwarder more. -/
theorem subscribed (c : Client) (t : Nat) (a : Except Node.ClientError Rpc.SubscriptionKey) :
    Fades r (c.arrives r (.happen (.subscribed t a))) c (c.subscribed t a) := by
  unfold Client.subscribed
  have hcount (ok : Bool) :
      .handle r ∉ [c.countRequest .subscribeNewBlockTemplate ok] := by simp [countRequest]
  split
  · rename_i k hs
    cases a with
    | error e => exact still rfl rfl (by simp [countRequest])
    | ok key =>
      have hn : c.arrives r (.happen (.subscribed t (.ok key))) = 0 := by simp [arrives, hs]
      rw [hn]
      exact (addStream c k key none (hcount true)).trans (takeLock _ t _)
  · rename_i k current rest hs
    cases a with
    | error e =>
      have hcancel : Fades r 0 c (c.cancel current,
          [c.countRequest .subscribeNewBlockTemplate false, .log (c.renewalEntry e)]) :=
        cancel c current (by simp [countRequest])
      exact hcancel.trans (renew _ t k rest)
    | ok key =>
      have hn : c.arrives r (.happen (.subscribed t (.ok key))) =
          if some current = some r then 1 else 0 := by simp [arrives, hs]
      rw [hn]
      exact (addStream c k key (some current) (hcount true)).trans (renew _ t k rest)
  · rename_i hs hr
    have hn : c.arrives r (.happen (.subscribed t a)) = 0 := by
      unfold arrives
      split <;> simp_all
    rw [hn]
    exact still rfl rfl List.not_mem_nil

theorem dialed (c : Client) (t : Nat) (a : Except Node.ClientError ConnectionId) :
    Fades r 0 c (c.dialed t a) := by
  unfold Client.dialed
  split
  · split
    · exact (takeLock _ t _).congr_left rfl rfl
    · exact still rfl rfl (by simp)
  · exact still rfl rfl List.not_mem_nil

/-- The stream of a call that is dropped is nobody's. -/
theorem drop (c : Client) (t : Nat) : Fades r 0 c (c.drop t) := by
  unfold Client.drop
  split
  · rename_i k key hs
    refine ⟨Nat.le_refl _, fun _ hd => hd, fun h hd s hm => ?_, fun _ => ?_, by simp⟩
    · exact h hd s (List.mem_filter.mp hm).1
    · exact load_filter c _
  · exact still rfl rfl List.not_mem_nil
  · exact still rfl rfl List.not_mem_nil

theorem react (c : Client) (e : Event) : Fades r (c.arrives r (.happen e)) c (c.react e) := by
  cases e with
  | begin t task => exact begin c t task
  | answered t a => exact answered c t a
  | subscribed t a => exact subscribed c t a
  | dialed t a => exact dialed c t a
  | proceed t =>
    show Fades r 0 c (if c.holdsLock t then c.underLock t else (c, []))
    split
    · exact underLock c t
    · exact still rfl rfl List.not_mem_nil
  | drop t => exact drop c t
  | release r' => exact cancel c r' List.not_mem_nil
  | item k key i =>
    refine forwarders (fun s => s.connection = k ∧ s.key = key) (·.push i) (fun f => ?_)
      (fun s hq hr => ?_) rfl rfl List.not_mem_nil
    · obtain ⟨queue, he⟩ := push_eq f i
      rw [he]
    · rw [Forwarder.load_push]
      simp [takesIn, hr, hq]
  | ended k key =>
    exact ending c (fun s => s.connection = k ∧ s.key = key) rfl rfl List.not_mem_nil
  | lost k =>
    exact ending c (·.connection = k) rfl rfl List.not_mem_nil
  | discard => exact still rfl rfl List.not_mem_nil

theorem closeUnheld (c : Client) : Fades r 0 c c.closeUnheld := by
  have hs : c.closeUnheld.1.streams = c.streams.map (endingAll c.unheld) := by rw [closeUnheld_eq]
  have ha : c.closeUnheld.1.active = c.active := by rw [closeUnheld_eq]
  have ho : .handle r ∉ c.closeUnheld.2 := by simp [Client.closeUnheld]
  exact ending c (·.connection ∈ c.unheld) hs ha ho

theorem happen (c : Client) (e : Event) : Fades r (c.arrives r (.happen e)) c (c.act (.happen e)) :=
  (react c e).trans (closeUnheld _)

theorem sweep (c : Client) : Fades r 0 c (c.act .sweep) where
  known := Nat.le_refl _
  stays := fun _ hd => hd
  heeds := fun h hd s hm => h hd s (List.mem_filter.mp hm).1
  load := fun _ => load_filter c _
  quiet := List.not_mem_nil

end Fades

/-! ### Turns -/

theorem active_turnAt (c : Client) (i : Nat) (b : Branch) : (c.turnAt i b).1.active = c.active := by
  unfold turnAt
  repeat' split
  all_goals rfl

theorem heeds_turnAt (h : c.Heeds r) (i : Nat) (b : Branch) : (c.turnAt i b).1.Heeds r := by
  intro hd s hm hr
  have hd : c.isActive r = false := (isActive_congr (active_turnAt c i b) r).symm.trans hd
  cases hs : c.streams[i]? with
  | none => exact h hd s (by simpa [turnAt, hs] using hm) hr
  | some s₀ =>
    cases hr₀ : s₀.registration with
    | none => exact h hd s (by simpa [turnAt_spare hs hr₀] using hm) hr
    | some r₀ =>
      rw [turnAt_eq hs hr₀] at hm
      rcases List.mem_or_eq_of_mem_set hm with hm | rfl
      · exact h hd s hm hr
      · show (s₀.forwarder.turn b).1.cancelled = true
        rw [Forwarder.cancelled_turn]
        exact h hd s₀ (List.mem_of_getElem? hs) hr

theorem load_put (hs : c.streams[i]? = some s) (s' : Stream) (r : RegistrationId) :
    (c.put i s').load r + loadOf r s = c.load r + loadOf r s' :=
  sum_map_set (loadOf r) hs s'

/-- A turn of a registration's forwarder is one fewer, and other turns do not count. -/
theorem load_turnAt (c : Client) (r : RegistrationId) (i : Nat) (b : Branch) :
    (c.isTurn r (.turn i b)).toNat + (c.turnAt i b).1.load r ≤ c.load r := by
  cases hs : c.streams[i]? with
  | none => simp [isTurn, turnAt, hs]
  | some s =>
    cases hr : s.registration with
    | none => simp [isTurn, turnAt_spare hs hr, hs, hr]
    | some r' =>
      have hput := load_put hs { s with forwarder := (s.forwarder.turn b).1 } r
      rw [turnAt_eq hs hr]
      cases hready : s.forwarder.isReady b with
      | false =>
        rw [Forwarder.turn_of_not_ready hready, put_self hs]
        simp [isTurn, hs, hready]
      | true =>
        have hlt := Forwarder.load_turn hready
        by_cases he : r' = r <;> simp [isTurn, loadOf, hs, hr, he, hready] at hput ⊢ <;> omega

theorem handle_streamOutput {r' : RegistrationId} {o : Forwarder.Output}
    (h : .handle r ∈ c.streamOutput s r' o) : o = .handle ∧ r' = r := by
  cases o with
  | handle =>
    have he := List.mem_singleton.mp h
    exact ⟨rfl, by injection he with he; exact he.symm⟩
  | unsubscribe =>
    unfold streamOutput at h
    dsimp only at h
    split at h <;> simp at h
  | _ => simp [streamOutput, streamEntry] at h

theorem handle_turnAt (h : .handle r ∈ (c.turnAt i b).2) :
    ∃ s, c.streams[i]? = some s ∧ s.registration = some r ∧ s.forwarder.running = true ∧
      s.forwarder.queue ≠ [] ∧ b = .stream := by
  cases hs : c.streams[i]? with
  | none => simp [turnAt, hs] at h
  | some s =>
    cases hr : s.registration with
    | none => simp [turnAt_spare hs hr] at h
    | some r' =>
      rw [turnAt_eq hs hr] at h
      obtain ⟨o, ho, h⟩ := List.mem_flatMap.mp h
      obtain ⟨rfl, rfl⟩ := handle_streamOutput h
      obtain ⟨hb, hrun, hq⟩ := Forwarder.handle_turn ho
      exact ⟨s, rfl, hr, hrun, hq, hb⟩

/-! ### Acts and runs -/

theorem known_act (c : Client) (a : Act) : c.active.length ≤ (c.act a).1.active.length := by
  cases a with
  | happen e => exact (Fades.happen (r := 0) c e).known
  | turn i b => exact Nat.le_of_eq (congrArg List.length (active_turnAt c i b).symm)
  | sweep => exact Nat.le_refl _

theorem isActive_act (hr : r < c.active.length) (hd : c.isActive r = false) (a : Act) :
    (c.act a).1.isActive r = false := by
  cases a with
  | happen e => exact (Fades.happen c e).stays hr hd
  | turn i b => exact (isActive_congr (active_turnAt c i b) r).trans hd
  | sweep => exact hd

theorem heeds_act (h : c.Heeds r) (a : Act) : (c.act a).1.Heeds r := by
  cases a with
  | happen e => exact (Fades.happen c e).heeds h
  | turn i b => exact heeds_turnAt h i b
  | sweep => exact (Fades.sweep c).heeds h

theorem load_act (hr : r < c.active.length) (a : Act) :
    (c.isTurn r a).toNat + (c.act a).1.load r ≤ c.load r + c.arrives r a := by
  cases a with
  | happen e =>
    have h := (Fades.happen c e).load hr
    simpa [isTurn] using h
  | turn i b => exact load_turnAt c r i b
  | sweep =>
    have h := (Fades.sweep c).load hr
    simpa [isTurn, arrives] using h

theorem heeds_perform (h : c.Heeds r) (acts : List Act) : (c.perform acts).1.Heeds r := by
  induction acts generalizing c with
  | nil => exact h
  | cons a acts ih => exact ih (heeds_act h a)

theorem isActive_perform (hr : r < c.active.length) (hd : c.isActive r = false)
    (acts : List Act) : (c.perform acts).1.isActive r = false := by
  induction acts generalizing c with
  | nil => exact hd
  | cons a acts ih => exact ih (Nat.lt_of_lt_of_le hr (known_act c a)) (isActive_act hr hd a)

/-- The turns that have been taken and those that are left. -/
theorem load_perform (hr : r < c.active.length) (acts : List Act) :
    c.turns r acts + (c.perform acts).1.load r ≤ c.load r + c.arrivals r acts := by
  induction acts generalizing c with
  | nil => simp [turns, perform, arrivals]
  | cons a acts ih =>
    have hstep := load_act hr a
    have hrest := ih (Nat.lt_of_lt_of_le hr (known_act c a))
    simp only [turns, perform, arrivals]
    omega

theorem heeds_new (address : Node.Address) (url : Url) (k : ConnectionId) (r : RegistrationId) :
    (new address url k).Heeds r := fun _ _ hm => absurd hm List.not_mem_nil

/-- What is true of a registration that has been ended, whatever comes next. -/
structure Silent (c : Client) (r : RegistrationId) : Prop where
  inactive : c.isActive r = false
  /-- Only a forwarder that takes an item that waits calls the handler. -/
  called : ∀ a, .handle r ∈ (c.act a).2 →
    ∃ i s, a = .turn i .stream ∧ c.streams[i]? = some s ∧ s.registration = some r ∧
      s.forwarder.running = true ∧ s.forwarder.queue ≠ []
  /-- The cancellation can always be taken.  That is the last turn, and comes to nothing but that
  the subscription is given up where it is still there. -/
  cancellation : ∀ i s, c.streams[i]? = some s → s.registration = some r →
    s.forwarder.running = true → s.forwarder.isReady .cancellation = true ∧
      c.act (.turn i .cancellation) =
        (c.put i { s with forwarder := s.forwarder.stop },
          if c.connections.contains s.connection && !s.forwarder.ended then
            [.unsubscribe s.connection s.key]
          else [])
  /-- Where nothing waits, the end of the stream is the last turn too. -/
  closed : ∀ i s, c.streams[i]? = some s → s.registration = some r →
    s.forwarder.running = true → s.forwarder.queue = [] →
      c.act (.turn i .stream) =
        if s.forwarder.ended then
          (c.put i { s with forwarder := s.forwarder.stop },
            [.log (c.nodeEntry .warn "Block template subscription closed by node" [])])
        else (c, [])
  /-- Where items wait, one of them waits no longer. -/
  taken : ∀ i s item rest, c.streams[i]? = some s → s.registration = some r →
    s.forwarder.running = true → s.forwarder.queue = item :: rest →
      (c.act (.turn i .stream)).1 =
        c.put i { s with forwarder := { s.forwarder with queue := rest } }

theorem Silent.of_heeds (h : c.Heeds r) (hd : c.isActive r = false) : c.Silent r where
  inactive := hd
  called := fun a ha => by
    cases a with
    | happen e => exact absurd ha (Fades.happen c e).quiet
    | turn i b =>
      obtain ⟨s, hs, hr, hrun, hq, rfl⟩ := handle_turnAt ha
      exact ⟨i, s, rfl, hs, hr, hrun, hq⟩
    | sweep => cases ha
  cancellation := fun i s hs hr hrun => by
    have hc := h hd s (List.mem_of_getElem? hs) hr
    refine ⟨by simp [Forwarder.isReady, hrun, hc], ?_⟩
    rw [act, turnAt_eq hs hr]
    simp [Forwarder.turn, hrun, hc, streamOutput]
  closed := fun i s hs hr hrun hq => by
    rw [act, turnAt_eq hs hr]
    cases he : s.forwarder.ended with
    | false => simp [Forwarder.turn, hrun, hq, he, put_self hs]
    | true => simp [Forwarder.turn, hrun, hq, he, streamOutput, streamEntry]
  taken := fun i s item rest hs hr hrun hq => by
    rw [act, turnAt_eq hs hr]
    simp [Forwarder.turn, hrun, hq]

/-- A registration that has been ended falls silent, in whichever order events and turns come and
whichever branches forwarders take.  A forwarder of it goes on only while it has taken fewer turns
than items have waited for it or come, and one for each forwarder.  What the client does at an
event is one of these orders. -/
theorem ended_falls_silent (address : Node.Address) (url : Url) (k₀ : ConnectionId)
    (before : List Act) (r : RegistrationId) :
    let c := ((new address url k₀).perform before).1
    r < c.active.length → c.isActive r = false → ∀ acts : List Act,
      let c' := (c.perform acts).1
      c'.Silent r ∧
        (∀ s ∈ c'.streams, s.registration = some r → s.forwarder.running = true →
          c.turns r acts + (s.forwarder.queue.length + 1) ≤ c.load r + c.arrivals r acts) ∧
        ∀ e, ∃ rest, c'.step e = c'.perform (.happen e :: rest) := by
  intro c hr hd acts c'
  have hheeds : c'.Heeds r := heeds_perform (heeds_perform (heeds_new address url k₀ r) before) acts
  refine ⟨.of_heeds hheeds (isActive_perform hr hd acts), fun s hs hsr hrun => ?_,
    fun e => ⟨_, step_eq_perform c' e⟩⟩
  have hone : loadOf r s ≤ c'.load r := List.le_sum_of_mem (List.mem_map_of_mem hs)
  have hall : c.turns r acts + c'.load r ≤ c.load r + c.arrivals r acts := load_perform hr acts
  have hload : loadOf r s = s.forwarder.queue.length + 1 := by
    rw [loadOf, if_pos hsr, Forwarder.load, if_pos hrun]
  omega

/-- A registration is given up while an item waits. -/
def givenUp : List Act := [
  .happen (.begin 1 .register), .happen (.subscribed 1 (.ok (.number 7))),
  .happen (.item 0 (.number 7) .notification), .happen (.release 0)]

/-- Two turns are left, and after another item three; two of the items are taken first. -/
theorem silent_after_givenUp :
    let c := ((new default default 0).perform givenUp).1
    let acts := [.happen (.item 0 (.number 7) .undecodable), .turn 0 .stream, .turn 0 .stream]
    (0 < c.active.length ∧ c.isActive 0 = false) ∧
      (c.load 0 = 2 ∧ c.arrivals 0 acts = 1 ∧ c.turns 0 acts = 2) ∧
      ((c.perform acts).1.act (.turn 0 .cancellation)).2 = [.unsubscribe 0 (.number 7)] := by
  refine ⟨by decide, by decide, ?_⟩
  have h := ended_falls_silent default default 0 givenUp 0 (by decide) (by decide)
    [.happen (.item 0 (.number 7) .undecodable), .turn 0 .stream, .turn 0 .stream]
  exact congrArg Prod.snd (h.1.cancellation 0 _ rfl rfl rfl).2

/-- A registration, and a new connection. -/
def dialedAgain : List Event := [
  .begin 1 .register, .subscribed 1 (.ok (.number 7)), .begin 2 .reconnect, .dialed 2 (.ok 1)]

def refusal : Event := .subscribed 2 (.error (.rpc (.call ⟨1, "no", none⟩)))

/-- A cancelled forwarder may take an item that waits, and calls the handler.  And where a
renewal is refused, nothing has been unsubscribed, and no forwarder is left to do it. -/
theorem heard_or_never_unsubscribed :
    let c := ((new default default 0).perform givenUp).1
    let c' := (new default default 0).after dialedAgain
    (c.isActive 0 = false ∧ (c.act (.turn 0 .stream)).2 = [.handle 0]) ∧
      (c'.isActive 0 = true ∧ (c'.step refusal).1.isActive 0 = false) ∧
      (c'.step refusal).1.streams = [] ∧
      ∀ k key, .unsubscribe k key ∉ gather (fun c e => (c.step e).2) (new default default 0)
        (dialedAgain ++ [refusal]) := by
  refine ⟨⟨rfl, rfl⟩, ⟨rfl, rfl⟩, rfl, fun k key hm => ?_⟩
  have hnone : (gather (fun c e => (c.step e).2) (new default default 0)
      (dialedAgain ++ [refusal])).any (· matches .unsubscribe _ _) = false := rfl
  exact List.any_eq_false.mp hnone _ hm rfl

end Client
end WorkBridge.Link
