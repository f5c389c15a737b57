import WorkBridge.Proofs.Link.Reconnects
import WorkBridge.Proofs.Link.Rest

/-!
Reconnecting in place, with no other call under way.

A dial that fails changes nothing.  One that succeeds renews what is on the list: the node is asked
once for each registration that has not been ended, in the order of the list, whatever it answers
for the ones before; what it accepts gets one new stream, what it refuses is ended, and the list is
left with the registrations that are still not ended: `reconnect_renews_live`.

Meanwhile registrations may be given up, and the node may send items and end what it likes.

The induction is on the registrations that are still to be renewed.  A call that renews holds the
lock and goes from one registration to the next (`Holds`, `answered_renews`).
-/

namespace WorkBridge.Link

namespace Client

variable {c c' : Client} {e : Event} {es : List Event} {t : Nat} {k : ConnectionId}
  {r : RegistrationId} {rs rest : List RegistrationId}

/-- What is left in the end is left of those who were left before. -/
theorem filter_filter_of_imp {α : Type} {p q : α → Bool} (h : ∀ x, q x = true → p x = true)
    (l : List α) : (l.filter p).filter q = l.filter q := by
  rw [List.filter_filter]
  refine List.filter_congr fun x _ => ?_
  cases hq : q x with
  | true => rw [h x hq, Bool.and_self]
  | false => rw [Bool.false_and]

/-! ### What is observed of a run -/

def Output.result? : Output → Option (Nat × Result)
  | .done t r => some (t, r)
  | _ => none

/-- The registration that a call renews. -/
def renewing? (c : Client) (t : Nat) : Option RegistrationId :=
  match c.stage? t with
  | some (.renewing _ r _) => some r
  | _ => none

/-- A subscription that is asked for: on which connection, and for which registration if it is
renewed. -/
def wanted? (c : Client) : Output → Option (ConnectionId × Option RegistrationId)
  | .subscribe t k => some (k, c.renewing? t)
  | _ => none

/-- How calls end at an event. -/
def results (c : Client) (e : Event) : List (Nat × Result) :=
  (c.step e).2.filterMap Output.result?

/-- The subscriptions that are asked for at an event. -/
def wanted (c : Client) (e : Event) : List (ConnectionId × Option RegistrationId) :=
  (c.step e).2.filterMap (c.step e).1.wanted?

/-- The streams that an event adds. -/
def added (c : Client) (e : Event) :
    List (ConnectionId × Rpc.SubscriptionKey × Option RegistrationId) :=
  ((c.react e).1.streams.drop c.streams.length).map fun s => (s.connection, s.key, s.registration)

theorem result?_of_aside {o : Output} (h : o.isAside = true) : o.result? = none := by
  cases o with
  | done t r => cases h
  | _ => rfl

theorem wanted?_of_aside {o : Output} (h : o.isAside = true) (c : Client) :
    c.wanted? o = none := by
  cases o with
  | subscribe t k => cases h
  | _ => rfl

theorem wanted?_congr (h : Undisturbed c c') : c'.wanted? = c.wanted? := by
  funext o
  cases o with
  | subscribe t k =>
    have hr : c'.renewing? t = c.renewing? t := by rw [renewing?, renewing?, h.stage?]
    simp only [wanted?, hr]
  | _ => rfl

/-- What is observed comes with the event itself, and not with what follows it. -/
theorem results_eq (c : Client) (e : Event) :
    c.results e = (c.react e).2.filterMap Output.result? := by
  have hn : (c.react e).1.tidy.2.filterMap Output.result? = [] :=
    List.filterMap_eq_nil_iff.mpr fun o ho => result?_of_aside (aside_tidy _ o ho)
  rw [results, step_eq, List.filterMap_append, hn, List.append_nil]

theorem wanted_eq (c : Client) (e : Event) :
    c.wanted e = (c.react e).2.filterMap (c.react e).1.wanted? := by
  have hn : (c.react e).1.tidy.2.filterMap (c.react e).1.wanted? = [] :=
    List.filterMap_eq_nil_iff.mpr fun o ho => wanted?_of_aside (aside_tidy _ o ho) _
  rw [wanted, step_eq, wanted?_congr (undisturbed_tidy _), List.filterMap_append, hn,
    List.append_nil]

/-- Events from outside end no call, ask for nothing and add no stream. -/
theorem gather_ambient (c : Client) (hes : ∀ e ∈ es, e.isAmbient = true) :
    gather results c es = [] ∧ gather wanted c es = [] ∧ gather added c es = [] := by
  induction es generalizing c with
  | nil => exact ⟨rfl, rfl, rfl⟩
  | cons e es ih =>
    obtain ⟨f, -, hr⟩ := react_ambient c (hes e List.mem_cons_self)
    obtain ⟨hresults, hwanted, hadded⟩ :=
      ih (c.step e).1 fun e he => hes e (List.mem_cons_of_mem _ he)
    have hout : (c.react e).2 = [] := by rw [hr]
    have hstreams : (c.react e).1.streams = c.streams.map f := by rw [hr]
    refine ⟨?_, ?_, ?_⟩
    · rw [gather, hresults, results_eq, hout]
      rfl
    · rw [gather, hwanted, wanted_eq, hout]
      rfl
    · rw [gather, hadded, added, hstreams]
      simp

/-! ### Answers of the node -/

/-- An answer to the question for a subscription, and what happens before it comes. -/
structure Reply where
  meanwhile : List Event
  answer : Except Node.ClientError Rpc.SubscriptionKey

def Reply.events (t : Nat) (p : Reply) : List Event := p.meanwhile ++ [.subscribed t p.answer]

def script (t : Nat) (replies : List Reply) : List Event := replies.flatMap (Reply.events t)

/-- The registrations that the node accepts, each with its subscription. -/
def accepted : List RegistrationId → List Reply → List (RegistrationId × Rpc.SubscriptionKey)
  | r :: rs, p :: replies =>
    match p.answer with
    | .ok key => (r, key) :: accepted rs replies
    | .error _ => accepted rs replies
  | _, _ => []

/-- The registrations that the node refuses. -/
def refused : List RegistrationId → List Reply → List RegistrationId
  | r :: rs, p :: replies =>
    match p.answer with
    | .ok _ => refused rs replies
    | .error _ => r :: refused rs replies
  | _, _ => []

/-! ### From one registration to the next -/

/-- A call that has the lock, and no other is under way. -/
structure Holds (c : Client) (t : Nat) (k : ConnectionId) : Prop where
  calls : ∃ s, c.calls = [⟨t, s⟩]
  lock : c.lock = [t]
  slot : c.slot = some k

theorem Holds.renew_nil (h : c.Holds t k) :
    c.renew t k [] =
      ({ c with listed := c.listed.filter c.isActive, calls := [], lock := [] },
        [.done t .reconnected]) := by
  obtain ⟨s, hc⟩ := h.calls
  simp [renew, finish, hc, h.lock]

theorem Holds.renew_cons (h : c.Holds t k) (r : RegistrationId) (rest : List RegistrationId) :
    c.renew t k (r :: rest) =
      ({ c with calls := [⟨t, .renewing k r rest⟩] }, [.subscribe t k]) := by
  obtain ⟨s, hc⟩ := h.calls
  simp [renew, wait, hc]

theorem isActive_renew (c : Client) (t : Nat) (k : ConnectionId) (rs : List RegistrationId)
    (r : RegistrationId) : (c.renew t k rs).1.isActive r = c.isActive r := by
  cases rs <;> rfl

theorem streams_renew (c : Client) (t : Nat) (k : ConnectionId) (rs : List RegistrationId) :
    (c.renew t k rs).1.streams = c.streams := by
  cases rs <;> rfl

/-- A client whose call goes on to renew some registrations, after all that follows. -/
def goOn (c : Client) (t : Nat) (k : ConnectionId) (rs : List RegistrationId) : Client :=
  (c.renew t k rs).1.tidy.1

theorem isActive_goOn (c : Client) (t : Nat) (k : ConnectionId) (rs : List RegistrationId)
    (r : RegistrationId) : (c.goOn t k rs).isActive r = c.isActive r := by
  rw [goOn, isActive_tidy, isActive_renew]

theorem Holds.goOn_nil (h : c.Holds t k) :
    Undisturbed { c with listed := c.listed.filter c.isActive, calls := [], lock := [] }
      (c.goOn t k []) := by
  rw [goOn, h.renew_nil]
  exact undisturbed_tidy _

theorem Holds.goOn_cons (h : c.Holds t k) (r : RegistrationId) (rest : List RegistrationId) :
    Undisturbed { c with calls := [⟨t, .renewing k r rest⟩] } (c.goOn t k (r :: rest)) := by
  rw [goOn, h.renew_cons]
  exact undisturbed_tidy _

/-- What an answer does before the call goes on. -/
def settleOne (c : Client) (k : ConnectionId) (r : RegistrationId) :
    Except Node.ClientError Rpc.SubscriptionKey → Client
  | .ok key => c.addStream k key (some r)
  | .error _ => c.cancel r

theorem react_subscribed (hs : c.stage? t = some (.renewing k r rest))
    (answer : Except Node.ClientError Rpc.SubscriptionKey) :
    ∃ out, c.react (.subscribed t answer) =
      (((c.settleOne k r answer).renew t k rest).1,
        out ++ ((c.settleOne k r answer).renew t k rest).2) ∧
      ∀ o ∈ out, o.result? = none ∧ ∀ c' : Client, c'.wanted? o = none := by
  cases answer with
  | ok key =>
    refine ⟨[c.countRequest .subscribeNewBlockTemplate true], ?_, ?_⟩
    · simp only [react, subscribed, hs]
      rfl
    · intro o ho
      cases List.mem_singleton.mp ho
      exact ⟨rfl, fun _ => rfl⟩
  | error e =>
    refine ⟨[c.countRequest .subscribeNewBlockTemplate false, .log (c.renewalEntry e)], ?_, ?_⟩
    · simp only [react, subscribed, hs]
      rfl
    · intro o ho
      rcases List.mem_cons.mp ho with rfl | ho
      · exact ⟨rfl, fun _ => rfl⟩
      · cases List.mem_singleton.mp ho
        exact ⟨rfl, fun _ => rfl⟩

theorem settleOne_fields (c : Client) (k : ConnectionId) (r : RegistrationId)
    (answer : Except Node.ClientError Rpc.SubscriptionKey) :
    Undisturbed c (c.settleOne k r answer) := by
  cases answer <;> exact ⟨rfl, rfl, rfl, rfl⟩

/-- The node answers for one registration: the call goes on with the next. -/
structure Answers (c₁ c₃ c : Client) (t : Nat) (k : ConnectionId) (r : RegistrationId)
    (rest : List RegistrationId) (p : Reply) : Prop where
  holds : c₃.Holds t k
  listed : c₃.listed = c.listed
  active : ∀ r', c₃.isActive r' =
    (c.isActive r' && decide (r' ∉ released p.meanwhile) && decide (r' ∉ refused [r] [p]))
  after : c₁.after (p.events t) = (c₃.goOn t k rest)
  results : gather results c₁ (p.events t) = (c₃.renew t k rest).2.filterMap Output.result?
  wanted : gather wanted c₁ (p.events t) =
    (c₃.renew t k rest).2.filterMap (c₃.renew t k rest).1.wanted?
  added : gather added c₁ (p.events t) =
    (accepted [r] [p]).map fun x => (k, x.2, some x.1)

section
variable {c₁ c₃ : Client} {p : Reply}

theorem Answers.after_script (h : Answers c₁ c₃ c t k r rest p) (replies : List Reply) :
    c₁.after (script t (p :: replies)) = (c₃.goOn t k rest).after (script t replies) := by
  rw [script, List.flatMap_cons, after_append, h.after, script]

theorem Answers.gather_script {α : Type} (h : Answers c₁ c₃ c t k r rest p)
    (g : Client → Event → List α) (replies : List Reply) :
    gather g c₁ (script t (p :: replies)) = gather g c₁ (p.events t) ++
      gather g (c₃.goOn t k rest) (script t replies) := by
  rw [script, List.flatMap_cons, gather_append, h.after, script]

end

theorem Holds.answers (h : c.Holds t k) (r : RegistrationId) (rest : List RegistrationId)
    {p : Reply} (hp : ∀ e ∈ p.meanwhile, e.isAmbient = true) :
    Answers (c.goOn t k (r :: rest))
      (((c.goOn t k (r :: rest)).after p.meanwhile).settleOne k r p.answer) c t k r rest
      p := by
  have hfirst := h.goOn_cons r rest
  have hactive := isActive_goOn c t k (r :: rest)
  generalize c.goOn t k (r :: rest) = c₁ at hfirst hactive ⊢
  obtain ⟨hquiet, hmeanwhile⟩ := ambient_after c₁ hp
  obtain ⟨hresults, hwanted, hadded⟩ := gather_ambient c₁ hp
  have hs : (c₁.after p.meanwhile).stage? t = some (.renewing k r rest) := by
    rw [hquiet.stage?, hfirst.stage?]
    simp [stage?]
  obtain ⟨out, hreact, hout⟩ := react_subscribed hs p.answer
  have hfields := settleOne_fields (c₁.after p.meanwhile) k r p.answer
  have hstep : c₁.after (p.events t) = ((c₁.after p.meanwhile).step (.subscribed t p.answer)).1 :=
    after_append c₁ p.meanwhile [.subscribed t p.answer]
  have hgather {α : Type} (g : Client → Event → List α) : gather g c₁ (p.events t) =
      gather g c₁ p.meanwhile ++ g (c₁.after p.meanwhile) (.subscribed t p.answer) := by
    rw [Reply.events, gather_append, gather, gather, List.append_nil]
  refine ⟨⟨⟨.renewing k r rest, ?_⟩, ?_, ?_⟩, ?_, fun r' => ?_, ?_, ?_, ?_, ?_⟩
  · rw [hfields.calls, hquiet.calls, hfirst.calls]
  · rw [hfields.lock, hquiet.lock, hfirst.lock]
    exact h.lock
  · rw [hfields.slot, hquiet.slot, hfirst.slot]
    exact h.slot
  · rw [hfields.listed, hquiet.listed, hfirst.listed]
  · rw [← hactive, ← hmeanwhile]
    cases hp : p.answer with
    | ok key => simp [refused, hp, settleOne, addStream, isActive]
    | error e => simp [refused, hp, settleOne, isActive_cancel]
  · rw [hstep, step_eq, hreact, goOn]
  · have hn : out.filterMap Output.result? = [] :=
      List.filterMap_eq_nil_iff.mpr fun o ho => (hout o ho).1
    rw [hgather, hresults, results_eq, hreact, List.filterMap_append, hn]
    rfl
  · have hn (c' : Client) : out.filterMap c'.wanted? = [] :=
      List.filterMap_eq_nil_iff.mpr fun o ho => (hout o ho).2 c'
    rw [hgather, hwanted, wanted_eq, hreact, List.filterMap_append, hn]
    rfl
  · rw [hgather, hadded, Client.added, hreact, streams_renew]
    cases hp : p.answer with
    | ok key => simp [accepted, hp, settleOne, addStream]
    | error e => simp [accepted, hp, settleOne, cancel]

theorem accepted_nil (replies : List Reply) : accepted [] replies = [] := by
  cases replies <;> rfl

theorem accepted_cons (r : RegistrationId) (rs : List RegistrationId) (p : Reply)
    (replies : List Reply) :
    accepted (r :: rs) (p :: replies) = accepted [r] [p] ++ accepted rs replies := by
  cases h : p.answer <;> simp [accepted, h]

theorem refused_cons (r : RegistrationId) (rs : List RegistrationId) (p : Reply)
    (replies : List Reply) :
    refused (r :: rs) (p :: replies) = refused [r] [p] ++ refused rs replies := by
  cases h : p.answer <;> simp [refused, h]

theorem released_script (t : Nat) (p : Reply) (replies : List Reply) :
    released (script t (p :: replies)) = released p.meanwhile ++ released (script t replies) := by
  rw [script, List.flatMap_cons, ← script, Reply.events, released_append, released_append]
  simp [released, Event.released?]

/-! ### A whole renewal -/

/-- What comes of renewing some registrations, once the node has answered for all of them. -/
structure Renewed (c : Client) (t : Nat) (k : ConnectionId) (rs : List RegistrationId)
    (replies : List Reply) : Prop where
  calls : ((c.goOn t k rs).after (script t replies)).calls = []
  lock : ((c.goOn t k rs).after (script t replies)).lock = []
  slot : ((c.goOn t k rs).after (script t replies)).slot = some k
  active : ∀ r, ((c.goOn t k rs).after (script t replies)).isActive r =
    (c.isActive r && decide (r ∉ released (script t replies)) && decide (r ∉ refused rs replies))
  listed : ((c.goOn t k rs).after (script t replies)).listed =
    c.listed.filter ((c.goOn t k rs).after (script t replies)).isActive
  results : (c.renew t k rs).2.filterMap Output.result? ++
    gather results (c.goOn t k rs) (script t replies) = [(t, .reconnected)]
  wanted : (c.renew t k rs).2.filterMap (c.renew t k rs).1.wanted? ++
    gather wanted (c.goOn t k rs) (script t replies) = rs.map (k, some ·)
  added : gather added (c.goOn t k rs) (script t replies) =
    (accepted rs replies).map fun x => (k, x.2, some x.1)

theorem Holds.renewed (h : c.Holds t k) {replies : List Reply}
    (hlength : replies.length = rs.length)
    (hp : ∀ p ∈ replies, ∀ e ∈ p.meanwhile, e.isAmbient = true) :
    Renewed c t k rs replies := by
  induction rs generalizing c replies with
  | nil =>
    cases List.length_eq_zero_iff.mp hlength
    have hlast := h.goOn_nil
    have hactive := isActive_goOn c t k []
    constructor
    case calls => exact hlast.calls
    case lock => exact hlast.lock
    case slot => exact hlast.slot.trans h.slot
    case active =>
      intro r
      refine (hactive r).trans ?_
      simp [script, released, refused]
    case listed =>
      refine hlast.listed.trans ?_
      exact List.filter_congr fun r _ => (hactive r).symm
    case results | wanted =>
      rw [h.renew_nil]
      rfl
    case added => rfl
  | cons r rest ih =>
    cases replies with
    | nil => cases hlength
    | cons p replies =>
      have hn := h.answers r rest (hp p List.mem_cons_self)
      generalize ((c.goOn t k (r :: rest)).after p.meanwhile).settleOne k r p.answer = c₃
        at hn
      have hi := ih hn.holds (Nat.succ.inj hlength) fun q hq => hp q (List.mem_cons_of_mem _ hq)
      refine ⟨?_, ?_, ?_, fun r' => ?_, ?_, ?_, ?_, ?_⟩
      · rw [hn.after_script, hi.calls]
      · rw [hn.after_script, hi.lock]
      · rw [hn.after_script, hi.slot]
      · rw [hn.after_script, hi.active, hn.active, released_script, refused_cons r rest]
        simp only [List.mem_append, not_or, Bool.decide_and, Bool.and_assoc, Bool.and_left_comm]
      · rw [hn.after_script, hi.listed, hn.listed]
      · rw [hn.gather_script, hn.results, hi.results, h.renew_cons]
        rfl
      · rw [hn.gather_script, hn.wanted, hi.wanted, h.renew_cons]
        simp [wanted?, renewing?, stage?]
      · rw [hn.gather_script, hn.added, hi.added, accepted_cons r rest, List.map_append]

/-! ### The streams of the new connection -/

/-- A stream with nothing in its queue. -/
def emptied (s : Stream) : Stream := { s with forwarder := { s.forwarder with queue := [] } }

/-- The stream of a registration that has been renewed. -/
def renewedStream (c : Client) (k : ConnectionId) (x : RegistrationId × Rpc.SubscriptionKey) :
    Stream :=
  { connection := k, key := x.2, registration := some x.1,
    forwarder := { cancelled := !c.isActive x.1 } }

/-- The streams of a connection are those of some renewed registrations. -/
def Supplies (c : Client) (k : ConnectionId) (xs : List (RegistrationId × Rpc.SubscriptionKey)) :
    Prop :=
  (c.streams.filter (·.connection = k)).map emptied = xs.map (c.renewedStream k)

/-- The node leaves a connection and its subscriptions alone. -/
def Event.spares (k : ConnectionId) : Event → Bool
  | .ended k' _ => k' ≠ k
  | .lost k' => k' ≠ k
  | _ => true

namespace Supplies

variable {xs : List (RegistrationId × Rpc.SubscriptionKey)}

theorem congr (h : c.Supplies k xs) (hs : c'.streams = c.streams) (ha : c'.active = c.active) :
    c'.Supplies k xs := by
  have hr : c'.renewedStream k = c.renewedStream k := by
    funext x
    rw [renewedStream, renewedStream, isActive, isActive, ha]
  rw [Supplies, hs, hr]
  exact h

theorem filter_map_connection {f : Stream → Stream} (hc : ∀ s, (f s).connection = s.connection)
    (l : List Stream) :
    (l.map f).filter (·.connection = k) = (l.filter (·.connection = k)).map f := by
  rw [List.filter_map]
  congr 1
  refine List.filter_congr fun s _ => ?_
  rw [Function.comp_apply, hc]

/-- Streams that change one by one. -/
theorem map (h : c.Supplies k xs) {f : Stream → Stream}
    (hc : ∀ s, (f s).connection = s.connection) (hs : c'.streams = c.streams.map f)
    {g : Stream → Stream} (hf : ∀ s, s.connection = k → emptied (f s) = g (emptied s))
    (hg : ∀ x ∈ xs, g (c.renewedStream k x) = c'.renewedStream k x) : c'.Supplies k xs := by
  have hmap : ((c.streams.filter (·.connection = k)).map f).map emptied =
      ((c.streams.filter (·.connection = k)).map emptied).map g := by
    rw [List.map_map, List.map_map]
    exact List.map_congr_left fun s hs => hf s (of_decide_eq_true (List.mem_filter.mp hs).2)
  rw [Supplies, hs, filter_map_connection hc, hmap, show _ = _ from h, List.map_map]
  exact List.map_congr_left hg

theorem cancel (h : c.Supplies k xs) (r : RegistrationId) : (c.cancel r).Supplies k xs := by
  let f (s : Stream) : Stream :=
    if s.registration = some r then
      { s with forwarder := { s.forwarder with cancelled := true } }
    else s
  refine h.map (f := f) (g := f) (steady_cancel r).connection rfl (fun s _ => ?_) fun x _ => ?_
  · unfold f emptied
    dsimp only
    split <;> rfl
  · unfold f renewedStream
    rw [isActive_cancel]
    by_cases hr : x.1 = r <;> simp [hr]

theorem ambient (h : c.Supplies k xs) (he : e.isAmbient = true) (hk : e.spares k = true) :
    (c.react e).1.Supplies k xs := by
  -- All but giving up a registration leave the streams of the connection alone, but for queues.
  have still {f : Stream → Stream} (hf : Stream.Steady f)
      (hr : (c.react e).1 = { c with streams := c.streams.map f })
      (hs : ∀ s, s.connection = k → emptied (f s) = emptied s) : (c.react e).1.Supplies k xs := by
    rw [hr]
    exact h.map (g := id) hf.connection rfl hs fun _ _ => rfl
  cases e with
  | release r => exact h.cancel r
  | item k' key i =>
    refine still (steady_item k' key i) rfl fun s hs => ?_
    obtain ⟨queue, hq⟩ := push_eq s.forwarder i
    unfold emptied
    dsimp only
    split
    · rw [hq]
    · rfl
  | ended k' key =>
    refine still (steady_ended k' key) rfl fun s hs => ?_
    have hne : ¬(s.connection = k' ∧ s.key = key) := fun hn =>
      (of_decide_eq_true hk : k' ≠ k) (hn.1.symm.trans hs)
    rw [if_neg hne]
  | lost k' =>
    refine still (steady_endStreams k') rfl fun s hs => ?_
    have hne : s.connection ≠ k' := fun hn => (of_decide_eq_true hk : k' ≠ k) (hn.symm.trans hs)
    rw [if_neg hne]
  | _ => cases he

/-- What comes of a stream does not depend on what is in its queue. -/
theorem forwarded_emptied (s : Stream) :
    emptied (forwarded (emptied s)) = emptied (forwarded s) := by
  obtain ⟨connection, key, registration, queue, ended, cancelled, running⟩ := s
  cases registration with
  | none => rfl
  | some r =>
    cases running <;> cases cancelled <;> cases ended <;> rfl

theorem running_emptied (s : Stream) :
    (emptied s).forwarder.running = s.forwarder.running := rfl

theorem forwarded_running (l : List Stream) :
    ((l.map forwarded).filter (·.forwarder.running)).map emptied =
      (((l.map emptied).map forwarded).filter (·.forwarder.running)).map emptied := by
  induction l with
  | nil => rfl
  | cons s l ih =>
    have hs := forwarded_emptied s
    have hr : (forwarded (emptied s)).forwarder.running = (forwarded s).forwarder.running := by
      rw [← running_emptied, hs, running_emptied]
    simp only [List.map_cons, List.filter_cons, hr]
    split
    · rw [List.map_cons, List.map_cons, hs, ih]
    · exact ih

/-- The streams of a held connection that are left are those of registrations that have not been
ended. -/
theorem tidy (h : c.Supplies k xs) (hk : c.isHeld k = true) :
    c.tidy.1.Supplies k (xs.filter (c.isActive ·.1)) := by
  have hending : (c.streams.filter (·.connection = k)).map (endingAll c.unheld) =
      c.streams.filter (·.connection = k) := by
    refine (List.map_congr_left fun s hs => ?_).trans (List.map_id _)
    have hn : s.connection ∉ c.unheld := fun hm => by
      rw [of_decide_eq_true (List.mem_filter.mp hs).2] at hm
      simp [unheld, hk] at hm
    exact if_neg hn
  have hstreams : c.tidy.1.streams.filter (·.connection = k) =
      ((c.streams.filter (·.connection = k)).map forwarded).filter (·.forwarder.running) := by
    rw [tidy_eq]
    dsimp only
    rw [List.filter_filter, ← hending, ← filter_map_connection (steady_endingAll _).connection,
      ← filter_map_connection connection_forwarded, List.filter_filter]
    exact List.filter_congr fun s _ => Bool.and_comm _ _
  have hactive : c.tidy.1.renewedStream k = c.renewedStream k := by
    funext x
    rw [renewedStream, renewedStream, isActive_tidy]
  rw [Supplies, hstreams, forwarded_running, show _ = _ from h, hactive]
  clear h
  induction xs with
  | nil => rfl
  | cons x xs ih =>
    have hrun : (forwarded (c.renewedStream k x)).forwarder.running = c.isActive x.1 := by
      cases hx : c.isActive x.1 <;>
        simp [forwarded, renewedStream, hx, Forwarder.settle, Forwarder.turn, Forwarder.stop]
    cases hx : c.isActive x.1 with
    | true =>
      have hf : emptied (forwarded (c.renewedStream k x)) = c.renewedStream k x := by
        simp [forwarded, renewedStream, emptied, hx, Forwarder.settle, Forwarder.turn]
      rw [hx] at hrun
      simp only [List.map_cons, List.filter_cons, hrun, hx, if_true, hf, ih]
    | false =>
      rw [hx] at hrun
      simp only [List.map_cons, List.filter_cons, hrun, hx, Bool.false_eq_true, if_false, ih]

/-- Events from outside take away the streams of registrations that are given up. -/
theorem after (h : c.Supplies k xs) (hx : ∀ x ∈ xs, c.isActive x.1 = true) (hk : c.slot = some k)
    (hes : ∀ e ∈ es, e.isAmbient = true) (hspares : ∀ e ∈ es, e.spares k = true) :
    (c.after es).Supplies k (xs.filter ((c.after es).isActive ·.1)) := by
  induction es generalizing c xs with
  | nil =>
    have hf : xs.filter (c.isActive ·.1) = xs := List.filter_eq_self.mpr hx
    rw [Client.after, List.foldl_nil, hf]
    exact h
  | cons e es ih =>
    have he := hes e List.mem_cons_self
    have hrest : ∀ e ∈ es, e.isAmbient = true := fun e he => hes e (List.mem_cons_of_mem _ he)
    have hslot : (c.step e).1.slot = some k := (undisturbed_step c he).slot.trans hk
    have hreact : (c.react e).1.slot = some k := by
      obtain ⟨f, -, hr⟩ := react_ambient c he
      rw [hr]
      exact hk
    have hstep : (c.step e).1.Supplies k (xs.filter ((c.step e).1.isActive ·.1)) := by
      have ht := (h.ambient he (hspares e List.mem_cons_self)).tidy (by simp [isHeld, hreact])
      rw [step_eq]
      simpa only [isActive_tidy] using ht
    have hafter := ih hstep (fun x hx => (List.mem_filter.mp hx).2) hslot hrest
      fun e he => hspares e (List.mem_cons_of_mem _ he)
    have hlater : ∀ x : RegistrationId × Rpc.SubscriptionKey,
        ((c.step e).1.after es).isActive x.1 = true → (c.step e).1.isActive x.1 = true := by
      intro x hx
      rw [(ambient_after (c.step e).1 hrest).2, Bool.and_eq_true] at hx
      exact hx.1
    rw [filter_filter_of_imp hlater] at hafter
    exact hafter

theorem settleOne (h : c.Supplies k xs) (r : RegistrationId) (p : Reply) :
    (c.settleOne k r p.answer).Supplies k (xs ++ accepted [r] [p]) := by
  cases hp : p.answer with
  | ok key =>
    have hadded : c.Supplies k xs → (c.addStream k key (some r)).Supplies k (xs ++ [(r, key)]) := by
      intro h
      have hr : (c.addStream k key (some r)).renewedStream k = c.renewedStream k := rfl
      rw [Supplies, hr, List.map_append, ← show _ = _ from h]
      simp [addStream, List.filter_append, emptied, renewedStream]
    simpa [accepted, hp, Client.settleOne] using hadded h
  | error e => simpa [accepted, hp, Client.settleOne] using h.cancel r

theorem renew (h : c.Supplies k xs) (hc : c.Holds t k) (rs : List RegistrationId) :
    (c.goOn t k rs).Supplies k (xs.filter (c.isActive ·.1)) := by
  have hheld : (c.renew t k rs).1.isHeld k = true := by
    cases rs with
    | nil => simp [hc.renew_nil, isHeld, hc.slot]
    | cons r rest => simp [hc.renew_cons, isHeld, hc.slot]
  have hactive : (c.renew t k rs).1.active = c.active := by cases rs <;> rfl
  have ht := (h.congr (streams_renew c t k rs) hactive).tidy hheld
  rw [goOn]
  simpa only [isActive_renew] using ht

/-- After a whole renewal the new connection has the streams of those registrations that were
accepted and have not been ended. -/
theorem renewed (h : c.Supplies k xs) (hc : c.Holds t k) {replies : List Reply}
    (hlength : replies.length = rs.length)
    (hp : ∀ p ∈ replies, ∀ e ∈ p.meanwhile, e.isAmbient = true)
    (hspares : ∀ p ∈ replies, ∀ e ∈ p.meanwhile, e.spares k = true) :
    let c' := (c.goOn t k rs).after (script t replies)
    c'.Supplies k ((xs ++ accepted rs replies).filter (c'.isActive ·.1)) := by
  dsimp only
  induction rs generalizing c xs replies with
  | nil =>
    cases List.length_eq_zero_iff.mp hlength
    rw [accepted_nil, List.append_nil]
    show (c.goOn t k []).Supplies k (xs.filter ((c.goOn t k []).isActive ·.1))
    simpa only [isActive_goOn] using h.renew hc []
  | cons r rest ih =>
    cases replies with
    | nil => cases hlength
    | cons p replies =>
      have hnoise := hp p List.mem_cons_self
      have hn := hc.answers r rest hnoise
      have hslot := (hc.goOn_cons r rest).slot.trans hc.slot
      have hmeanwhile := (ambient_after (c.goOn t k (r :: rest)) hnoise).2
      simp only [isActive_goOn] at hmeanwhile
      -- Whoever is left when the answer comes had not been ended before and was not given up.
      have hleft := (h.renew hc (r :: rest)).after
        (fun x hx => by simpa [isActive_goOn] using (List.mem_filter.mp hx).2)
        hslot hnoise (hspares p List.mem_cons_self)
      have hrest := hn.holds.renewed (Nat.succ.inj hlength) fun q hq =>
        hp q (List.mem_cons_of_mem _ hq)
      have hi := ih (hleft.settleOne r p) hn.holds (Nat.succ.inj hlength)
        (fun q hq => hp q (List.mem_cons_of_mem _ hq))
        fun q hq => hspares q (List.mem_cons_of_mem _ hq)
      rw [hn.after_script]
      have hactive := fun r' => (hrest.active r').trans (by rw [hn.active])
      generalize (c.goOn t k (r :: rest)).after p.meanwhile = c₂ at *
      generalize ((c₂.settleOne k r p.answer).goOn t k rest).after (script t replies) = c' at *
      have hlater : ∀ x : RegistrationId × Rpc.SubscriptionKey, c'.isActive x.1 = true →
          c₂.isActive x.1 = true := by
        intro x hx
        rw [hactive] at hx
        rw [hmeanwhile]
        simp only [Bool.and_eq_true] at hx ⊢
        exact hx.1.1.1
      have hfilter : ((xs.filter (c.isActive ·.1)).filter (c₂.isActive ·.1)).filter
          (c'.isActive ·.1) = xs.filter (c'.isActive ·.1) := by
        rw [filter_filter_of_imp hlater, filter_filter_of_imp fun x hx => ?_]
        have hx₂ := hlater x hx
        rw [hmeanwhile, Bool.and_eq_true] at hx₂
        exact hx₂.1
      rw [accepted_cons r rest, ← List.append_assoc, List.filter_append, List.filter_append]
      rw [List.filter_append, List.filter_append, hfilter] at hi
      exact hi

/-- Between two events the forwarders of these streams wait for items. -/
theorem streams_eq (h : c.Supplies k xs) (hr : c.AtRest) (hx : ∀ x ∈ xs, c.isActive x.1 = true) :
    c.streams.filter (·.connection = k) = xs.map fun x =>
      { connection := k, key := x.2, registration := some x.1 } := by
  have hown : ∀ s ∈ c.streams.filter (·.connection = k), emptied s = s := by
    intro s hs
    have hm : emptied s ∈ xs.map (c.renewedStream k) := by
      rw [← show _ = _ from h]
      exact List.mem_map_of_mem hs
    obtain ⟨x, -, hxs⟩ := List.mem_map.mp hm
    have hregistration : s.registration = some x.1 := (congrArg Stream.registration hxs).symm
    have hidle := hr.idle s (List.mem_filter.mp hs).1 (by rw [hregistration]; nofun)
    rw [emptied, hidle]
    obtain ⟨connection, key, registration, forwarder⟩ := s
    cases hidle
    rfl
  rw [← (List.map_congr_left hown).trans (List.map_id _), show _ = _ from h]
  refine List.map_congr_left fun x hm => ?_
  rw [renewedStream, hx x hm]
  rfl

end Supplies

/-! ### Dialing -/

theorem wait_of_calls_eq (hc : c.calls = []) (t : Nat) (s : Stage) :
    c.wait t s = { c with calls := [⟨t, s⟩] } := by
  simp [wait, hc]

/-- A call that dials holds no connection. -/
theorem tidy_dialing (hc : c.calls = []) (t : Nat) :
    (c.wait t .dialing).tidy.1 = c.tidy.1.wait t .dialing := by
  have hheld : (c.wait t .dialing).isHeld = c.isHeld := by
    funext k
    simp [wait_of_calls_eq hc, isHeld, hc, Stage.connection?]
  rw [tidy_eq, tidy_eq, unheld, unheld, hheld]
  rfl

/-- While a call dials, events from outside do what they do without it. -/
theorem after_dialing (hc : c.calls = []) (t : Nat) (hes : ∀ e ∈ es, e.isAmbient = true) :
    (c.wait t .dialing).after es = (c.after es).wait t .dialing := by
  induction es generalizing c with
  | nil => rfl
  | cons e es ih =>
    have he := hes e List.mem_cons_self
    obtain ⟨f, -, hr⟩ := react_ambient c he
    have hcalls : (c.react e).1.calls = [] := by
      rw [hr]
      exact hc
    have hreact : ((c.wait t .dialing).react e).1 = (c.react e).1.wait t .dialing := by
      cases e with
      | release | item | ended | lost => rfl
      | _ => cases he
    have hstep : ((c.wait t .dialing).step e).1 = (c.step e).1.wait t .dialing := by
      rw [step_eq, step_eq, hreact]
      exact tidy_dialing hcalls t
    have hcalls' : (c.step e).1.calls = [] := (undisturbed_step c he).calls.trans hc
    rw [after, List.foldl_cons, hstep]
    exact ih hcalls' fun e he => hes e (List.mem_cons_of_mem _ he)

theorem AtRest.dialing (h : c.AtRest) (hc : c.calls = []) (t : Nat) :
    (c.wait t .dialing).AtRest where
  held := fun k hk => by simp [isHeld, wait, h.slot hc hk]
  running := h.running
  idle := h.idle

theorem begin_reconnect (h : c.AtRest) (hc : c.calls = []) (t : Nat) :
    c.step (.begin t .reconnect) = (c.wait t .dialing, [.log (dialEntry c.url), .dial t]) := by
  have hr : c.react (.begin t .reconnect) =
      (c.wait t .dialing, [.log (dialEntry c.url), .dial t]) := rfl
  rw [step_eq, hr, (h.dialing hc t).tidy]
  rfl

/-- Until the dial ends, a call that reconnects changes nothing, and all it does is to dial. -/
theorem after_begin (h : c.AtRest) (hc : c.calls = []) (t : Nat)
    (hes : ∀ e ∈ es, e.isAmbient = true) :
    c.after (.begin t .reconnect :: es) = (c.after es).wait t .dialing ∧
      gather results c (.begin t .reconnect :: es) = [] ∧
      gather wanted c (.begin t .reconnect :: es) = [] ∧
      gather added c (.begin t .reconnect :: es) = [] := by
  have hstep := begin_reconnect h hc t
  have hr : c.react (.begin t .reconnect) =
      (c.wait t .dialing, [.log (dialEntry c.url), .dial t]) := rfl
  obtain ⟨hresults, hwanted, hadded⟩ := gather_ambient (c.wait t .dialing) hes
  refine ⟨?_, ?_, ?_, ?_⟩
  · rw [after, List.foldl_cons, hstep]
    exact after_dialing hc t hes
  · rw [gather, hstep, hresults, results, hstep]
    rfl
  · rw [gather, hstep, hwanted, wanted, hstep]
    rfl
  · rw [gather, hstep, hadded, added, hr]
    simp [wait]

/-- A dial that fails leaves nothing behind. -/
theorem react_dialed_error (hc : c.calls = []) (hl : c.lock = []) (t : Nat)
    (err : Node.ClientError) :
    (c.wait t .dialing).react (.dialed t (.error err)) = (c, [.done t (.refused err)]) := by
  obtain ⟨address, url, slot, connections, active, listed, streams, lock, calls⟩ := c
  cases hc
  cases hl
  simp [react, dialed, stage?, wait, finish]

/-- A dial that succeeds begins to renew what has not been ended. -/
theorem dialed_ok (hc : c.calls = []) (hl : c.lock = []) (t : Nat) (k : ConnectionId) :
    ∃ c₁ : Client, c₁.Holds t k ∧ c₁.active = c.active ∧ c₁.streams = c.streams ∧
      c₁.listed = c.listed.filter c.isActive ∧
      (c.wait t .dialing).react (.dialed t (.ok k)) = c₁.renew t k c₁.listed := by
  refine ⟨{ c with
    slot := some k
    connections := c.connections ++ [k]
    listed := c.listed.filter c.isActive
    lock := [t]
    calls := [⟨t, .queued k⟩] }, ⟨⟨_, rfl⟩, rfl, rfl⟩, rfl, rfl, rfl, ?_⟩
  simp only [react, dialed, stage?, wait, hc, hl, takeLock, holdsLock, underLock, startRenewal]
  simp
  rfl

/-- A connection that no stream is on gets none from outside. -/
theorem absent_after (h : ∀ s ∈ c.streams, s.connection ≠ k)
    (hes : ∀ e ∈ es, e.isAmbient = true) : ∀ s ∈ (c.after es).streams, s.connection ≠ k := by
  induction es generalizing c with
  | nil => exact h
  | cons e es ih =>
    refine ih (fun s hs => ?_) fun e he => hes e (List.mem_cons_of_mem _ he)
    obtain ⟨f, hf, hr⟩ := react_ambient c (hes e List.mem_cons_self)
    have hm : s ∈ (c.step e).1.streams := hs
    rw [step_eq, tidy_eq, hr] at hm
    obtain ⟨s₁, hs₁, rfl⟩ := List.mem_map.mp (List.mem_filter.mp hm).1
    obtain ⟨s₂, hs₂, rfl⟩ := List.mem_map.mp hs₁
    obtain ⟨s₃, hs₃, rfl⟩ := List.mem_map.mp hs₂
    rw [connection_forwarded, (steady_endingAll _).connection, hf.connection]
    exact h s₃ hs₃

/-- A dial that fails: the client is as if there had been no call. -/
theorem reconnect_refused (h : c.AtRest) (hc : c.calls = []) (hl : c.lock = []) (t : Nat)
    (hes : ∀ e ∈ es, e.isAmbient = true) (err : Node.ClientError) :
    let run := .begin t .reconnect :: es ++ [.dialed t (.error err)]
    c.after run = c.after es ∧ gather results c run = [(t, .refused err)] ∧
      gather wanted c run = [] ∧ gather added c run = [] := by
  dsimp only
  have hquiet := (ambient_after c hes).1
  have hreact := react_dialed_error (hquiet.calls.trans hc) (hquiet.lock.trans hl) t err
  have hstep : ((c.after es).wait t .dialing).step (.dialed t (.error err)) =
      (c.after es, [.done t (.refused err)]) := by
    rw [step_eq, hreact, (h.after es).tidy]
    rfl
  obtain ⟨hbegun, hresults, hwanted, hadded⟩ := after_begin h hc t hes
  refine ⟨?_, ?_, ?_, ?_⟩
  · rw [after_append, hbegun, after, List.foldl_cons, hstep]
    rfl
  · rw [gather_append, hresults, hbegun, gather, results, hstep]
    rfl
  · rw [gather_append, hwanted, hbegun, gather, wanted, hstep]
    rfl
  · rw [gather_append, hadded, hbegun, gather, added, hreact]
    simp [gather, wait]

/-- What is renewed: all on the list that has not been ended when the dial ends. -/
def toBeRenewed (c : Client) (before : List Event) : List RegistrationId :=
  c.listed.filter fun r => c.isActive r && decide (r ∉ released before)

/-- A dial that succeeds: the call holds the lock, and goes on to renew. -/
theorem reconnect_renews (h : c.AtRest) (hc : c.calls = []) (hl : c.lock = []) (t : Nat)
    (hes : ∀ e ∈ es, e.isAmbient = true) (k : ConnectionId) (fs : List Event) :
    let run := .begin t .reconnect :: es ++ .dialed t (.ok k) :: fs
    let live := c.toBeRenewed es
    ∃ c₁ : Client, c₁.Holds t k ∧ c₁.listed = live ∧ c₁.streams = (c.after es).streams ∧
      (∀ r, c₁.isActive r = (c.isActive r && decide (r ∉ released es))) ∧
      c.after run = (c₁.goOn t k live).after fs ∧
      gather results c run =
        (c₁.renew t k live).2.filterMap Output.result? ++ gather results (c₁.goOn t k live) fs ∧
      gather wanted c run =
        (c₁.renew t k live).2.filterMap (c₁.renew t k live).1.wanted? ++
          gather wanted (c₁.goOn t k live) fs ∧
      gather added c run = gather added (c₁.goOn t k live) fs := by
  dsimp only
  obtain ⟨hquiet, hactive⟩ := ambient_after c hes
  obtain ⟨c₁, hholds, hact, hstreams, hlist, hreact⟩ :=
    dialed_ok (hquiet.calls.trans hc) (hquiet.lock.trans hl) t k
  have hlive : c₁.listed = c.toBeRenewed es := by
    rw [hlist, hquiet.listed]
    exact List.filter_congr fun r _ => hactive r
  rw [hlive] at hreact
  generalize c.toBeRenewed es = live at *
  have hstep : ((c.after es).wait t .dialing).step (.dialed t (.ok k)) =
      (c₁.goOn t k live, (c₁.renew t k live).2 ++ (c₁.renew t k live).1.tidy.2) := by
    rw [step_eq, hreact, goOn]
  obtain ⟨hbegun, hresults, hwanted, hadded⟩ := after_begin h hc t hes
  refine ⟨c₁, hholds, hlive, hstreams, fun r => ?_, ?_, ?_, ?_, ?_⟩
  · rw [← hactive, isActive, isActive, hact]
  · rw [after_append, hbegun, after, List.foldl_cons, hstep]
    rfl
  · rw [gather_append, hresults, hbegun, gather, results_eq, hreact, hstep]
    rfl
  · rw [gather_append, hwanted, hbegun, gather, wanted_eq, hreact, hstep]
    rfl
  · rw [gather_append, hadded, hbegun, gather, added, hreact, hstep, streams_renew, hstreams]
    simp [wait]

/-- Reconnecting in place, with no other call under way; before the dial has ended and before each
answer registrations may be given up, and the node may send items and end what it likes.

If the dial fails, the call ends with its error, and the client is as if there had been no call.  If
it succeeds and the node answers all requests, the call ends well.  The node has then been asked, on
the new connection, once for each registration on the list that had not been ended when the dial
ended, in the order of the list; each that it accepted has been given one stream, and each that it
refused has been ended, like those that were given up, and no other has been.  On the list are those
that have not been ended, in their order.  If the connection is a new one, and the node has not
ended it or its subscriptions, its streams are those of the accepted registrations that have not
been ended, each with a forwarder that waits for items. -/
theorem reconnect_renews_live (c : Client) (hrest : c.AtRest) (hcalls : c.calls = [])
    (hlock : c.lock = []) (t : Nat) (before : List Event)
    (hbefore : ∀ e ∈ before, e.isAmbient = true) :
    (∀ err, let run := .begin t .reconnect :: before ++ [.dialed t (.error err)]
      c.after run = c.after before ∧ gather results c run = [(t, .refused err)] ∧
        gather wanted c run = [] ∧ gather added c run = []) ∧
    ∀ k replies, let live := c.toBeRenewed before
      replies.length = live.length → (∀ p ∈ replies, ∀ e ∈ p.meanwhile, e.isAmbient = true) →
        let run := .begin t .reconnect :: before ++ .dialed t (.ok k) :: script t replies
        let c' := c.after run
        gather results c run = [(t, .reconnected)] ∧ c'.calls = [] ∧ c'.lock = [] ∧
          c'.slot = some k ∧
          gather wanted c run = live.map (k, some ·) ∧
          gather added c run = (accepted live replies).map (fun x => (k, x.2, some x.1)) ∧
          (∀ r, c'.isActive r =
            (c.isActive r && decide (r ∉ released run) && decide (r ∉ refused live replies))) ∧
          c'.listed = c.listed.filter c'.isActive ∧
          ((∀ s ∈ c.streams, s.connection ≠ k) → (∀ e ∈ run, e.spares k = true) →
            c'.streams.filter (·.connection = k) =
              ((accepted live replies).filter (c'.isActive ·.1)).map fun x =>
                { connection := k, key := x.2, registration := some x.1 }) := by
  refine ⟨fun err => reconnect_refused hrest hcalls hlock t hbefore err, fun k replies => ?_⟩
  dsimp only
  intro hlength hmeanwhile
  obtain ⟨c₁, hholds, hlive, hstreams, hactive, hafter, hresults, hwanted, hadded⟩ :=
    reconnect_renews hrest hcalls hlock t hbefore k (script t replies)
  have hrenewed := hholds.renewed hlength hmeanwhile
  have hreleased : released
      (.begin t .reconnect :: before ++ .dialed t (.ok k) :: script t replies) =
        released before ++ released (script t replies) := by
    rw [released_append, released_cons, released_cons]
    rfl
  rw [hafter, hreleased, hresults, hwanted, hadded]
  refine ⟨hrenewed.results, hrenewed.calls, hrenewed.lock, hrenewed.slot, hrenewed.wanted,
    hrenewed.added, fun r => ?_, ?_, fun hnew hspares => ?_⟩
  · rw [hrenewed.active, hactive]
    simp only [List.mem_append, not_or, Bool.decide_and, Bool.and_assoc]
  · -- Whoever has not been ended by now had not been ended when the dial ended.
    rw [hrenewed.listed, hlive]
    refine filter_filter_of_imp (fun r hr => ?_) c.listed
    rw [hrenewed.active, hactive] at hr
    simp only [Bool.and_eq_true] at hr ⊢
    exact hr.1.1
  · have hnone : c₁.Supplies k [] := by
      have habsent := absent_after hnew hbefore
      have hfilter : c₁.streams.filter (·.connection = k) = [] := by
        rw [hstreams]
        exact List.filter_eq_nil_iff.mpr fun s hs => by simpa using habsent s hs
      rw [Supplies, hfilter]
      rfl
    have hs := hnone.renewed hholds hlength hmeanwhile fun p hp e he => hspares e ?_
    · rw [List.nil_append] at hs
      refine hs.streams_eq ?_ fun x hx => (List.mem_filter.mp hx).2
      exact (atRest_tidy _).after _
    · refine List.mem_append_right _ (List.mem_cons_of_mem _ ?_)
      exact List.mem_flatMap.mpr ⟨p, hp, List.mem_append_left _ he⟩

/-- A client with four registrations, of which one has been given up. -/
def mixed : Client := (new default default 0).after [
  .begin 1 .register, .subscribed 1 (.ok (.number 10)),
  .begin 2 .register, .subscribed 2 (.ok (.number 11)),
  .begin 3 .register, .subscribed 3 (.ok (.number 12)),
  .begin 4 .register, .subscribed 4 (.ok (.number 13)),
  .release 1]

/-- The node refuses the first and accepts the others, and the last is given up meanwhile. -/
def mixedReplies : List Reply := [
  ⟨[], .error .disconnected⟩,
  ⟨[.item 0 (.number 12) .notification, .release 3], .ok (.number 20)⟩,
  ⟨[], .ok (.number 21)⟩]

theorem renewed_mixed :
    let run := .begin 5 .reconnect :: [] ++ .dialed 5 (.ok 1) :: script 5 mixedReplies
    gather results mixed run = [(5, .reconnected)] ∧
      gather wanted mixed run = [(1, some 0), (1, some 2), (1, some 3)] ∧
      gather added mixed run = [(1, .number 20, some 2), (1, .number 21, some 3)] ∧
      (mixed.after run).listed = [2] ∧
      (mixed.after run).streams.filter (·.connection = 1) =
        [{ connection := 1, key := .number 20, registration := some 2 }] ∧
      mixed.after (.begin 5 .reconnect :: [] ++ [.dialed 5 (.error .disconnected)]) = mixed := by
  have hrest : mixed.AtRest := (atRest_new _ _ _).after _
  obtain ⟨hfails, hrenews⟩ :=
    reconnect_renews_live mixed hrest rfl rfl 5 [] (List.forall_mem_nil _)
  obtain ⟨hresults, -, -, -, hwanted, hadded, -, hlisted, hstreams⟩ :=
    hrenews 1 mixedReplies rfl (by decide)
  refine ⟨hresults, hwanted, hadded, hlisted, (hstreams (by decide) (by decide)), ?_⟩
  exact (hfails .disconnected).1

end Client
end WorkBridge.Link
