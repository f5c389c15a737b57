import WorkBridge.Proofs.Link.Streams

/-!
What an event does about the requests that are accounted for.

A request is asked on the connection that its call found in the slot, or, where registrations are
renewed, on the one that the call has put there itself.  From then on it is pending until an answer
or a failure ends it, which is told to metrics, or its call is dropped, which is not
(`step_carries`).
-/

namespace WorkBridge.Link

open Metrics (Method Update)

namespace Stage

/-- What kind of request a call waits for. -/
def awaits? : Stage → Option Method
  | .asking q _ => some q.metric
  | .subscribing _ => some .subscribeNewBlockTemplate
  | .renewing _ _ _ => some .subscribeNewBlockTemplate
  | _ => none

/-- The connection on which a call renews registrations. -/
def renews? : Stage → Option ConnectionId
  | .queued k => some k
  | .renewing k _ _ => some k
  | _ => none

end Stage

/-- Whether a call asks the node for something that is accounted for. -/
def Task.isRequest : Task → Bool
  | .query _ => true
  | .register => true
  | _ => false

namespace Client

/-- What an event does about requests. -/
structure Traffic where
  /-- The requests that it ends, and whether they are successful. -/
  ended : List (Method × Bool) := []
  /-- The requests that are given up. -/
  dropped : List Method := []
  /-- What is asked on the connection in the slot. -/
  asked : List (ConnectionId × Method) := []
  /-- The call that puts a connection into the slot. -/
  stored : List (Nat × ConnectionId) := []

def Output.request? : Output → Option (ConnectionId × Method)
  | .ask _ k q => some (k, q.metric)
  | .subscribe _ k => some (k, .subscribeNewBlockTemplate)
  | _ => none

def Output.update? : Output → Option Update
  | .update u => some u
  | _ => none

/-- The requests that are sent, and on which connections. -/
def requests (out : List Output) : List (ConnectionId × Method) := out.filterMap Output.request?

def updates (out : List Output) : List Update := out.filterMap Output.update?

/-- What metrics are told of a request that ends. -/
def outcome (node : String) (r : Method × Bool) : Update := .request r.1 node r.2

def traffic (c : Client) : Event → Traffic
  | .begin _ (.query q) => { asked := (c.slot.map (·, q.metric)).toList }
  | .begin _ .register => { asked := (c.slot.map (·, .subscribeNewBlockTemplate)).toList }
  | .answered t r =>
    match c.stage? t with
    | some (.asking q _) => { ended := [(q.metric, r.isOk)] }
    | _ => {}
  | .subscribed t r =>
    match c.stage? t with
    | some (.subscribing _) => { ended := [(.subscribeNewBlockTemplate, r.isOk)] }
    | some (.renewing _ _ _) => { ended := [(.subscribeNewBlockTemplate, r.isOk)] }
    | _ => {}
  | .dialed t (.ok k) => if c.stage? t = some .dialing then { stored := [(t, k)] } else {}
  | .drop t => { dropped := ((c.stage? t).bind Stage.awaits?).toList }
  | _ => {}

/-- Whether the ticket of a call that begins is not in use. -/
def admits (c : Client) : Event → Bool
  | .begin t _ => (c.stage? t).isNone
  | _ => true

/-- How many requests of a kind are waited for. -/
def pending (c : Client) (m : Method) : Nat := c.weigh fun s => s.awaits?.toList.count m

def Renews (c : Client) (t : Nat) (k : ConnectionId) : Prop :=
  ∃ s, c.stage? t = some s ∧ s.renews? = some k

/-- What comes of an event is this traffic. -/
structure Carries (c : Client) (n : Traffic) (r : Client × List Output) : Prop where
  address : r.1.address = c.address
  tickets : (r.1.calls.map (·.ticket)).Nodup
  told : updates r.2 = n.ended.map (outcome c.address.text)
  even : ∀ m, c.pending m + ((requests r.2).map (·.2)).count m =
    (n.ended.map (·.1)).count m + n.dropped.count m + r.1.pending m
  sent : ∃ renewed, requests r.2 = n.asked ++ renewed ∧
    ∀ p ∈ renewed, p.2 = .subscribeNewBlockTemplate ∧ ∃ t, c.Renews t p.1 ∨ (t, p.1) ∈ n.stored
  stored : ∀ t k, r.1.Renews t k → c.Renews t k ∨ (t, k) ∈ n.stored

variable {c c' : Client} {n : Traffic} {t : Nat} {s : Stage} {k : ConnectionId}
  {out out' : List Output} {r : Client × List Output}

/-! ### Calls that wait and end -/

def awaiting (c : Client) (t : Nat) : List Method := ((c.stage? t).bind Stage.awaits?).toList

theorem awaiting_eq (h : c.stage? t = some s) : c.awaiting t = s.awaits?.toList := by
  rw [awaiting, h]
  rfl

theorem awaiting_congr (h : c'.calls = c.calls) (t : Nat) : c'.awaiting t = c.awaiting t := by
  rw [awaiting, awaiting, stage?, stage?, h]

theorem pending_wait (h : (c.calls.map (·.ticket)).Nodup) (t : Nat) (s : Stage) (m : Method) :
    (c.wait t s).pending m + (c.awaiting t).count m = c.pending m + s.awaits?.toList.count m := by
  cases hs : c.stage? t with
  | none =>
    rw [awaiting, hs]
    exact weigh_enter hs s fun s => s.awaits?.toList.count m
  | some s' =>
    rw [awaiting_eq hs]
    exact weigh_wait h hs s fun s => s.awaits?.toList.count m

theorem pending_finish (h : (c.calls.map (·.ticket)).Nodup) (t : Nat) (m : Method) :
    (c.finish t).pending m + (c.awaiting t).count m = c.pending m := by
  cases hs : c.stage? t with
  | none =>
    have hw := weigh_enter hs .dialing fun s => s.awaits?.toList.count m
    rw [awaiting, hs]
    exact (Nat.zero_add _).symm.trans hw
  | some s' =>
    rw [awaiting_eq hs]
    exact weigh_finish h hs fun s => s.awaits?.toList.count m

theorem renews_wait {u : Nat} (h : (c.wait t s).Renews u k) :
    c.Renews u k ∨ u = t ∧ s.renews? = some k := by
  obtain ⟨s', hs, hk⟩ := h
  rw [stage?_wait] at hs
  split at hs
  · rename_i hu
    cases hs
    exact .inr ⟨hu, hk⟩
  · exact .inl ⟨s', hs, hk⟩

theorem renews_finish {u : Nat} (h : (c.finish t).Renews u k) : c.Renews u k := by
  obtain ⟨s', hs, hk⟩ := h
  rw [stage?_finish] at hs
  split at hs
  · cases hs
  · exact ⟨s', hs, hk⟩

theorem Renews.congr {u : Nat} (h : c'.Renews u k) (hc : c'.calls = c.calls) : c.Renews u k := by
  obtain ⟨s, hs, hk⟩ := h
  refine ⟨s, ?_, hk⟩
  rwa [stage?, hc] at hs

/-! ### Parts of an event -/

/-- Outputs that are not about requests. -/
structure Quiet (out : List Output) : Prop where
  requests : requests out = []
  updates : updates out = []

theorem Quiet.append (h : Quiet out) (h' : Quiet out') : Quiet (out ++ out') where
  requests := List.filterMap_append.trans (List.append_eq_nil_iff.mpr ⟨h.requests, h'.requests⟩)
  updates := List.filterMap_append.trans (List.append_eq_nil_iff.mpr ⟨h.updates, h'.updates⟩)

theorem quiet_of_forall (h : ∀ o ∈ out, o.request? = none ∧ o.update? = none) : Quiet out where
  requests := List.filterMap_eq_nil_iff.mpr fun o ho => (h o ho).1
  updates := List.filterMap_eq_nil_iff.mpr fun o ho => (h o ho).2

namespace Carries

theorem still (h : (c.calls.map (·.ticket)).Nodup) (ha : r.1.address = c.address)
    (hc : r.1.calls = c.calls) (hq : Quiet r.2) : Carries c {} r where
  address := ha
  tickets := hc ▸ h
  told := hq.updates
  even := fun m => by
    rw [hq.requests, pending, pending, weigh, weigh, hc]
    simp
  sent := ⟨[], hq.requests, nofun⟩
  stored := fun t k hr => .inl (hr.congr hc)

/-- What else a client holds makes no difference. -/
theorem congr (h : Carries c' n r) (ha : c'.address = c.address) (hc : c'.calls = c.calls) :
    Carries c n r := by
  have hp : ∀ m, c'.pending m = c.pending m := fun m => by rw [pending, pending, weigh, weigh, hc]
  exact {
    address := h.address.trans ha
    tickets := h.tickets
    told := ha ▸ h.told
    even := fun m => hp m ▸ h.even m
    sent := by
      obtain ⟨renewed, hs, hr⟩ := h.sent
      exact ⟨renewed, hs, fun p hm => (hr p hm).imp_right fun ⟨t, ht⟩ =>
        ⟨t, ht.imp_left (·.congr hc)⟩⟩
    stored := fun t k hk => (h.stored t k hk).imp_left (·.congr hc) }

theorem trans (h : Carries c n (c', out)) (h' : Carries c' {} r) :
    Carries c n (r.1, out ++ r.2) where
  address := h'.address.trans h.address
  tickets := h'.tickets
  told := by
    rw [updates, List.filterMap_append]
    exact (congrArg₂ _ h.told h'.told).trans (List.append_nil _)
  even := fun m => by
    have h₁ := h.even m
    have h₂ := h'.even m
    rw [requests, List.filterMap_append, List.map_append, List.count_append]
    simp only [requests, List.map_nil, List.count_nil] at h₁ h₂ ⊢
    omega
  sent := by
    obtain ⟨renewed, hs, hr⟩ := h.sent
    obtain ⟨renewed', hs', hr'⟩ := h'.sent
    refine ⟨renewed ++ renewed', ?_, fun p hp => ?_⟩
    · rw [requests, List.filterMap_append]
      exact (congrArg₂ _ hs hs').trans (List.append_assoc ..)
    · rcases List.mem_append.mp hp with hp | hp
      · exact hr p hp
      · -- A call that renews after the first part did so before it, or has stored in it.
        obtain ⟨hm, t, ht | ht⟩ := hr' p hp
        · exact ⟨hm, t, h.stored _ _ ht⟩
        · cases ht
  stored := fun t k hr => (h'.stored t k hr).elim (h.stored t k) nofun

theorem wait (h : (c.calls.map (·.ticket)).Nodup) (t : Nat)
    (renewed : List (ConnectionId × Method)) (hu : updates out = [])
    (hr : requests out = n.asked ++ renewed)
    (hm : (n.asked ++ renewed).map (·.2) = s.awaits?.toList) (he : n.ended = [])
    (hd : n.dropped = c.awaiting t)
    (hp : ∀ p ∈ renewed, p.2 = .subscribeNewBlockTemplate ∧ ∃ t, c.Renews t p.1)
    (hs : ∀ k, s.renews? = some k → c.Renews t k ∨ (t, k) ∈ n.stored) :
    Carries c n (c.wait t s, out) where
  address := rfl
  tickets := nodup_wait h t s
  told := by rw [hu, he]; rfl
  even := fun m => by
    have hp := pending_wait h t s m
    rw [hr, hm, he, hd]
    simp only [List.map_nil, List.count_nil]
    omega
  sent := ⟨renewed, hr, fun p hm => (hp p hm).imp_right fun ⟨t, ht⟩ => ⟨t, .inl ht⟩⟩
  stored := fun u k hk => (renews_wait hk).elim .inl fun ⟨hu, hk⟩ => hu ▸ hs k hk

/-- A call ends, and something else may change with it. -/
theorem finish (h : (c.calls.map (·.ticket)).Nodup) (t : Nat) (ha : c'.address = c.address)
    (hc : c'.calls = c.calls) (hq : Quiet out) :
    Carries c { dropped := c.awaiting t } (c'.finish t, out) := by
  have hf : Carries c' { dropped := c'.awaiting t } (c'.finish t, out) := {
    address := rfl
    tickets := nodup_finish (hc ▸ h) t
    told := hq.updates
    even := fun m => by
      have hp := pending_finish (hc ▸ h : (c'.calls.map (·.ticket)).Nodup) t m
      rw [hq.requests]
      simp only [List.map_nil, List.count_nil]
      omega
    sent := ⟨[], hq.requests, nofun⟩
    stored := fun u k hk => .inl (renews_finish hk) }
  exact awaiting_congr hc t ▸ hf.congr ha hc

theorem log_cons (h : Carries c n (c', out)) (e : LogEntry) : Carries c n (c', .log e :: out) where
  address := h.address
  tickets := h.tickets
  told := h.told
  even := h.even
  sent := h.sent
  stored := h.stored

/-- A request has come to its end, and is not given up. -/
theorem ending {m : Method} (h : Carries c { dropped := [m] } (c', out)) (b : Bool) :
    Carries c { ended := [(m, b)] } (c', c.countRequest m b :: out) where
  address := h.address
  tickets := h.tickets
  told := congrArg (_ :: ·) h.told
  even := fun m' => by
    show c.pending m' + ((requests out).map (·.2)).count m' = _
    simpa using h.even m'
  sent := h.sent
  stored := h.stored

end Carries

/-- A call goes on to renew, and something else may change with it. -/
theorem renew_carries (c' : Client) (h : (c.calls.map (·.ticket)).Nodup)
    (ha : c'.address = c.address) (hc : c'.calls = c.calls) (hr : c.Renews t k)
    (rs : List RegistrationId) :
    Carries c { dropped := c.awaiting t } (c'.renew t k rs) := by
  cases rs with
  | nil => exact .finish h t ha hc ⟨rfl, rfl⟩
  | cons r rest =>
    have hr' : c'.Renews t k := hr.congr hc.symm
    have hw : Carries c' { dropped := c'.awaiting t } (c'.renew t k (r :: rest)) := by
      refine .wait (hc ▸ h) t [(k, .subscribeNewBlockTemplate)] rfl rfl rfl rfl rfl
        (fun p hp => ?_) fun k' hk' => ?_
      · cases List.mem_singleton.mp hp
        exact ⟨rfl, t, hr'⟩
      · cases hk'
        exact .inl hr'
    exact awaiting_congr hc t ▸ hw.congr ha hc

theorem quiet_drain (c : Client) (t : Nat) : Quiet (c.drain t).2 := by
  refine quiet_of_forall fun o ho => ?_
  rcases List.mem_append.mp ho with ho | ho
  · split at ho
    · cases List.mem_singleton.mp ho
      exact ⟨rfl, rfl⟩
    · cases ho
  · cases List.mem_singleton.mp ho
    exact ⟨rfl, rfl⟩

theorem underLock_carries (h : (c.calls.map (·.ticket)).Nodup) (t : Nat) :
    Carries c {} (c.underLock t) := by
  -- Who stands in line waits for no answer, so nothing is given up as it leaves.
  have nothing {r : Client × List Output} {s : Stage} (hs : c.stage? t = some s)
      (ha : s.awaits? = none) (hc : Carries c { dropped := c.awaiting t } r) : Carries c {} r := by
    rw [awaiting_eq hs, ha] at hc
    exact hc
  unfold underLock
  split
  · rename_i k key hs
    exact nothing hs rfl (.finish h t rfl rfl ⟨rfl, rfl⟩)
  · rename_i k hs
    exact nothing hs rfl (renew_carries { c with listed := c.listed.filter c.isActive } h rfl
      rfl ⟨_, hs, rfl⟩ _)
  · rename_i hs
    obtain ⟨f, -, -, hd⟩ := drain_eq c t
    refine nothing hs rfl ?_
    rw [show c.drain t = ((c.drain t).1, (c.drain t).2) from rfl, hd]
    exact .finish h t rfl rfl (quiet_drain c t)
  · exact .still h rfl rfl ⟨rfl, rfl⟩

/-- A call gets in line for the lock, where it waits for no answer, and something else may change
with it. -/
theorem takeLock_carries (h : (c.calls.map (·.ticket)).Nodup) (ha : c'.address = c.address)
    (hc : c'.calls = c.calls) (hs : s.awaits? = none)
    (hn : n = { dropped := c.awaiting t, stored := (s.renews?.map (t, ·)).toList }) :
    Carries c n (c'.takeLock t s) := by
  have hw : Carries c n (c'.enqueue t s, []) := by
    refine (Carries.wait (c := { c' with lock := c'.lock ++ [t] }) (s := s) (hc ▸ h) t [] rfl
      ?_ ?_ ?_ ?_ nofun fun k hk => .inr ?_).congr ha hc
    · rw [hn]
      rfl
    · rw [hn, hs]
      rfl
    · rw [hn]
    · rw [hn]
      exact (awaiting_congr hc t).symm
    · simp [hn, hk]
  show Carries c n (if (c'.enqueue t s).holdsLock t then (c'.enqueue t s).underLock t
    else (c'.enqueue t s, []))
  split
  · exact hw.trans (underLock_carries hw.tickets t)
  · exact hw

theorem begin_carries (h : (c.calls.map (·.ticket)).Nodup) (hs : c.stage? t = none) (task : Task) :
    Carries c (c.traffic (.begin t task)) (c.begin t task) := by
  have ha : c.awaiting t = [] := by rw [awaiting, hs]; rfl
  cases task with
  | query q =>
    unfold begin traffic
    cases hk : c.slot with
    | none => exact .still h rfl rfl ⟨rfl, rfl⟩
    | some k =>
      exact .wait h t [] rfl rfl rfl rfl ha.symm nofun nofun
  | register =>
    unfold begin traffic
    cases hk : c.slot with
    | none => exact .still h rfl rfl ⟨rfl, rfl⟩
    | some k => exact .wait h t [] rfl rfl rfl rfl ha.symm nofun nofun
  | reconnect => exact .wait h t [] rfl rfl rfl rfl ha.symm nofun nofun
  | disconnect =>
    refine takeLock_carries h rfl rfl rfl ?_
    rw [ha]
    rfl

theorem answered_carries (h : (c.calls.map (·.ticket)).Nodup) (t : Nat)
    (r : Except Node.ClientError Unit) :
    Carries c (c.traffic (.answered t r)) (c.answered t r) := by
  unfold answered traffic
  dsimp only
  cases hs : c.stage? t with
  | none => exact .still h rfl rfl ⟨rfl, rfl⟩
  | some s =>
    cases s with
    | asking q k =>
      have hf {res : Result} : Carries c { dropped := [q.metric] } (c.finish t, [.done t res]) := by
        have hf : Carries c { dropped := c.awaiting t } (c.finish t, [.done t res]) :=
          .finish h t rfl rfl ⟨rfl, rfl⟩
        rw [awaiting_eq hs] at hf
        exact hf
      cases r with
      | ok u => exact hf.ending true
      | error e => exact hf.ending false
    | _ => exact .still h rfl rfl ⟨rfl, rfl⟩

theorem subscribed_carries (h : (c.calls.map (·.ticket)).Nodup) (t : Nat)
    (r : Except Node.ClientError Rpc.SubscriptionKey) :
    Carries c (c.traffic (.subscribed t r)) (c.subscribed t r) := by
  unfold subscribed traffic
  dsimp only
  cases hs : c.stage? t with
  | none => exact .still h rfl rfl ⟨rfl, rfl⟩
  | some s =>
    cases s with
    | subscribing k =>
      have ha : c.awaiting t = [.subscribeNewBlockTemplate] := awaiting_eq hs
      cases r with
      | ok key =>
        have hl : Carries c { dropped := [.subscribeNewBlockTemplate] }
            ((c.addStream k key none).takeLock t (.enlisting k key)) :=
          takeLock_carries h rfl rfl rfl (by rw [ha]; rfl)
        exact hl.ending true
      | error e =>
        have hf : Carries c { dropped := c.awaiting t } (c.finish t, [.done t (.refused e)]) :=
          .finish h t rfl rfl ⟨rfl, rfl⟩
        rw [ha] at hf
        exact hf.ending false
    | renewing k current rest =>
      have ha : c.awaiting t = [.subscribeNewBlockTemplate] := awaiting_eq hs
      cases r with
      | ok key =>
        have hr := renew_carries (c.addStream k key (some current)) h rfl rfl ⟨_, hs, rfl⟩ rest
        rw [ha] at hr
        exact hr.ending true
      | error e =>
        have hr := renew_carries (c.cancel current) h rfl rfl ⟨_, hs, rfl⟩ rest
        rw [ha] at hr
        exact (hr.log_cons (c.renewalEntry e)).ending false
    | _ => exact .still h rfl rfl ⟨rfl, rfl⟩

theorem dialed_carries (h : (c.calls.map (·.ticket)).Nodup) (t : Nat)
    (r : Except Node.ClientError ConnectionId) :
    Carries c (c.traffic (.dialed t r)) (c.dialed t r) := by
  unfold dialed
  split
  · rename_i hs
    have ha : c.awaiting t = [] := awaiting_eq hs
    cases r with
    | ok k =>
      refine takeLock_carries h rfl rfl rfl ?_
      rw [ha]
      simp [traffic, hs, Stage.renews?]
    | error e =>
      have hf : Carries c { dropped := c.awaiting t } (c.finish t, [.done t (.refused e)]) :=
        .finish h t rfl rfl ⟨rfl, rfl⟩
      rw [ha] at hf
      exact hf
  · rename_i hs
    have hn : c.traffic (.dialed t r) = {} := by
      cases r with
      | ok k => exact if_neg hs
      | error e => rfl
    rw [hn]
    exact .still h rfl rfl ⟨rfl, rfl⟩

theorem drop_carries (h : (c.calls.map (·.ticket)).Nodup) (t : Nat) :
    Carries c (c.traffic (.drop t)) (c.drop t) := by
  unfold drop
  split
  · exact .finish h t rfl rfl ⟨rfl, rfl⟩
  · exact .finish h t rfl rfl ⟨rfl, rfl⟩
  · rename_i hs
    have hn : c.traffic (.drop t) = {} := by
      rw [traffic, hs]
      rfl
    rw [hn]
    exact .still h rfl rfl ⟨rfl, rfl⟩

theorem react_carries (h : (c.calls.map (·.ticket)).Nodup) {e : Event} (ha : c.admits e = true) :
    Carries c (c.traffic e) (c.react e) := by
  cases e with
  | begin t task => exact begin_carries h (Option.isNone_iff_eq_none.mp ha) task
  | answered t r => exact answered_carries h t r
  | subscribed t r => exact subscribed_carries h t r
  | dialed t r => exact dialed_carries h t r
  | drop t => exact drop_carries h t
  | proceed t =>
    unfold react
    dsimp only
    split
    · exact underLock_carries h t
    · exact .still h rfl rfl ⟨rfl, rfl⟩
  | _ => exact .still h rfl rfl ⟨rfl, rfl⟩

/-! ### A whole event -/

theorem quiet_closeUnheld (c : Client) : Quiet c.closeUnheld.2 := by
  refine quiet_of_forall fun o ho => ?_
  obtain ⟨k, -, rfl⟩ := List.mem_map.mp ho
  exact ⟨rfl, rfl⟩

theorem quiet_streamOutput (c : Client) (s : Stream) (r : RegistrationId) (o : Forwarder.Output) :
    ∀ o' ∈ c.streamOutput s r o, o'.request? = none ∧ o'.update? = none := by
  intro o' ho
  cases o with
  | unsubscribe =>
    unfold streamOutput at ho
    dsimp only at ho
    split at ho
    · cases List.mem_singleton.mp ho
      exact ⟨rfl, rfl⟩
    · cases ho
  | _ =>
    cases List.mem_singleton.mp ho
    exact ⟨rfl, rfl⟩

theorem quiet_runStreams (c : Client) : Quiet c.runStreams.2 := by
  refine quiet_of_forall fun o ho => ?_
  obtain ⟨x, hx, ho⟩ := List.mem_flatMap.mp ho
  obtain ⟨s, -, rfl⟩ := List.mem_map.mp hx
  unfold runStream at ho
  split at ho
  · cases ho
  · obtain ⟨o', -, ho⟩ := List.mem_flatMap.mp ho
    exact quiet_streamOutput c s _ o' o ho

/-- Nothing of a part of an event that is not about requests comes with the rest of it. -/
theorem quiet_step {e : Event} (h : Quiet (c.react e).2) : Quiet (c.step e).2 :=
  (h.append (quiet_closeUnheld _)).append (quiet_runStreams _)

theorem closeUnheld_carries (h : (c.calls.map (·.ticket)).Nodup) : Carries c {} c.closeUnheld := by
  refine .still h ?_ ?_ (quiet_closeUnheld c)
  · rw [closeUnheld_eq]
  · rw [closeUnheld_eq]

theorem runStreams_carries (h : (c.calls.map (·.ticket)).Nodup) : Carries c {} c.runStreams := by
  refine .still h ?_ ?_ (quiet_runStreams c)
  · rw [runStreams_eq]
  · rw [runStreams_eq]

theorem step_carries (h : (c.calls.map (·.ticket)).Nodup) {e : Event} (ha : c.admits e = true) :
    Carries c (c.traffic e) (c.step e) := by
  have hr := react_carries h ha
  have hc := hr.trans (closeUnheld_carries hr.tickets)
  exact hc.trans (runStreams_carries hc.tickets)

/-- A call that finds no connection is refused. -/
theorem quiet_refused (hk : c.slot = none) (t : Nat) (task : Task) (ht : task.isRequest = true) :
    Quiet (c.step (.begin t task)).2 := by
  refine quiet_step ?_
  cases task with
  | query q =>
    unfold react begin
    simp only [hk]
    exact ⟨rfl, rfl⟩
  | register =>
    unfold react begin
    simp only [hk]
    exact ⟨rfl, rfl⟩
  | _ => cases ht

theorem quiet_drop (c : Client) (t : Nat) : Quiet (c.step (.drop t)).2 := by
  refine quiet_step ?_
  unfold react drop
  dsimp only
  split <;> exact ⟨rfl, rfl⟩

/-- A connection that a call has dialed is in the slot. -/
theorem slot_dialed (h : c.stage? t = some .dialing) (k : ConnectionId) :
    (c.step (.dialed t (.ok k))).1.slot = some k := by
  have renewing (c' : Client) (rs : List RegistrationId) : (c'.renew t k rs).1.slot = c'.slot := by
    cases rs <;> rfl
  have hr : (c.react (.dialed t (.ok k))).1.slot = some k := by
    unfold react dialed takeLock underLock
    simp only [h]
    split
    · rw [stage?_wait, if_pos rfl]
      exact renewing _ _
    · rfl
  show ((c.react (.dialed t (.ok k))).1.closeUnheld.1.runStreams.1).slot = some k
  rw [runStreams_eq, closeUnheld_eq]
  exact hr

end Client
end WorkBridge.Link
