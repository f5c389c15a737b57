import WorkBridge.Dialogue.World
import WorkBridge.Proofs.Link.Attempts
import WorkBridge.Proofs.Metrics.Requests

/-!
The clients of one node, and what metrics tell about their requests.

A client is made by a first connection; before it is dialed the metrics of the node are touched.
Whatever happens to the clients, the counters show how the requests to the node have ended, and
those that were given up or are still waited for do not show (`requests_accounted`).
-/

namespace WorkBridge.Link

open Client (Traffic Output requests updates outcome)
open Metrics (Method Registry Update durationKey requestsKey)

/-- The clients of a node. -/
structure Fleet where
  address : Node.Address
  /-- How many of them wait for their first connection. -/
  dialing : Nat := 0
  clients : List Client := []

namespace Fleet

inductive Event
  /-- Another client is to be made. -/
  | connect
  /-- A first connection comes about, or it fails or is given up. -/
  | dialed (k : Option ConnectionId)
  | client (i : Nat) (e : Client.Event)

def step (f : Fleet) : Event → Fleet × List Output
  | .connect =>
    match f.address.url with
    | .ok url => ({ f with dialing := f.dialing + 1 }, Client.opening f.address url)
    | .error _ => (f, [])
  | .dialed k =>
    match f.address.url, f.dialing with
    | .ok url, n + 1 =>
      ({ f with dialing := n, clients := f.clients ++ (k.map (Client.new f.address url)).toList },
        [])
    | _, _ => (f, [])
  | .client i e =>
    match f.clients[i]? with
    | some c =>
      if c.admits e then ({ f with clients := f.clients.set i (c.step e).1 }, (c.step e).2)
      else (f, [])
    | none => (f, [])

/-- No client has been made yet. -/
def start (address : Node.Address) : Fleet := { address }

def after (f : Fleet) (es : List Event) : Fleet := es.foldl (fun f e => (f.step e).1) f

/-- What is gathered in a run, event by event. -/
def gather {α : Type} (g : Fleet → Event → List α) (f : Fleet) : List Event → List α
  | [] => []
  | e :: es => g f e ++ (f.step e).1.gather g es

def outputs : Fleet → List Event → List Output := gather fun f e => (f.step e).2

def traffic (f : Fleet) : Event → Traffic
  | .client i e =>
    match f.clients[i]? with
    | some c => if c.admits e then c.traffic e else {}
    | none => {}
  | _ => {}

/-- The requests that end in a run, and whether they are successful. -/
def ended : Fleet → List Event → List (Method × Bool) := gather fun f e => (f.traffic e).ended

/-- The requests that are given up in a run. -/
def dropped : Fleet → List Event → List Method := gather fun f e => (f.traffic e).dropped

def pending (f : Fleet) (m : Method) : Nat := (f.clients.map (·.pending m)).sum

/-- Whether an event begins to make a client. -/
def opens (f : Fleet) : Event → Bool
  | .connect => f.address.url.isOk
  | _ => false

variable {f : Fleet} {e : Event} {i t : Nat} {k : ConnectionId} {c : Client}

theorem after_append (f : Fleet) (es es' : List Event) :
    f.after (es ++ es') = (f.after es).after es' := List.foldl_append

/-! ### One event -/

/-- What holds of all clients at any time. -/
structure Sound (f : Fleet) : Prop where
  address : ∀ c ∈ f.clients, c.address = f.address
  tickets : ∀ c ∈ f.clients, (c.calls.map (·.ticket)).Nodup

theorem step_address (f : Fleet) (e : Event) : (f.step e).1.address = f.address := by
  unfold step
  split
  · split <;> rfl
  · split <;> rfl
  · split
    · split <;> rfl
    · rfl

/-- What the clients are after an event. -/
inductive Stepped (f : Fleet) : Event → Fleet × List Output → Prop
  | idle (e : Event) (ho : f.opens e = false) (ht : f.traffic e = {}) : Stepped f e (f, [])
  | opened (url : Url) (hu : f.address.url = .ok url) :
      Stepped f .connect ({ f with dialing := f.dialing + 1 }, Client.opening f.address url)
  | dialed (k : Option ConnectionId) (url : Url) (n : Nat) :
      Stepped f (.dialed k) ({ f with
        dialing := n
        clients := f.clients ++ (k.map (Client.new f.address url)).toList }, [])
  | moved (i : Nat) (e : Client.Event) (c : Client) (hc : f.clients[i]? = some c)
      (ha : c.admits e = true) :
      Stepped f (.client i e) ({ f with clients := f.clients.set i (c.step e).1 }, (c.step e).2)

theorem step_cases (f : Fleet) (e : Event) : Stepped f e (f.step e) := by
  cases e with
  | connect =>
    unfold step
    dsimp only
    split
    · rename_i url hu
      exact .opened url hu
    · rename_i i hu
      exact .idle _ (by simp [opens, hu, Except.isOk, Except.toBool]) rfl
  | dialed k =>
    unfold step
    dsimp only
    split
    · exact .dialed k _ _
    · exact .idle _ rfl rfl
  | client i e =>
    unfold step
    dsimp only
    split
    · rename_i c hc
      split
      · rename_i ha
        exact .moved i e c hc ha
      · rename_i ha
        exact .idle _ rfl (by simp [traffic, hc, ha])
    · rename_i hc
      exact .idle _ rfl (by simp [traffic, hc])

theorem traffic_moved {e : Client.Event} (hc : f.clients[i]? = some c) (ha : c.admits e = true) :
    f.traffic (.client i e) = c.traffic e := by
  simp [traffic, hc, ha]

theorem pending_set (hc : f.clients[i]? = some c) (c' : Client) (m : Method) :
    ({ f with clients := f.clients.set i c' } : Fleet).pending m + c.pending m =
      f.pending m + c'.pending m :=
  Client.sum_map_set (·.pending m) hc c'

structure Carries (f : Fleet) (e : Event) (r : Fleet × List Output) : Prop where
  sound : Sound r.1
  told : updates r.2 = (if f.opens e then [Update.clientZero f.address.text] else []) ++
    (f.traffic e).ended.map (outcome f.address.text)
  even : ∀ m, f.pending m + ((requests r.2).map (·.2)).count m =
    ((f.traffic e).ended.map (·.1)).count m + (f.traffic e).dropped.count m + r.1.pending m

theorem step_carries (hs : Sound f) (e : Event) : Carries f e (f.step e) := by
  have h := f.step_cases e
  generalize f.step e = r at h ⊢
  cases h with
  | idle e ho ht =>
    refine ⟨hs, ?_, fun m => ?_⟩
    · rw [ho, ht]
      rfl
    · rw [ht]
      simp [requests]
  | opened url hu =>
    refine ⟨⟨hs.address, hs.tickets⟩, ?_, fun m => ?_⟩
    · rw [opens, hu]
      rfl
    · show f.pending m + 0 = 0 + 0 + f.pending m
      omega
  | dialed k url n =>
    refine ⟨⟨fun c hc => ?_, fun c hc => ?_⟩, rfl, fun m => ?_⟩
    · rcases List.mem_append.mp hc with hc | hc
      · exact hs.address c hc
      · obtain ⟨k', -, rfl⟩ := Option.map_eq_some_iff.mp (Option.mem_toList.mp hc)
        rfl
    · rcases List.mem_append.mp hc with hc | hc
      · exact hs.tickets c hc
      · obtain ⟨k', -, rfl⟩ := Option.map_eq_some_iff.mp (Option.mem_toList.mp hc)
        exact List.nodup_nil
    · have hz : ((k.map (Client.new f.address url)).toList.map (·.pending m)).sum = 0 := by
        cases k <;> rfl
      unfold pending
      rw [List.map_append, List.sum_append, hz]
      show _ + 0 = 0 + 0 + (_ + 0)
      omega
  | moved i e c hc ha =>
    have hm : c ∈ f.clients := List.mem_of_getElem? hc
    have h := Client.step_carries (hs.tickets c hm) ha
    refine ⟨⟨fun c' hc' => ?_, fun c' hc' => ?_⟩, ?_, fun m => ?_⟩
    · rcases List.mem_or_eq_of_mem_set hc' with hc' | rfl
      · exact hs.address c' hc'
      · exact h.address.trans (hs.address c hm)
    · rcases List.mem_or_eq_of_mem_set hc' with hc' | rfl
      · exact hs.tickets c' hc'
      · exact h.tickets
    · rw [traffic_moved hc ha, ← hs.address c hm]
      exact h.told
    · have he := h.even m
      have hp := pending_set hc (c.step e).1 m
      rw [traffic_moved hc ha]
      dsimp only
      omega

theorem sound_start (address : Node.Address) : Sound (start address) := ⟨nofun, nofun⟩

theorem Sound.after (hs : Sound f) (es : List Event) : Sound (f.after es) := by
  induction es generalizing f with
  | nil => exact hs
  | cons e es ih => exact ih (step_carries hs e).sound

/-! ### Runs -/

theorem opens_step (f : Fleet) (e : Event) : (f.step e).1.opens = f.opens := by
  funext e'
  cases e' with
  | connect => rw [opens, opens, step_address]
  | _ => rfl

/-- Of what metrics are told in a run as much is of one sort as of the clients that are to be made
and of the requests that end. -/
theorem countP_updates (hs : Sound f) (p : Update → Bool) (es : List Event) :
    (updates (f.outputs es)).countP p =
      (if p (.clientZero f.address.text) then es.countP f.opens else 0) +
        (f.ended es).countP (p ∘ outcome f.address.text) := by
  induction es generalizing f with
  | nil => simp [outputs, ended, gather, updates]
  | cons e es ih =>
    have h := step_carries hs e
    have ih := ih h.sound
    rw [step_address, opens_step] at ih
    have hout : updates (f.outputs (e :: es)) =
        updates (f.step e).2 ++ updates ((f.step e).1.outputs es) := List.filterMap_append
    have hended : f.ended (e :: es) = (f.traffic e).ended ++ (f.step e).1.ended es := rfl
    rw [hout, hended, List.countP_append, List.countP_append, ih, h.told, List.countP_append,
      List.countP_map, List.countP_cons]
    by_cases ho : f.opens e = true <;> by_cases hp : p (.clientZero f.address.text) = true <;>
      simp [ho, hp] <;> omega

/-- The requests that are sent in a run end in it, or are given up, or are waited for after it. -/
theorem count_requests (hs : Sound f) (es : List Event) (m : Method) :
    f.pending m + ((requests (f.outputs es)).map (·.2)).count m =
      ((f.ended es).map (·.1)).count m + (f.dropped es).count m + (f.after es).pending m := by
  induction es generalizing f with
  | nil => simp [outputs, ended, dropped, gather, requests, after]
  | cons e es ih =>
    have h := step_carries hs e
    have ih := ih h.sound
    have he := h.even m
    have hout : requests (f.outputs (e :: es)) =
        requests (f.step e).2 ++ requests ((f.step e).1.outputs es) := List.filterMap_append
    have hended : f.ended (e :: es) = (f.traffic e).ended ++ (f.step e).1.ended es := rfl
    have hdropped : f.dropped (e :: es) = (f.traffic e).dropped ++ (f.step e).1.dropped es := rfl
    rw [hout, hended, hdropped, List.map_append, List.map_append, List.count_append,
      List.count_append, List.count_append]
    show _ = _ + ((f.step e).1.after es).pending m
    omega

/-! ### Renewals -/

/-- A call of a client dials a connection, which is put into the slot. -/
def Stores (f : Fleet) (i t : Nat) (k : ConnectionId) (es : List Event) : Prop :=
  ∃ before since, es = before ++ .client i (.dialed t (.ok k)) :: since ∧
    (f.after (before ++ [.client i (.dialed t (.ok k))])).clients[i]?.bind (·.slot) = some k

theorem Stores.snoc {es : List Event} (h : f.Stores i t k es) (e : Event) :
    f.Stores i t k (es ++ [e]) := by
  obtain ⟨before, since, rfl, hk⟩ := h
  exact ⟨before, since ++ [e], by simp, hk⟩

/-- A call that is dialing puts what it gets into the slot. -/
theorem stored_iff {e : Client.Event} :
    (t, k) ∈ (c.traffic e).stored ↔ e = .dialed t (.ok k) ∧ c.stage? t = some .dialing := by
  constructor
  · intro h
    cases e with
    | dialed t' r =>
      cases r with
      | ok k' =>
        unfold Client.traffic at h
        dsimp only at h
        split at h
        · rename_i hs
          cases List.mem_singleton.mp h
          exact ⟨rfl, hs⟩
        · cases h
      | error e => cases h
    | begin t' task => cases task <;> cases h
    | answered t' r =>
      unfold Client.traffic at h
      dsimp only at h
      split at h <;> cases h
    | subscribed t' r =>
      unfold Client.traffic at h
      dsimp only at h
      split at h <;> cases h
    | _ => cases h
  · rintro ⟨rfl, hs⟩
    simp [Client.traffic, hs]

theorem stores_of_stored {f : Fleet} {es : List Event} {e : Client.Event}
    (hc : (f.after es).clients[i]? = some c) (ha : c.admits e = true)
    (hm : (t, k) ∈ (c.traffic e).stored) : f.Stores i t k (es ++ [.client i e]) := by
  obtain ⟨rfl, hd⟩ := stored_iff.mp hm
  refine ⟨es, [], rfl, ?_⟩
  have hlt : i < (f.after es).clients.length := (List.getElem?_eq_some_iff.mp hc).1
  have hstep : (f.after es).step (.client i (.dialed t (.ok k))) =
      ({ f.after es with clients := (f.after es).clients.set i (c.step (.dialed t (.ok k))).1 },
        (c.step (.dialed t (.ok k))).2) := by
    simp [step, hc, ha]
  show (((f.after (es ++ [_])).clients[i]?).bind _) = _
  rw [after_append]
  show ((((f.after es).step _).1.clients[i]?).bind _) = _
  rw [hstep]
  simp [hlt, Client.slot_dialed hd k]

/-- A call that renews registrations has dialed the connection on which it does. -/
theorem stores_of_renews (address : Node.Address) (es : List Event)
    (hc : ((start address).after es).clients[i]? = some c) (hr : c.Renews t k) :
    (start address).Stores i t k es := by
  induction es using List.reverseRecOn generalizing c with
  | nil => cases hc
  | append_singleton es e ih =>
    have hs := (sound_start address).after es
    have hafter : (start address).after (es ++ [e]) = (((start address).after es).step e).1 :=
      after_append ..
    rw [hafter] at hc
    have h := ((start address).after es).step_cases e
    generalize hr' : ((start address).after es).step e = r at h hc
    cases h with
    | idle e ho ht => exact (ih hc hr).snoc _
    | opened url hu => exact (ih hc hr).snoc _
    | dialed k' url n =>
      have hc : (((start address).after es).clients ++
          (k'.map (Client.new ((start address).after es).address url)).toList)[i]? = some c := hc
      rw [List.getElem?_append] at hc
      split at hc
      · exact (ih hc hr).snoc _
      · -- A new client has no calls.
        have hnew := Option.mem_toList.mp (List.mem_of_getElem? hc)
        obtain ⟨_, -, rfl⟩ := Option.map_eq_some_iff.mp hnew
        obtain ⟨s, hs', -⟩ := hr
        cases hs'
    | moved i' e c' hc' ha =>
      -- What other clients do makes no difference.
      by_cases hi : i' = i
      · subst hi
        have hlt : i' < ((start address).after es).clients.length :=
          (List.getElem?_eq_some_iff.mp hc').1
        obtain rfl : (c'.step e).1 = c := by
          simpa [hlt] using hc
        have hcarries := Client.step_carries (hs.tickets c' (List.mem_of_getElem? hc')) ha
        exact (hcarries.stored t k hr).elim (fun hr => (ih hc' hr).snoc _) (stores_of_stored hc' ha)
      · exact (ih (by simpa [List.getElem?_set_ne hi] using hc) hr).snoc _

/-- What is sent goes to the connection in the slot, but for renewals. -/
theorem requests_step (address : Node.Address) (es : List Event) (e : Event) :
    ∃ renewed, requests (((start address).after es).step e).2 =
        (((start address).after es).traffic e).asked ++ renewed ∧
      ∀ p ∈ renewed, p.2 = .subscribeNewBlockTemplate ∧
        ∃ i t, (start address).Stores i t p.1 (es ++ [e]) := by
  have hs := (sound_start address).after es
  have h := ((start address).after es).step_cases e
  generalize hr : ((start address).after es).step e = r at h ⊢
  cases h with
  | idle e ho ht => exact ⟨[], by rw [ht]; rfl, nofun⟩
  | opened url hu => exact ⟨[], rfl, nofun⟩
  | dialed k url n => exact ⟨[], rfl, nofun⟩
  | moved i e c hc ha =>
    have hcarries := Client.step_carries (hs.tickets c (List.mem_of_getElem? hc)) ha
    obtain ⟨renewed, hsent, hrenewed⟩ := hcarries.sent
    refine ⟨renewed, by rw [traffic_moved hc ha]; exact hsent, fun p hp => ?_⟩
    obtain ⟨hm, t, ht⟩ := hrenewed p hp
    refine ⟨hm, i, t, ?_⟩
    rcases ht with ht | ht
    · exact (stores_of_renews address es hc ht).snoc _
    · exact stores_of_stored hc ha ht

/-! ### Answers -/

/-- A query is successful as it is answered with what can be read. -/
theorem answer_isOk (w : Dialogue.World) {client t : Nat} {q : Node.Query} {k : ConnectionId}
    (h : w.clients[client]?.bind (·.stage? t) = some (.asking q k))
    (r : Except Node.CallError Json.Draft) :
    ∃ o, (w.answer client t r).2 = [.event client (.answered t o)] ∧
      (o.isOk = true ↔ ∃ d a, r = .ok d ∧ q.decode Json.maxDepth d = .ok a) := by
  unfold Dialogue.World.answer
  rw [h]
  cases r with
  | error e => exact ⟨.error (.rpc (.call e)), rfl, by simp [Except.isOk, Except.toBool]⟩
  | ok d =>
    cases hd : q.decode Json.maxDepth d with
    | ok a => exact ⟨.ok (), by simp [hd], by simp [hd, Except.isOk, Except.toBool]⟩
    | error e => exact ⟨.error (.rpc (.parse (q.complaint d))), by simp [hd],
        by simp [hd, Except.isOk, Except.toBool]⟩

/-! ### The account -/

theorem count_outcome (node : String) (m : Method) (b : Bool) (rs : List (Method × Bool)) :
    rs.countP ((· == Update.request m node b) ∘ outcome node) = rs.count (m, b) := by
  refine List.countP_congr fun r _ => ?_
  obtain ⟨m', b'⟩ := r
  simp [outcome, Prod.ext_iff]

theorem countP_samples_outcome (node : String) (m : Method) (rs : List (Method × Bool)) :
    rs.countP (Update.samples m node ∘ outcome node) = (rs.map (·.1)).count m := by
  rw [List.count, List.countP_map]
  refine List.countP_congr fun r _ => ?_
  simp [outcome, Update.samples]

theorem count_fst (m : Method) (rs : List (Method × Bool)) :
    rs.count (m, true) + rs.count (m, false) = (rs.map (·.1)).count m := by
  induction rs with
  | nil => rfl
  | cons r rs ih =>
    obtain ⟨m', b⟩ := r
    by_cases hm : m' = m <;> cases b <;> simp [hm] <;> omega

/-- Metrics are told of what the clients of a node do, and between that of other things.  However
their calls overlap and whichever of them are dropped:

* the counters show how many requests of each kind have ended, in success and in failure;
* the histogram has a sample for each of them, and one more for each client that was to be made
  with an address that can be dialed;
* of the requests that were sent, those that do not show have been given up or are still waited
  for;
* what is sent goes to the connection that its call found in the slot or, where a registration is
  renewed, to the one that the call itself has put there, and a call that finds none in the slot
  sends nothing and is not told of, as little as one that is dropped;
* a query is successful as it is answered with what can be read. -/
theorem requests_accounted (address : Node.Address) (es : List Event) (us : List Update)
    (hu : us.filter (·.concerns address.text) = updates ((start address).outputs es))
    (m : Method) :
    let f := start address
    let metrics := us.foldl Update.apply []
    let succeeded := Registry.total metrics (requestsKey true m address.text)
    let failed := Registry.total metrics (requestsKey false m address.text)
    (succeeded = (f.ended es).count (m, true) ∧ failed = (f.ended es).count (m, false)) ∧
    Registry.samples metrics (durationKey m address.text) =
      succeeded + failed + es.countP f.opens ∧
    ((requests (f.outputs es)).map (·.2)).count m =
      succeeded + failed + (f.dropped es).count m + (f.after es).pending m ∧
    (∀ before e since, es = before ++ e :: since →
      ∃ renewed, requests ((f.after before).step e).2 =
          ((f.after before).traffic e).asked ++ renewed ∧
        ∀ p ∈ renewed, p.2 = .subscribeNewBlockTemplate ∧
          ∃ i t, f.Stores i t p.1 (before ++ [e])) ∧
    (∀ (c : Client) (t : Nat), Client.Quiet (c.step (.drop t)).2 ∧
      ∀ task, c.slot = none → task.isRequest = true → Client.Quiet (c.step (.begin t task)).2) ∧
    (∀ (w : Dialogue.World) (client t : Nat) (q : Node.Query) (k : ConnectionId)
        (r : Except Node.CallError Json.Draft),
      w.clients[client]?.bind (·.stage? t) = some (.asking q k) →
        ∃ o, (w.answer client t r).2 = [.event client (.answered t o)] ∧
          (o.isOk = true ↔ ∃ d a, r = .ok d ∧ q.decode Json.maxDepth d = .ok a)) := by
  intro f metrics succeeded failed
  have hs : Sound f := sound_start address
  -- Any sort of updates of the node is counted by what the clients tell.
  have htold : ∀ p, (updates (f.outputs es)).countP p =
      (if p (.clientZero address.text) then es.countP f.opens else 0) +
        (f.ended es).countP (p ∘ outcome address.text) := fun p => countP_updates hs p es
  have hcount : ∀ b, us.count (.request m address.text b) = (f.ended es).count (m, b) := by
    intro b
    rw [← List.count_filter (p := (·.concerns address.text)) (by simp [Update.concerns]), hu,
      List.count, htold, count_outcome]
    simp
  have hsucceeded : succeeded = (f.ended es).count (m, true) :=
    (Update.requests_total us true m _).trans (hcount true)
  have hfailed : failed = (f.ended es).count (m, false) :=
    (Update.requests_total us false m _).trans (hcount false)
  have hboth : succeeded + failed = ((f.ended es).map (·.1)).count m := by
    rw [hsucceeded, hfailed, count_fst]
  refine ⟨⟨hsucceeded, hfailed⟩, ?_, ?_, fun before e since he => ?_, fun c t => ⟨?_, ?_⟩, ?_⟩
  · have hfilter : us.countP (Update.samples m address.text) =
        (us.filter (·.concerns address.text)).countP (Update.samples m address.text) := by
      rw [List.countP_filter]
      refine List.countP_congr fun u _ => ?_
      cases u <;> simp [Update.samples, Update.concerns]
    rw [Update.requests_samples, hfilter, hu, htold, countP_samples_outcome, hboth]
    simp [Update.samples, Nat.add_comm]
  · have hr := count_requests hs es m
    have hp : f.pending m = 0 := rfl
    rw [hboth]
    omega
  · exact requests_step address before e
  · exact Client.quiet_drop c t
  · exact fun task hk ht => Client.quiet_refused hk t task ht
  · exact fun w client t q k r hq => answer_isOk w hq r

def nearby : Node.Address := ⟨"ws://n"⟩

/-- A client registers, drops a query, reconnects, by which the registration is renewed in vain,
disconnects and is asked once more. -/
def busy : List Event := [
  .connect, .dialed (some 1), .client 0 (.begin 0 .register),
  .client 0 (.subscribed 0 (.ok (.number 5))), .client 0 (.begin 1 (.query .info)),
  .client 0 (.drop 1), .client 0 (.begin 2 .reconnect), .client 0 (.dialed 2 (.ok 2)),
  .client 0 (.subscribed 2 (.error .disconnected)), .client 0 (.begin 3 .disconnect),
  .client 0 (.begin 4 .register)]

/-- What metrics are told meanwhile, with a request to another node in between. -/
def busyUpdates : List Update := [
  .clientZero "ws://n", .request .subscribeNewBlockTemplate "ws://n" true,
  .request .subscribeNewBlockTemplate "" true,
  .request .subscribeNewBlockTemplate "ws://n" false]

theorem busy_accounted :
    busyUpdates.filter (·.concerns nearby.text) = updates ((start nearby).outputs busy) ∧
      Registry.samples (busyUpdates.foldl Update.apply [])
        (durationKey .subscribeNewBlockTemplate nearby.text) = 3 := by
  have hu : busyUpdates.filter (·.concerns nearby.text) =
      updates ((start nearby).outputs busy) := by decide +kernel
  have h := requests_accounted nearby busy busyUpdates hu .subscribeNewBlockTemplate
  have hs : ((start nearby).ended busy).count (.subscribeNewBlockTemplate, true) = 1 := by
    decide +kernel
  have hf : ((start nearby).ended busy).count (.subscribeNewBlockTemplate, false) = 1 := by
    decide +kernel
  have ho : busy.countP (start nearby).opens = 1 := by decide +kernel
  refine ⟨hu, h.2.1.trans ?_⟩
  rw [h.1.1, h.1.2, hs, hf, ho]

end Fleet
end WorkBridge.Link
