import WorkBridge.Proofs.Link.Acts

/-!
What a client does does not depend on whether items can be read.

`blank` forgets it of the items that wait.  Every act comes to the same before and after, but for
what is logged of items that cannot be read: `act_blank`.
-/

namespace WorkBridge.Link

def Forwarder.blank (f : Forwarder) : Forwarder :=
  { f with queue := f.queue.map fun _ => .notification }

def Stream.blank (s : Stream) : Stream := { s with forwarder := s.forwarder.blank }

namespace Client

open Forwarder (Branch)

def blank (c : Client) : Client := { c with streams := c.streams.map Stream.blank }

def Event.blank : Event → Event
  | .item k key _ => .item k key .notification
  | e => e

def Act.blank : Act → Act
  | .happen e => .happen e.blank
  | a => a

/-- What is logged of an item that cannot be read. -/
def Output.isComplaint : Output → Bool
  | .log e => e.message = "Undecodable block template notification"
  | _ => false

/-- What is done, but for complaints. -/
def plain (out : List Output) : List Output := out.filter (!·.isComplaint)

/-- What comes of something, with the items forgotten. -/
def blanked (x : Client × List Output) : Client × List Output := (x.1.blank, x.2)

/-! ### Streams -/

theorem blank_map (c : Client) {f g : Stream → Stream} (h : ∀ s, (f s).blank = g s.blank) :
    ({ c with streams := c.streams.map f } : Client).blank =
      { c with streams := c.blank.streams.map g } := by
  unfold blank
  simp only [List.map_map]
  congr 1
  exact List.map_congr_left fun s _ => h s

theorem blank_ite (p : Stream → Prop) [DecidablePred p] (hp : ∀ s, p s.blank ↔ p s)
    (f g : Forwarder → Forwarder) (h : ∀ x, (f x).blank = g x.blank) (s : Stream) :
    (if p s then { s with forwarder := f s.forwarder } else s).blank =
      if p s.blank then { s.blank with forwarder := g s.blank.forwarder } else s.blank := by
  by_cases hs : p s
  · rw [if_pos hs, if_pos ((hp s).mpr hs)]
    exact congrArg (fun x : Forwarder => { s with forwarder := x }) (h s.forwarder)
  · rw [if_neg hs, if_neg fun h => hs ((hp s).mp h)]

theorem cancel_blank (c : Client) (r : RegistrationId) : c.blank.cancel r = (c.cancel r).blank :=
  (blank_map { c with active := c.active.set r false }
    (blank_ite (·.registration = some r) (fun _ => Iff.rfl) (fun f => { f with cancelled := true })
      (fun f => { f with cancelled := true }) fun _ => rfl)).symm

theorem cancelAll_blank (c : Client) (rs : List RegistrationId) :
    c.blank.cancelAll rs = (c.cancelAll rs).blank := by
  unfold cancelAll
  induction rs generalizing c with
  | nil => rfl
  | cons r rs ih => rw [List.foldl_cons, List.foldl_cons, cancel_blank, ih]

theorem onStream_blank (c : Client) (k : ConnectionId) (key : Rpc.SubscriptionKey)
    {f g : Forwarder → Forwarder} (h : ∀ x, (f x).blank = g x.blank) :
    c.blank.onStream k key g = (c.onStream k key f).blank :=
  (blank_map c (blank_ite (fun s => s.connection = k ∧ s.key = key) (fun _ => Iff.rfl) f g
    h)).symm

theorem push_blank (f : Forwarder) (item : Item) :
    (f.push item).blank = f.blank.push .notification := by
  unfold Forwarder.push
  by_cases he : f.ended = true
  · rw [if_pos he]
    exact (if_pos he).symm
  · rw [if_neg he]
    refine Eq.trans ?_ (if_neg he).symm
    simp [Forwarder.blank]

theorem endStreams_blank (c : Client) (k : ConnectionId) :
    c.blank.endStreams k = (c.endStreams k).blank :=
  (blank_map c (blank_ite (·.connection = k) (fun _ => Iff.rfl) (fun f => { f with ended := true })
    (fun f => { f with ended := true }) fun _ => rfl)).symm

theorem closeUnheld_blank (c : Client) : c.blank.closeUnheld = blanked c.closeUnheld := by
  have hfold : ∀ (ks : List ConnectionId) (c : Client),
      ks.foldl endStreams c.blank = (ks.foldl endStreams c).blank := by
    intro ks
    induction ks with
    | nil => exact fun c => rfl
    | cons k ks ih =>
      intro c
      rw [List.foldl_cons, List.foldl_cons, endStreams_blank, ih]
  exact congrArg (·, c.closeUnheld.2)
    (hfold _ { c with connections := c.connections.filter c.isHeld })

/-! ### Events -/

theorem renew_blank (c : Client) (t : Nat) (k : ConnectionId) (rs : List RegistrationId) :
    c.blank.renew t k rs = blanked (c.renew t k rs) := by
  cases rs <;> rfl

theorem enlist_blank (c : Client) (t : Nat) (k : ConnectionId) (key : Rpc.SubscriptionKey) :
    c.blank.enlist t k key = blanked (c.enlist t k key) := by
  let given (s : Stream) : Stream :=
    if s.connection = k ∧ s.key = key ∧ s.registration.isNone then
      { s with registration := some c.active.length }
    else s
  have hgiven (s : Stream) : (given s).blank = given s.blank := by
    unfold given
    by_cases hs : s.connection = k ∧ s.key = key ∧ s.registration.isNone
    · rw [if_pos hs]
      exact (if_pos hs).symm
    · rw [if_neg hs]
      exact (if_neg hs).symm
  have hmap := blank_map
    { c with active := c.active ++ [true], listed := c.listed ++ [c.active.length] } hgiven
  exact congrArg (fun x : Client => (x.finish t, [Output.done t (.registered c.active.length)]))
    hmap.symm

theorem drain_blank (c : Client) (t : Nat) : c.blank.drain t = blanked (c.drain t) :=
  congrArg (fun x : Client => ({ x with listed := [], slot := none }.finish t, (c.drain t).2))
    (cancelAll_blank c c.listed)

theorem underLock_blank (c : Client) (t : Nat) : c.blank.underLock t = blanked (c.underLock t) := by
  have hstage : c.blank.stage? t = c.stage? t := rfl
  unfold underLock
  rw [hstage]
  split
  · exact enlist_blank c t _ _
  · exact renew_blank { c with listed := c.listed.filter c.isActive } t _ _
  · exact drain_blank c t
  · rfl

theorem takeLock_blank (c : Client) (t : Nat) (s : Stage) :
    c.blank.takeLock t s = blanked (c.takeLock t s) := by
  have hheld : ({ c.blank with lock := c.blank.lock ++ [t] }.wait t s).holdsLock t =
      ({ c with lock := c.lock ++ [t] }.wait t s).holdsLock t := rfl
  unfold takeLock
  dsimp only
  rw [hheld]
  split
  · exact underLock_blank ({ c with lock := c.lock ++ [t] }.wait t s) t
  · rfl

theorem addStream_blank (c : Client) (k : ConnectionId) (key : Rpc.SubscriptionKey)
    (r : Option RegistrationId) : c.blank.addStream k key r = (c.addStream k key r).blank := by
  simp [addStream, blank, Stream.blank, Forwarder.blank, isActive]

theorem subscribed_blank (c : Client) (t : Nat) (r : Except Node.ClientError Rpc.SubscriptionKey) :
    c.blank.subscribed t r = blanked (c.subscribed t r) := by
  have hstage : c.blank.stage? t = c.stage? t := rfl
  unfold subscribed
  rw [hstage]
  split
  · split
    · rw [addStream_blank, takeLock_blank]
      rfl
    · rfl
  · split
    · rw [addStream_blank, renew_blank]
      rfl
    · rw [cancel_blank, renew_blank]
      rfl
  · rfl

theorem begin_blank (c : Client) (t : Nat) (task : Task) :
    c.blank.begin t task = blanked (c.begin t task) := by
  have hslot : c.blank.slot = c.slot := rfl
  unfold begin
  cases task with
  | query q =>
    dsimp only
    rw [hslot]
    cases c.slot <;> rfl
  | register =>
    dsimp only
    rw [hslot]
    cases c.slot <;> rfl
  | reconnect => rfl
  | disconnect => exact takeLock_blank c t .draining

theorem answered_blank (c : Client) (t : Nat) (r : Except Node.ClientError Unit) :
    c.blank.answered t r = blanked (c.answered t r) := by
  have hstage : c.blank.stage? t = c.stage? t := rfl
  unfold answered
  rw [hstage]
  split
  · cases r <;> rfl
  · rfl

theorem dialed_blank (c : Client) (t : Nat) (r : Except Node.ClientError ConnectionId) :
    c.blank.dialed t r = blanked (c.dialed t r) := by
  have hstage : c.blank.stage? t = c.stage? t := rfl
  unfold dialed
  rw [hstage]
  split
  · cases r with
    | ok k =>
      exact takeLock_blank { c with slot := some k, connections := c.connections ++ [k] } t
        (.queued k)
    | error e => rfl
  · rfl

theorem drop_blank (c : Client) (t : Nat) : c.blank.drop t = blanked (c.drop t) := by
  have hstage : c.blank.stage? t = c.stage? t := rfl
  unfold drop
  rw [hstage]
  split
  · rename_i k key _
    have hfilter : c.blank.streams.filter (fun s =>
          !(s.connection = k ∧ s.key = key ∧ s.registration.isNone)) =
        (c.streams.filter fun s =>
          !(s.connection = k ∧ s.key = key ∧ s.registration.isNone)).map Stream.blank :=
      List.filter_map
    rw [hfilter]
    rfl
  · rfl
  · rfl

theorem react_blank (c : Client) (e : Event) : c.blank.react e.blank = blanked (c.react e) := by
  cases e with
  | begin t task => exact begin_blank c t task
  | answered t r => exact answered_blank c t r
  | subscribed t r => exact subscribed_blank c t r
  | dialed t r => exact dialed_blank c t r
  | proceed t =>
    have hheld : c.blank.holdsLock t = c.holdsLock t := rfl
    show (if c.blank.holdsLock t then _ else _) = blanked (if c.holdsLock t then _ else _)
    rw [hheld]
    split
    · exact underLock_blank c t
    · rfl
  | drop t => exact drop_blank c t
  | release r => exact congrArg (·, []) (cancel_blank c r)
  | item k key item => exact congrArg (·, []) (onStream_blank c k key fun f => push_blank f item)
  | ended k key => exact congrArg (·, []) (onStream_blank c k key fun _ => rfl)
  | lost k => exact congrArg (·, []) (endStreams_blank c k)
  | discard => rfl

/-! ### Turns -/

theorem streamOutput_blank (c : Client) (s : Stream) (r : RegistrationId) :
    c.blank.streamOutput s.blank r = c.streamOutput s r := by
  funext o
  cases o <;> rfl

/-- A turn makes the same of an item whatever it is, but for a complaint. -/
theorem turn_blank (c : Client) (s : Stream) (r : RegistrationId) (b : Branch) :
    (s.forwarder.blank.turn b).1 = (s.forwarder.turn b).1.blank ∧
      plain ((s.forwarder.blank.turn b).2.flatMap (c.streamOutput s r)) =
        plain ((s.forwarder.turn b).2.flatMap (c.streamOutput s r)) := by
  obtain ⟨queue, ended, cancelled, running⟩ := s.forwarder
  cases running with
  | false => exact ⟨rfl, rfl⟩
  | true =>
    cases b with
    | cancellation => cases cancelled <;> exact ⟨rfl, rfl⟩
    | stream =>
      cases queue with
      | nil => cases ended <;> exact ⟨rfl, rfl⟩
      | cons item rest =>
        refine ⟨rfl, ?_⟩
        show plain ((Forwarder.dispatch .notification).flatMap (c.streamOutput s r)) =
          plain ((Forwarder.dispatch item).flatMap (c.streamOutput s r))
        cases item with
        | notification => rfl
        | undecodable =>
          simp [plain, Forwarder.dispatch, streamOutput, streamEntry, nodeEntry, entry,
            Output.isComplaint]

theorem put_blank (c : Client) (i : Nat) (s : Stream) :
    c.blank.put i s.blank = (c.put i s).blank := by
  simp [put, blank]

theorem turnAt_blank (c : Client) (i : Nat) (b : Branch) :
    (c.blank.turnAt i b).1 = (c.turnAt i b).1.blank ∧
      plain (c.blank.turnAt i b).2 = plain (c.turnAt i b).2 := by
  have hget : c.blank.streams[i]? = c.streams[i]?.map Stream.blank := List.getElem?_map
  cases hs : c.streams[i]? with
  | none =>
    have hturn : c.turnAt i b = (c, []) := by simp [turnAt, hs]
    have hturn' : c.blank.turnAt i b = (c.blank, []) := by simp [turnAt, hget, hs]
    rw [hturn, hturn']
    exact ⟨rfl, rfl⟩
  | some s =>
    have hs' : c.blank.streams[i]? = some s.blank := by rw [hget, hs]; rfl
    cases hr : s.registration with
    | none =>
      rw [turnAt_spare hs hr, turnAt_spare hs' hr]
      exact ⟨rfl, rfl⟩
    | some r =>
      obtain ⟨hforwarder, hout⟩ := turn_blank c s r b
      rw [turnAt_eq hs hr, turnAt_eq hs' hr, streamOutput_blank]
      refine ⟨?_, hout⟩
      rw [← put_blank]
      exact congrArg (fun f => c.blank.put i { s with forwarder := f }) hforwarder

/-- Every act comes to the same, whether the items that wait and the one that comes can be read or
not, but for the complaints. -/
theorem act_blank (c : Client) (a : Act) :
    (c.blank.act a.blank).1 = (c.act a).1.blank ∧
      plain (c.blank.act a.blank).2 = plain (c.act a).2 := by
  cases a with
  | happen e =>
    have hact : c.blank.act (Act.happen e).blank =
        ((c.blank.react e.blank).1.closeUnheld.1,
          (c.blank.react e.blank).2 ++ (c.blank.react e.blank).1.closeUnheld.2) := rfl
    rw [hact, react_blank, blanked, closeUnheld_blank]
    exact ⟨rfl, rfl⟩
  | turn i b => exact turnAt_blank c i b
  | sweep =>
    have hfilter : c.blank.streams.filter (·.forwarder.running) =
        (c.streams.filter (·.forwarder.running)).map Stream.blank := List.filter_map
    refine ⟨?_, rfl⟩
    exact congrArg (fun streams : List Stream => { c with streams }) hfilter

end Client
end WorkBridge.Link
