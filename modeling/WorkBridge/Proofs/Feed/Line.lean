import WorkBridge.Proofs.Feed.Ending

/-!
When a feed has a call of the connection under way.

It has one exactly while it is reconnecting: it asks for a reconnect as it gets there, and one
that has not ended it drops as it leaves (`turn_calls`).
-/

namespace WorkBridge.Feed

open Node (ClientId)

/-- What a feed has to do with its calls of the connection. -/
inductive Calling
  | ask
  | drop
deriving DecidableEq

def Output.calling? : Output → Option Calling
  | .reconnect => some .ask
  | .abandon => some .drop
  | _ => none

def callings (out : List Output) : List Calling := out.filterMap Output.calling?

/-- A reconnect is asked for, if the feed is reconnecting then, and no call is dropped. -/
def AsksIfReconnecting (r : Feed × List Output) : Prop :=
  callings r.2 = if r.1.point = .reconnecting then [.ask] else []

variable {f : Feed} {now : Nat} {slot : Option ClientId} {answer : Option Answer}
  {r : Feed × List Output}

theorem callings_append (out rest : List Output) :
    callings (out ++ rest) = callings out ++ callings rest := List.filterMap_append

theorem callings_releaseHeld (f : Feed) : callings f.releaseHeld = [] := by
  unfold releaseHeld
  split <;> rfl

namespace AsksIfReconnecting

theorem append {out : List Output} (ho : callings out = []) (h : AsksIfReconnecting r) :
    AsksIfReconnecting (r.1, out ++ r.2) := by
  unfold AsksIfReconnecting
  rw [callings_append, ho]
  exact h

theorem log {e : LogEntry} (h : AsksIfReconnecting r) :
    AsksIfReconnecting (r.1, .log e :: r.2) := h

/-- Going anywhere else. -/
theorem of_other (hp : r.1.point ≠ .reconnecting) (ho : callings r.2 = []) :
    AsksIfReconnecting r := by
  unfold AsksIfReconnecting
  rw [if_neg hp]
  exact ho

theorem stop (f : Feed) : AsksIfReconnecting f.stop := by
  refine of_other nofun ?_
  rw [Feed.stop, callings_append, callings_releaseHeld]
  rfl

theorem fail (f : Feed) : AsksIfReconnecting f.fail := of_other nofun (callings_releaseHeld f)

theorem backOff (f : Feed) (now : Nat) : AsksIfReconnecting (f.backOff now) := by
  unfold Feed.backOff
  split
  · exact stop f
  · exact of_other nofun rfl

theorem startReconnect (f : Feed) : AsksIfReconnecting f.startReconnect := by
  unfold Feed.startReconnect
  split
  · exact stop f
  · rfl

theorem checkFailed (f : Feed) (now : Nat) (e : Node.Error) :
    AsksIfReconnecting (f.checkFailed now e) := by
  unfold Feed.checkFailed
  split
  · exact (backOff { f with reconnected := false } now).log
  · exact (startReconnect f).log

theorem query (f : Feed) (now : Nat) (slot : Option ClientId) :
    AsksIfReconnecting (f.query now slot) := by
  unfold Feed.query
  split
  · exact of_other nofun rfl
  · exact checkFailed f now _

theorem check (f : Feed) (now : Nat) (slot : Option ClientId) :
    AsksIfReconnecting (f.check now slot) := by
  unfold Feed.check
  split
  · exact stop f
  · exact query f now slot

theorem startTicking (f : Feed) (now : Nat) (slot : Option ClientId) :
    AsksIfReconnecting (f.startTicking now slot) := by
  unfold Feed.startTicking
  split
  · exact check _ now slot
  · exact fail f

theorem registrationCancelled (f : Feed) (now : Nat) (p : Purpose) :
    AsksIfReconnecting (f.registrationCancelled now p) := by
  unfold Feed.registrationCancelled
  split
  · split
    · exact stop _
    · exact fail f
  · exact stop f

theorem callings_hold (f : Feed) (i : Except Node.Error Grant) :
    callings (f.hold i).2.1 = [] := by
  cases i <;>
  · simp only [Feed.hold]
    rw [callings_append, callings_releaseHeld]
    rfl

theorem registered (f : Feed) (now : Nat) (slot : Option ClientId) (p : Purpose)
    (i : Except Node.Error Grant) : AsksIfReconnecting (f.registered now slot p i) := by
  cases p with
  | first => exact append (callings_hold f i) (startTicking (f.hold i).1 now slot).log
  | renewal => exact append (callings_hold f i) (check (f.hold i).1 now slot)

theorem register (f : Feed) (now : Nat) (slot : Option ClientId) (p : Purpose) :
    AsksIfReconnecting (f.register now slot p) := by
  unfold Feed.register
  split
  · exact registrationCancelled f now p
  · split
    · exact of_other nofun rfl
    · exact registered f now none p _

theorem reconnectEnded (f : Feed) (now : Nat) (slot : Option ClientId)
    (i : Except Node.Error Connection.Outcome) :
    AsksIfReconnecting (f.reconnectEnded now slot i) := by
  unfold Feed.reconnectEnded
  split
  · dsimp only
    split
    · exact register { f with reconnected := true } now slot .renewal
    · exact check { f with reconnected := true } now slot
  · exact (backOff f now).log

theorem look (hp : f.point = .awaiting) (h : Look f now r) : AsksIfReconnecting r := by
  cases h with
  | cancelled hc h => rw [h]; exact stop f
  | push hc hw ticker ht h => rw [h]; exact of_other nofun rfl
  | pushFailing hc hw ht h => rw [h]; exact fail _
  | tick hc hw hd ticker ht h => rw [h]; exact of_other nofun rfl
  | tickFailing hc hw hd ht h => rw [h]; exact fail _
  | wait hc hw hd h => rw [h]; exact of_other (by simp [hp]) rfl

theorem checked (hc : f.cancelled = false) (now : Nat) (i : Except Node.ClientError Node.Info) :
    AsksIfReconnecting (f.checked now i) := by
  unfold Feed.checked
  dsimp only
  split
  · unfold Feed.awaitEvent
    rw [if_neg (by simp [hc])]
    exact look rfl (lookForEvent_cases _ now)
  · exact checkFailed f now _
  · exact of_other nofun rfl

end AsksIfReconnecting

/-- What the turns of a feed do about its calls of the connection. -/
inductive Called (f : Feed) (answer : Option Answer) (r : Feed × List Output) : Prop
  /-- It has none under way, or the one that it had has ended. -/
  | asks (hp : f.point = .reconnecting → ∃ i, answer = some (.reconnected i))
      (h : AsksIfReconnecting r)
  | waits (hp : f.point = .reconnecting) (ha : ∀ i, answer ≠ some (.reconnected i))
      (h : r = (f, []))
  | drops (hr : callings r.2 = [.drop]) (he : r.1.isEnded = true)

theorem turn_calls (f : Feed) (now : Nat) (slot : Option ClientId) (answer : Option Answer) :
    Called f answer (f.turn now slot answer) := by
  have dropsFor {r : Feed × List Output} (h : AsksIfReconnecting r) (he : Over r) :
      Called f answer (abandoning r) := by
    have hp : r.1.point ≠ .reconnecting := by
      intro hp
      have hn := he.ended
      rw [isEnded, hp] at hn
      cases hn
    refine .drops ?_ he.ended
    show .drop :: callings r.2 = [.drop]
    rw [h, if_neg hp]
  cases moved_turn f now slot answer with
  | still hn _ hr =>
    by_cases hp : f.point = .reconnecting
    · refine .waits hp (fun i hi => ?_) hr
      rw [hp, hi] at hn
      cases hn
    · rw [hr]
      exact .asks (fun h => absurd h hp) (.of_other hp rfl)
  | start hp hr =>
    rw [hr]
    exact .asks (by simp [hp]) (AsksIfReconnecting.register f now slot .first).log
  | registered p i hp _ _ hr =>
    rw [hr]
    exact .asks (by simp [hp]) (.registered f now slot p _)
  | checked i hp hc _ hr =>
    rw [hr]
    exact .asks (by simp [hp]) (.checked hc now i)
  | query _ hp _ _ hr =>
    rw [hr]
    exact .asks (by simp [hp]) (.query f now slot)
  | reconnected i _ _ hi hr =>
    rw [hr]
    exact .asks (fun _ => ⟨i, hi⟩) (.reconnectEnded f now slot i)
  | look hp hr =>
    rw [hr]
    exact .asks (by simp [hp]) (.look hp (lookForEvent_cases f now))
  | handled hp _ hr =>
    rw [hr]
    exact .asks (by simp [hp]) (.check f now slot)
  | resume _ hp _ _ hr =>
    rw [hr]
    exact .asks (by simp [hp]) (.check f now slot)
  | giveUp p _ _ hr =>
    rw [hr]
    exact dropsFor (.registrationCancelled f now p) (.registrationCancelled f now p)
  | drop _ _ hr =>
    rw [hr]
    exact dropsFor (.stop f) (.stop f)
  | stop hp _ hr =>
    rw [hr]
    exact .asks (by obtain ⟨wakeAt, hp | hp⟩ := hp <;> simp [hp]) (.stop f)
  | crash _ _ _ hr =>
    rw [hr]
    exact dropsFor (.fail f) (.fail f)
  | fail hp _ hr =>
    rw [hr]
    exact .asks (by simp [hp]) (.fail f)

end WorkBridge.Feed
