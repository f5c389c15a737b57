import WorkBridge.Proofs.Causes
import WorkBridge.Proofs.Feed.Turn

/-!
What a feed logs of the errors that it meets.

In a turn a feed may be told that what it asked for has failed, or find that there is no client
(`Meets`).  Whatever it then logs of an error is the text of such a one: `reports_step`.
-/

namespace WorkBridge.Feed

open Node (ClientId)

/-- The errors that a feed can come across in a step. -/
inductive Meets (f : Feed) : Stimulus → Fault → Prop
  | noClient (now : Nat) (answer : Option Answer) :
    Meets f (.turn now none answer) (.node .notConnected)
  | registration (now : Nat) (slot : Option ClientId) (e : Node.ClientError) :
    Meets f (.turn now slot (some (.registered (.error e)))) (.node (.registration e))
  | check (now : Nat) (slot : Option ClientId) (r : Except Node.ClientError Node.Info)
    (e : Node.Error) (h : f.settings.monitor.judge r = .failed e) :
    Meets f (.turn now slot (some (.info r))) (.node e)
  | reconnect (now : Nat) (slot : Option ClientId) (e : Node.Error) :
    Meets f (.turn now slot (some (.reconnected (.error e)))) (.node e)

def Output.logged? : Output → Option LogEntry
  | .log e => some e
  | _ => none

/-- All that is logged of errors is the text of such faults. -/
abbrev Reports (P : Fault → Prop) (out : List Output) : Prop := AllReport Output.logged? P out

variable {P : Fault → Prop} {f : Feed}

namespace Reports

theorem abandoning {r : Feed × List Output} (h : Reports P r.2) : Reports P (abandoning r).2 :=
  h.cons rfl

theorem releaseHeld (f : Feed) : Reports P f.releaseHeld := by
  unfold Feed.releaseHeld
  split
  · exact AllReport.nil.cons rfl
  · exact .nil

theorem stop (f : Feed) : Reports P f.stop.2 :=
  (releaseHeld f).append (AllReport.nil.log rfl (LogEntry.reports_of_forall nofun))

theorem fail (f : Feed) : Reports P f.fail.2 := releaseHeld f

theorem backOff (f : Feed) (now : Nat) : Reports P (f.backOff now).2 := by
  by_cases hc : f.cancelled = true
  · rw [Feed.backOff, if_pos hc]
    exact stop f
  · rw [Feed.backOff, if_neg hc]
    exact .nil

theorem startReconnect (f : Feed) : Reports P f.startReconnect.2 := by
  by_cases hc : f.cancelled = true
  · rw [Feed.startReconnect, if_pos hc]
    exact stop f
  · rw [Feed.startReconnect, if_neg hc]
    exact AllReport.nil.cons rfl

/-! ### Waiting for work -/

theorem announce (f : Feed) (t : Trigger) : Reports P (f.announce t).2 := by
  have hentry : (entry .debug "New work available" [("trigger", t.text)]).Reports P :=
    LogEntry.reports_of_forall (by simp [entry])
  exact ((AllReport.nil.cons rfl).cons rfl).log rfl hentry

theorem announcePush (f : Feed) (now : Nat) : Reports P (f.announcePush now).2 := by
  unfold Feed.announcePush
  dsimp only
  split
  · exact announce _ _
  · exact fail _

theorem announceTick (f : Feed) (now : Nat) : Reports P (f.announceTick now).2 := by
  unfold Feed.announceTick
  dsimp only
  split
  · exact announce _ _
  · exact fail _

theorem lookForEvent (f : Feed) (now : Nat) : Reports P (f.lookForEvent now).2 := by
  by_cases hc : f.cancelled = true
  · rw [Feed.lookForEvent, if_pos hc]
    exact stop f
  rw [Feed.lookForEvent, if_neg hc]
  by_cases hw : f.signal.isWoken = true
  · rw [if_pos hw]
    exact announcePush f now
  rw [if_neg hw]
  by_cases hd : f.ticker.any (·.ready now) = true
  · rw [if_pos hd]
    exact announceTick f now
  · rw [if_neg hd]
    exact .nil

theorem awaitEvent (f : Feed) (now : Nat) : Reports P (f.awaitEvent now).2 := by
  by_cases hc : f.cancelled = true
  · rw [Feed.awaitEvent, if_pos hc]
    exact stop f
  · rw [Feed.awaitEvent, if_neg hc]
    exact lookForEvent _ now

/-! ### Checks -/

theorem checkFailed (now : Nat) {e : Node.Error} (h : P (.node e)) :
    Reports P (f.checkFailed now e).2 := by
  unfold Feed.checkFailed
  dsimp only
  split
  · exact (backOff _ now).log rfl
      (LogEntry.reports_of_error [] h rfl (by simp))
  · exact (startReconnect f).log rfl
      (LogEntry.reports_of_error [] h rfl (by simp))

theorem query (now : Nat) {slot : Option ClientId} (h : slot = none → P (.node .notConnected)) :
    Reports P (f.query now slot).2 := by
  cases slot with
  | some c => exact AllReport.nil.cons rfl
  | none => exact checkFailed now (h rfl)

theorem check (now : Nat) {slot : Option ClientId} (h : slot = none → P (.node .notConnected)) :
    Reports P (f.check now slot).2 := by
  by_cases hc : f.cancelled = true
  · rw [Feed.check, if_pos hc]
    exact stop f
  · rw [Feed.check, if_neg hc]
    exact query now h

theorem checked (now : Nat) {r : Except Node.ClientError Node.Info}
    (h : ∀ e, f.settings.monitor.judge r = .failed e → P (.node e)) :
    Reports P (f.checked now r).2 := by
  unfold Feed.checked
  dsimp only
  cases hj : f.settings.monitor.judge r with
  | synced => exact awaitEvent _ now
  | failed e => exact checkFailed now (h e hj)
  | notSynced =>
    have hentry : f.settings.monitor.notSyncedEntry.Reports P :=
      LogEntry.reports_of_forall (by simp [Sync.Monitor.notSyncedEntry, Sync.Monitor.log])
    exact AllReport.nil.log rfl hentry

/-! ### Registrations -/

theorem startTicking (now : Nat) {slot : Option ClientId}
    (h : slot = none → P (.node .notConnected)) : Reports P (f.startTicking now slot).2 := by
  unfold Feed.startTicking
  split
  · exact check now h
  · exact fail f

theorem registrationCancelled (f : Feed) (now : Nat) (p : Purpose) :
    Reports P (f.registrationCancelled now p).2 := by
  cases p with
  | first =>
    unfold Feed.registrationCancelled
    dsimp only
    split
    · exact stop _
    · exact fail f
  | renewal => exact stop f

theorem hold {r : Except Node.Error Grant} (h : ∀ e, r = .error e → P (.node e)) :
    Reports P (f.hold r).2.1 := by
  cases r with
  | ok g =>
    exact (releaseHeld f).append
      ((AllReport.nil.cons rfl).log rfl (LogEntry.reports_of_forall nofun))
  | error e =>
    exact (releaseHeld f).append ((AllReport.nil.cons rfl).log rfl
      (LogEntry.reports_of_error [] (h e rfl) rfl (by simp)))

theorem registered (now : Nat) {slot : Option ClientId} (p : Purpose)
    {r : Except Node.Error Grant} (hs : slot = none → P (.node .notConnected))
    (hr : ∀ e, r = .error e → P (.node e)) : Reports P (f.registered now slot p r).2 := by
  cases p with
  | first =>
    have hentry : (entry .debug "Block template feed mode" [("mode", (f.hold r).2.2.text)]).Reports
        P := LogEntry.reports_of_forall (by simp [entry])
    exact (hold hr).append ((startTicking now hs).log rfl hentry)
  | renewal => exact (hold hr).append (check now hs)

theorem register (now : Nat) {slot : Option ClientId} (p : Purpose)
    (h : slot = none → P (.node .notConnected)) : Reports P (f.register now slot p).2 := by
  unfold Feed.register
  split
  · exact registrationCancelled f now p
  · cases slot with
    | some c => exact AllReport.nil.cons rfl
    | none =>
      refine registered now p h fun e he => ?_
      cases he
      exact h rfl

theorem reconnectEnded (now : Nat) {slot : Option ClientId}
    {r : Except Node.Error Connection.Outcome} (hs : slot = none → P (.node .notConnected))
    (hr : ∀ e, r = .error e → P (.node e)) : Reports P (f.reconnectEnded now slot r).2 := by
  unfold Feed.reconnectEnded
  cases r with
  | ok o =>
    dsimp only
    split
    · exact register now _ hs
    · exact check now hs
  | error e =>
    exact (backOff f now).log rfl (LogEntry.reports_of_error [] (hr e rfl) rfl (by simp))

end Reports

/-! ### Turns -/

theorem reports_turn (f : Feed) (now : Nat) (slot : Option ClientId) (answer : Option Answer) :
    Reports (f.Meets (.turn now slot answer)) (f.turn now slot answer).2 := by
  have hslot : slot = none → f.Meets (.turn now slot answer) (.node .notConnected) := by
    rintro rfl
    exact .noClient now answer
  cases moved_turn f now slot answer with
  | still _ _ hr =>
    rw [hr]
    exact .nil
  | start _ hr =>
    have hentry : f.startEntry.Reports (f.Meets (.turn now slot answer)) :=
      LogEntry.reports_of_forall (by simp [startEntry, entry])
    rw [hr]
    exact (Reports.register now .first hslot).log rfl hentry
  | registered p i _ _ hi hr =>
    subst hi
    rw [hr]
    refine Reports.registered now p hslot fun e he => ?_
    cases i with
    | ok g => cases he
    | error c =>
      cases he
      exact .registration now slot c
  | checked i _ _ hi hr =>
    subst hi
    rw [hr]
    exact Reports.checked now fun e he => .check now slot i e he
  | query _ _ _ _ hr =>
    rw [hr]
    exact Reports.query now hslot
  | reconnected i _ _ hi hr =>
    subst hi
    rw [hr]
    refine Reports.reconnectEnded now hslot fun e he => ?_
    cases he
    exact .reconnect now slot e
  | look _ hr =>
    rw [hr]
    exact Reports.lookForEvent f now
  | handled _ _ hr =>
    rw [hr]
    exact Reports.check now hslot
  | resume _ _ _ _ hr =>
    rw [hr]
    exact Reports.check now hslot
  | giveUp p _ _ hr =>
    rw [hr]
    exact (Reports.registrationCancelled f now p).abandoning
  | drop _ _ hr =>
    rw [hr]
    exact (Reports.stop f).abandoning
  | stop _ _ hr =>
    rw [hr]
    exact Reports.stop f
  | crash _ _ _ hr =>
    rw [hr]
    exact (Reports.fail f).abandoning
  | fail _ _ hr =>
    rw [hr]
    exact Reports.fail f

theorem reports_step (f : Feed) (s : Stimulus) : Reports (f.Meets s) (f.step s).2 := by
  cases s with
  | turn now slot answer => exact reports_turn f now slot answer
  | abort =>
    rw [step, abort]
    split
    · exact .nil
    · exact (Reports.fail f).abandoning
  | _ => exact .nil

end WorkBridge.Feed
