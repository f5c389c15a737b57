import WorkBridge.Link.Client
import WorkBridge.Proofs.Feed.Reports
import WorkBridge.Stats.Poller

/-!
What is logged of errors.

Like a feed, a poller, a supervisor and the calls of a client can only come across certain errors in
a step (`Meets`), and what they log of one is its text.  Since that ends in the texts of all causes,
no entry leaves a cause out: `logged_text_carries_causes`.  (Forwarders log nothing of errors of
these layers.)
-/

namespace WorkBridge

variable {P : Fault → Prop}

/-! ### Samples -/

namespace Stats.Poller

open Node (ClientId)

/-- The errors that a poller can come across in a step. -/
inductive Meets : Stimulus → Fault → Prop
  | noClient (now : Nat) (answer : Option Answer) :
    Meets (.turn now none answer) (.stats .notConnected)
  | dag (now : Nat) (slot : Option ClientId) (e : Node.ClientError) :
    Meets (.turn now slot (some (.dag (.error e)))) (.stats (.dagInfo e))
  | noTips (now : Nat) (slot : Option ClientId) (info : Node.DagInfo) (h : info.tipHashes = []) :
    Meets (.turn now slot (some (.dag (.ok info)))) (.stats .noTipHashes)
  | estimate (now : Nat) (slot : Option ClientId) (e : Node.ClientError) :
    Meets (.turn now slot (some (.estimate (.error e)))) (.stats (.hashRate e))

def Output.logged? : Output → Option LogEntry
  | .log e => some e
  | _ => none

/-- All that is logged of errors is the text of such faults. -/
abbrev Reports (P : Fault → Prop) (out : List Output) : Prop := AllReport Output.logged? P out

namespace Reports

theorem stop (p : Poller) : Reports P p.stop.2 :=
  AllReport.nil.log rfl (LogEntry.reports_of_forall nofun)

theorem awaitTick (p : Poller) : Reports P p.awaitTick.2 := by
  by_cases hc : p.cancelled = true
  · rw [Poller.awaitTick, if_pos hc]
    exact stop p
  · rw [Poller.awaitTick, if_neg hc]
    exact .nil

theorem proceed (p : Poller) {s : Progress} (h : ∀ e, s = .done (.error e) → P (.stats e)) :
    Reports P (p.proceed s).2 := by
  cases s with
  | done r =>
    cases r with
    | ok sample =>
      have hentry : (entry .debug "Sampled network stats" [("sample", sample.text)]).Reports P :=
        LogEntry.reports_of_forall (by simp [entry])
      exact (AllReport.nil.cons rfl).log rfl hentry
    | error e =>
      exact (awaitTick p).log rfl (LogEntry.reports_of_error [] (h e rfl) rfl nofun)
  | askDag c => exact AllReport.nil.cons rfl
  | askEstimate c info tip => exact AllReport.nil.cons rfl

theorem sample (p : Poller) (now : Nat) {slot : Option ClientId}
    (h : slot = none → P (.stats .notConnected)) : Reports P (p.sample now slot).2 := by
  unfold Poller.sample
  split
  · refine proceed _ fun e he => ?_
    cases slot with
    | some c => cases he
    | none =>
      cases he
      exact h rfl
  · exact .nil

end Reports

theorem onDag_failed {c : ClientId} {r : Except Node.ClientError Node.DagInfo} {e : Error}
    (h : Progress.onDag c r = .done (.error e)) (now : Nat) (slot : Option ClientId) :
    Meets (.turn now slot (some (.dag r))) (.stats e) := by
  cases r with
  | error x =>
    cases h
    exact .dag now slot x
  | ok info =>
    unfold Progress.onDag at h
    dsimp only at h
    split at h
    · cases h
    · cases h
      exact .noTips now slot info ‹_›

theorem onEstimate_failed {info : Node.DagInfo} {r : Except Node.ClientError Nat} {e : Error}
    (h : Progress.onEstimate info r = .done (.error e)) (now : Nat) (slot : Option ClientId) :
    Meets (.turn now slot (some (.estimate r))) (.stats e) := by
  cases r with
  | error x =>
    cases h
    exact .estimate now slot x
  | ok rate => cases h

theorem reports_turn (p : Poller) (now : Nat) (slot : Option ClientId) (answer : Option Answer) :
    Reports (Meets (.turn now slot answer)) (p.turn now slot answer).2 := by
  unfold turn
  cases hp : p.point with
  | ready =>
    have hentry : (entry .info "Starting network stats poller"
        [("interval", p.settings.interval.text)]).Reports (Meets (.turn now slot answer)) :=
      LogEntry.reports_of_forall (by simp [entry])
    refine AllReport.log rfl hentry ?_
    cases Ticker.start? now p.settings.interval.toMillis with
    | some ticker => exact Reports.awaitTick _
    | none => exact .nil
  | ticking =>
    dsimp only
    split
    · exact Reports.stop p
    · split
      · refine Reports.sample p now ?_
        rintro rfl
        exact .noClient now answer
      · exact .nil
  | sampling progress =>
    dsimp only
    split
    · exact (Reports.stop p).cons rfl
    · split
      · exact Reports.proceed p fun e he => onDag_failed he now slot
      · exact Reports.proceed p fun e he => onEstimate_failed he now slot
      · exact .nil
      · exact .nil
  | recording =>
    dsimp only
    split
    · exact Reports.awaitTick p
    · exact .nil
    · exact .nil
  | stopped => exact .nil
  | failed => exact .nil

theorem reports_step (p : Poller) (s : Stimulus) : Reports (Meets s) (p.step s).2 := by
  cases s with
  | turn now slot answer => exact reports_turn p now slot answer
  | cancel => exact .nil
  | abort =>
    rw [step]
    split
    · exact .nil
    · exact AllReport.nil.cons rfl

end Stats.Poller

/-! ### The connection -/

namespace Connection.Supervisor

open Node (ClientId)

/-- The errors that a supervisor can come across in a step. -/
inductive Meets : Event → Fault → Prop
  | connected (ticket : Nat) (e : Node.ClientError) :
    Meets (.connected ticket (.error e)) (.client e)
  | reconnected (ticket : Nat) (e : Node.ClientError) :
    Meets (.reconnected ticket (.error e)) (.client e)

def Effect.logged? : Effect → Option LogEntry
  | .log e => some e
  | _ => none

/-- All that is logged of errors is the text of such faults. -/
abbrev Reports (P : Fault → Prop) (out : List Effect) : Prop := AllReport Effect.logged? P out

namespace Reports

theorem succeed (s : Supervisor) (ticket : Nat) (o : Outcome) :
    Reports P (s.succeed ticket o).2 := by
  have hentry : (s.log .info "Reconnected to node" [("outcome", o.text)]).Reports P :=
    LogEntry.reports_of_forall (by simp [Supervisor.log])
  exact (((AllReport.nil.cons rfl).cons rfl).cons rfl).log rfl hentry

theorem fail (s : Supervisor) (ticket : Nat) {e : Node.ClientError} (h : P (.client e)) :
    Reports P (s.fail ticket e).2 :=
  (((AllReport.nil.cons rfl).cons rfl).cons rfl).log rfl
    (LogEntry.reports_of_error [("address", s.address.text)] h rfl (by simp))

theorem settle (s : Supervisor) (ticket : Nat) : Reports P (s.settle ticket).2 :=
  (AllReport.nil.cons rfl).cons rfl

theorem begin (s : Supervisor) (c : Call) : Reports P (s.begin c).2 := by
  unfold Supervisor.begin
  split
  · exact AllReport.nil.cons rfl
  · exact AllReport.nil.cons rfl
  · exact AllReport.nil.cons rfl
  · exact settle s _

end Reports

theorem reports_step (s : Supervisor) (e : Event) : Reports (Meets e) (s.step e).2 := by
  cases e with
  | ask ticket kind => exact .nil
  | proceed ticket =>
    unfold step
    dsimp only
    split
    · split
      · exact Reports.begin s _
      · exact .nil
    · exact .nil
  | connected ticket r =>
    unfold step
    dsimp only
    split
    · split
      · exact Reports.succeed _ ticket _
      · exact Reports.fail s ticket (.connected ticket _)
    · exact .nil
  | reconnected ticket r =>
    unfold step
    dsimp only
    split
    · split
      · exact Reports.succeed s ticket _
      · exact Reports.fail s ticket (.reconnected ticket _)
    · exact .nil
  | disconnected ticket =>
    unfold step
    dsimp only
    split
    · have hentry : (s.log .info "Closed node connection" []).Reports
          (Meets (.disconnected ticket)) := LogEntry.reports_of_forall (by simp [Supervisor.log])
      exact (Reports.settle s ticket).log rfl hentry
    · exact .nil
  | drop ticket => exact .nil

end Connection.Supervisor

/-! ### Clients -/

namespace Link.Client

/-- The errors that the calls of a client may have to log: those of refused renewals. -/
inductive Meets : Event → Fault → Prop
  | subscribed (ticket : Nat) (e : Node.ClientError) :
    Meets (.subscribed ticket (.error e)) (.client e)

def Output.logged? : Output → Option LogEntry
  | .log e => some e
  | _ => none

/-- All that is logged of errors is the text of such faults. -/
abbrev Reports (P : Fault → Prop) (out : List Output) : Prop := AllReport Output.logged? P out

namespace Reports

theorem renew (c : Client) (t : Nat) (k : ConnectionId) (rs : List RegistrationId) :
    Reports P (c.renew t k rs).2 := by
  cases rs with
  | nil => exact AllReport.nil.cons rfl
  | cons r rest => exact AllReport.nil.cons rfl

theorem drain (c : Client) (t : Nat) : Reports P (c.drain t).2 := by
  have hentry : (c.nodeEntry .info "Closed web socket client" []).Reports P :=
    LogEntry.reports_of_forall (by simp [nodeEntry, entry])
  unfold Client.drain
  dsimp only
  split
  · exact (AllReport.nil.cons rfl).log rfl hentry
  · exact AllReport.nil.cons rfl

theorem underLock (c : Client) (t : Nat) : Reports P (c.underLock t).2 := by
  unfold Client.underLock
  split
  · exact AllReport.nil.cons rfl
  · exact renew _ t _ _
  · exact drain c t
  · exact .nil

theorem takeLock (c : Client) (t : Nat) (s : Stage) : Reports P (c.takeLock t s).2 := by
  unfold Client.takeLock
  dsimp only
  split
  · exact underLock _ t
  · exact .nil

theorem begin (c : Client) (t : Nat) (task : Task) : Reports P (c.begin t task).2 := by
  unfold Client.begin
  split
  · split
    · exact AllReport.nil.cons rfl
    · exact AllReport.nil.cons rfl
  · split
    · exact AllReport.nil.cons rfl
    · exact AllReport.nil.cons rfl
  · have hentry : (dialEntry c.url).Reports P :=
      LogEntry.reports_of_forall (by simp [dialEntry, entry])
    exact (AllReport.nil.cons rfl).log rfl hentry
  · exact takeLock c t _

theorem answered (c : Client) (t : Nat) (r : Except Node.ClientError Unit) :
    Reports P (c.answered t r).2 := by
  unfold Client.answered
  split
  · split
    · exact (AllReport.nil.cons rfl).cons rfl
    · exact (AllReport.nil.cons rfl).cons rfl
  · exact .nil

theorem subscribed (c : Client) (t : Nat) {r : Except Node.ClientError Rpc.SubscriptionKey}
    (h : ∀ e, r = .error e → P (.client e)) : Reports P (c.subscribed t r).2 := by
  unfold Client.subscribed
  split
  · split
    · exact (takeLock _ t _).cons rfl
    · exact (AllReport.nil.cons rfl).cons rfl
  · split
    · exact (renew _ t _ _).cons rfl
    · rename_i e
      have hentry : (c.renewalEntry e).Reports P :=
        LogEntry.reports_of_error [("node", c.address.text)] (h e rfl) rfl (by simp)
      exact .cons rfl (.log rfl hentry (renew _ t _ _))
  · exact .nil

theorem dialed (c : Client) (t : Nat) (r : Except Node.ClientError ConnectionId) :
    Reports P (c.dialed t r).2 := by
  unfold Client.dialed
  split
  · split
    · exact takeLock _ t _
    · exact AllReport.nil.cons rfl
  · exact .nil

theorem drop (c : Client) (t : Nat) : Reports P (c.drop t).2 := by
  unfold Client.drop
  split
  · exact AllReport.nil.cons rfl
  · exact .nil
  · exact .nil

end Reports

theorem reports_react (c : Client) (e : Event) : Reports (Meets e) (c.react e).2 := by
  cases e with
  | begin t task => exact Reports.begin c t task
  | answered t r => exact Reports.answered c t r
  | subscribed t r =>
    refine Reports.subscribed c t fun e he => ?_
    cases he
    exact .subscribed t e
  | dialed t r => exact Reports.dialed c t r
  | proceed t =>
    by_cases hl : c.holdsLock t = true
    · rw [react, if_pos hl]
      exact Reports.underLock c t
    · rw [react, if_neg hl]
      exact .nil
  | drop t => exact Reports.drop c t
  | _ => exact .nil

end Link.Client

/-! ### No entry leaves a cause out -/

/-- The text of an error ends in the text of its source, that one in the text of its own source, and
so on along the chain, so it carries every cause; and the causes that an error tells are just the
texts of its chain.  An error that is reported as it is has the text and the chain of the one in it.
And what is logged of an error, by a feed, a poller, a supervisor or the calls of a client, is its
text. -/
theorem logged_text_carries_causes :
    (∀ e : Fault, e.chain.map Fault.text = e.causes ∧
      List.IsChain EndsIn (e.text :: e.causes) ∧ ∀ cause ∈ e.causes, EndsIn e.text cause) ∧
    (∀ r : Node.RpcError, (Fault.client (.rpc r)).text = (Fault.rpc r).text ∧
      (Fault.client (.rpc r)).chain = (Fault.rpc r).chain) ∧
    (∀ n : Node.Error, (Fault.manager (.node n)).text = (Fault.node n).text ∧
      (Fault.manager (.node n)).chain = (Fault.node n).chain) ∧
    (∀ (f : Feed) s, Feed.Reports (f.Meets s) (f.step s).2) ∧
    (∀ (p : Stats.Poller) s, Stats.Poller.Reports (Stats.Poller.Meets s) (p.step s).2) ∧
    (∀ (s : Connection.Supervisor) e,
      Connection.Supervisor.Reports (Connection.Supervisor.Meets e) (s.step e).2) ∧
    ∀ (c : Link.Client) e, Link.Client.Reports (Link.Client.Meets e) (c.react e).2 := by
  refine ⟨fun e => ?_, fun r => ?_, fun n => ?_, Feed.reports_step, Stats.Poller.reports_step,
    Connection.Supervisor.reports_step, Link.Client.reports_react⟩
  · exact ⟨e.text_chain, e.isChain_causes, fun cause hc => Fault.endsIn_of_mem_causes hc⟩
  · exact ⟨rfl, Fault.chain_congr _ _ rfl⟩
  · exact ⟨rfl, Fault.chain_congr _ _ rfl⟩

/-- A feed whose registration the node refuses. -/
theorem refusal_logged_whole :
    let refusal : Node.ClientError := .rpc (.call { code := -32601, text := "Method not found" })
    let failure := Node.Error.registration refusal
    let f : Feed := { settings := default, point := .registering .renewal }
    let s : Feed.Stimulus := .turn 10 (some 0) (some (.registered (.error refusal)))
    let l := Feed.entry .error
      "Failed to register for new block template notifications, running on the fallback ticker only"
      [("err", failure.message), ("fallback_interval", f.settings.maxWorkStaleness.text)]
    (Feed.Output.log l ∈ (f.step s).2 ∧ ("err", failure.message) ∈ l.fields ∧
      ∃ e, f.Meets s e ∧ failure.message = e.text) ∧
    refusal.message ∈ (Fault.node failure).causes ∧ EndsIn failure.message refusal.message := by
  intro refusal failure f s l
  have hlog : Feed.Output.log l ∈ (f.step s).2 := List.mem_cons_self
  have herr : ("err", failure.message) ∈ l.fields := List.mem_cons_self
  have hcause : refusal.message ∈ (Fault.node failure).causes := List.mem_cons_self
  exact ⟨⟨hlog, herr, logged_text_carries_causes.2.2.2.1 f s _ hlog l rfl _ herr⟩,
    hcause, (logged_text_carries_causes.1 (.node failure)).2.2 _ hcause⟩

end WorkBridge
