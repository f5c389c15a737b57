import WorkBridge.Proofs.Connection.Line
import WorkBridge.Proofs.Feed.Line
import WorkBridge.Proofs.Service.Crew

/-!
The calls that a service has in the line of its connection.

The feed has one exactly while it is reconnecting and the manager one exactly while it has the
connection closed (`Lined`); all others are calls of guests.
-/

namespace WorkBridge.Service

open Connection (Supervisor)
open Manager (Token)
open Node (ClientId)

def isReconnecting (s : Service) : Bool := s.feed.any fun t => t.2.point = .reconnecting

def isClosing (s : Service) : Bool :=
  match s.manager.call with
  | .closing => true
  | _ => false

structure Lined (s : Service) : Prop where
  orderly : s.connection.Orderly
  feed : s.connection.line feedTicket = bif s.isReconnecting then [.reconnect] else []
  close : s.connection.line closeTicket = bif s.isClosing then [.close] else []

variable {s s' : Service} {k : Token} {f : Feed} {w : Wake}

theorem woken_event (ticket : Nat) (w : Wake) : (w.event ticket).woken? = some ticket := by
  cases w <;> rfl

theorem orderly_tell (h : s.connection.Orderly) (e : Supervisor.Event) :
    (s.tell e).connection.Orderly := (s.connection.step_move e).orderly h

/-- A call that goes on stays in line, or it ends. -/
theorem line_wake (h : s.connection.Orderly) (ticket : Nat) (w : Wake) :
    (Supervisor.results (s.wake ticket w) = [] ∧
      ∀ u, (s.tell (w.event ticket)).connection.line u = s.connection.line u) ∨
    ∃ i, Supervisor.results (s.wake ticket w) = [i] ∧
      s.connection.line ticket = i.kind :: (s.tell (w.event ticket)).connection.line ticket ∧
      ∀ u, u ≠ ticket → (s.tell (w.event ticket)).connection.line u = s.connection.line u :=
  (s.connection.step_move (w.event ticket)).line h (woken_event ticket w)

theorem line_wake_of_ne (h : s.connection.Orderly) {ticket u : Nat} (hu : u ≠ ticket) (w : Wake) :
    (s.tell (w.event ticket)).connection.line u = s.connection.line u := by
  rcases line_wake h ticket w with ⟨-, hl⟩ | ⟨i, -, -, hl⟩
  · exact hl u
  · exact hl u hu

/-! ### What the feed does -/

/-- The calls of the feed in line after what it does. -/
def queue (line : List Connection.Kind) : Feed.Calling → List Connection.Kind
  | .ask => line ++ [.reconnect]
  | .drop => []

theorem heed_line (h : s.connection.Orderly) (out : List Feed.Output) :
    (out.foldl heed s).connection.Orderly ∧
      (out.foldl heed s).connection.line feedTicket =
        (Feed.callings out).foldl queue (s.connection.line feedTicket) ∧
      ∀ u, u ≠ feedTicket →
        (out.foldl heed s).connection.line u = s.connection.line u := by
  induction out generalizing s with
  | nil => exact ⟨h, rfl, fun _ _ => rfl⟩
  | cons o out ih =>
    cases o with
    | reconnect =>
      obtain ⟨ho, hf, hu⟩ := ih (orderly_tell h (.ask feedTicket .reconnect))
      refine ⟨ho, hf.trans ?_, fun u hne => (hu u hne).trans ?_⟩
      · show _ = (Feed.callings out).foldl queue (_ ++ [.reconnect])
        rw [tell, Supervisor.line_ask, if_pos rfl]
      · rw [tell, Supervisor.line_ask, if_neg (Ne.symm hne), List.append_nil]
    | abandon =>
      obtain ⟨ho, hf, hu⟩ := ih (orderly_tell h (.drop feedTicket))
      refine ⟨ho, hf.trans ?_, fun u hne => (hu u hne).trans ?_⟩
      · show _ = (Feed.callings out).foldl queue []
        rw [tell, Supervisor.line_drop, if_pos rfl]
      · rw [tell, Supervisor.line_drop, if_neg (Ne.symm hne)]
    | _ => exact ih h

theorem isReconnecting_of_feed (hs : s.feed = some (k, f)) :
    s.isReconnecting = decide (f.point = .reconnecting) := by
  unfold isReconnecting
  rw [hs]
  rfl

theorem closing_of_isClosing (h : s.isClosing = true) : s.manager.call = .closing := by
  unfold isClosing at h
  split at h
  · assumption
  · cases h

theorem guest_ne {n u : Nat} (hu : u = feedTicket ∨ u = closeTicket) : guestTicket n ≠ u := by
  unfold guestTicket
  rcases hu with rfl | rfl
  · exact Nat.succ_ne_zero _
  · exact fun h => Nat.succ_ne_zero n (Nat.succ.inj h)

/-- Whether an event comes only where no call is under way. -/
def beginsCall : Manager.Event → Bool
  | .start _ => true
  | .shutDown => true
  | _ => false

namespace Lined

/-- A turn of the feed, whose last call may just have ended. -/
theorem feedTurn {answer : Option Feed.Answer} (ho : s.connection.Orderly)
    (hc : s.connection.line closeTicket = bif s.isClosing then [.close] else [])
    (hin : f.point = .reconnecting → (∀ i, answer ≠ some (.reconnected i)) →
      s.connection.line feedTicket = [.reconnect])
    (hout : (f.point = .reconnecting → ∃ i, answer = some (.reconnected i)) →
      s.connection.line feedTicket = [])
    (now : Nat) : Lined (s.feedTurn k f now answer).1 := by
  have hcalls := f.turn_calls now s.connection.slot answer
  unfold Service.feedTurn
  dsimp only
  rw [Feed.step]
  generalize f.turn now s.connection.slot answer = r at hcalls ⊢
  obtain ⟨ho', hline, hother⟩ := heed_line (s := { s with feed := some (k, r.1) }) ho r.2
  obtain ⟨connection, hheed⟩ := Crew.heed_frame { s with feed := some (k, r.1) } r.2
  have hrec : (r.2.foldl heed { s with feed := some (k, r.1) }).isReconnecting =
      decide (r.1.point = .reconnecting) := by
    rw [hheed]
    rfl
  refine ⟨ho', ?_, ?_⟩
  · rw [hline, hrec]
    rw [Bool.cond_decide]
    show (Feed.callings r.2).foldl queue (s.connection.line feedTicket) = _
    cases hcalls with
    | asks hp h =>
      rw [h, hout hp]
      split <;> rfl
    | waits hp ha h =>
      subst h
      rw [if_pos hp]
      exact hin hp ha
    | drops hr he =>
      rw [hr, if_neg]
      · rfl
      · intro hp
        rw [Feed.isEnded, hp] at he
        cases he
  · rw [hother closeTicket (by decide)]
    show s.connection.line closeTicket = _
    rw [hc, hheed]
    rfl

theorem tell_guest (h : Lined s) {e : Supervisor.Event} (hf : ∀ u,
    u = feedTicket ∨ u = closeTicket → (s.tell e).connection.line u = s.connection.line u) :
    Lined (s.tell e) where
  orderly := orderly_tell h.orderly e
  feed := (hf _ (.inl rfl)).trans h.feed
  close := (hf _ (.inr rfl)).trans h.close

theorem withManager (h : Lined s) (m : Manager)
    (hm : (s.withManager m).isClosing = s.isClosing) : Lined (s.withManager m) where
  orderly := h.orderly
  feed := h.feed
  close := by
    rw [hm]
    exact h.close

theorem askClose (ho : s.connection.Orderly)
    (hf : s.connection.line feedTicket = bif s.isReconnecting then [.reconnect] else [])
    (hc : s.connection.line closeTicket = []) (hm : s.isClosing = true) : Lined s.askClose where
  orderly := orderly_tell ho _
  feed := by
    rw [Service.askClose, tell, Supervisor.line_ask, if_neg nofun, List.append_nil]
    exact hf
  close := by
    rw [Service.askClose, tell, Supervisor.line_ask, if_pos rfl, hc]
    show [] ++ [_] = bif s.isClosing then _ else _
    rw [hm]
    rfl

theorem isReconnecting_cancel (s : Service) (k : Token) :
    (s.cancel k).isReconnecting = s.isReconnecting := by
  unfold isReconnecting Service.cancel
  cases s.feed with
  | none => rfl
  | some x => by_cases hx : x.1 = k <;> simp [hx, Feed.step]

theorem cancel (h : Lined s) (k : Token) : Lined (s.cancel k) where
  orderly := h.orderly
  feed := by
    rw [isReconnecting_cancel]
    exact h.feed
  close := h.close

theorem isReconnecting_cancelStart (s : Service) :
    s.cancelStart.isReconnecting = s.isReconnecting := by
  unfold Service.cancelStart
  split
  · exact isReconnecting_cancel s _
  · rfl

theorem cancelStart (h : Lined s) : Lined s.cancelStart := by
  unfold Service.cancelStart
  split
  · exact h.cancel _
  · exact h

theorem launched (h : Lined s) (hn : s.isReconnecting = false) (hc : s.isClosing = false)
    (k : Token) : Lined (s.launched k) where
  orderly := h.orderly
  feed := by
    have := h.feed
    rw [hn] at this
    exact this
  close := by
    have := h.close
    rw [hc] at this
    exact this

theorem not_closing {call : Manager.Call} (hc : s.manager.call = call) (hn : call ≠ .closing) :
    s.isClosing = false := by
  unfold isClosing
  rw [hc]
  split
  · exact absurd rfl hn
  · rfl

theorem not_closing_of_idle (hi : s.isIdle = true) : s.isClosing = false := by
  unfold isIdle at hi
  split at hi
  · rename_i hc
    exact not_closing hc nofun
  · cases hi

theorem manage (h : Lined s) (hcrew : Crew s) {e : Manager.Event}
    (hi : beginsCall e = true → s.isIdle = true) (hg : e ≠ .giveUp) (hd : e ≠ .closed) :
    Lined (s.manage e).1 := by
  have hm := s.manage_cases e
  generalize s.manage e = r at hm ⊢
  have closes {s' : Service} (hconn : s'.connection = s.connection)
      (hrec : s'.isReconnecting = s.isReconnecting) (hn : s.isClosing = false)
      (hc : s'.isClosing = true) : Lined s'.askClose := by
    refine askClose (hconn ▸ h.orderly) ?_ ?_ hc
    · rw [hconn, hrec]
      exact h.feed
    · rw [hconn, h.close, hn]
      rfl
  cases hm with
  | ignored e he => exact h
  | refused k ht => exact h
  | begun k ht =>
    exact h.withManager { s.manager with token := some k, call := .starting k s.manager.wait }
      (not_closing_of_idle (hi rfl)).symm
  | gaveUp => exact absurd rfl hg
  | waits t k wait hc hw => exact h.withManager _ (not_closing hc nofun).symm
  | failed t k wait e hc hw => exact h.withManager _ (not_closing hc nofun).symm
  | launched t k wait hc hw =>
    have hnone : s.feed = none := Option.map_eq_none_iff.mp ((hcrew.starting k wait hc).2.2 .feed)
    exact h.launched (by rw [isReconnecting, hnone]; rfl) (not_closing hc nofun) k
  | joining ht =>
    exact (h.withManager { s.manager with call := .joining }
      (not_closing_of_idle (hi rfl)).symm).cancelStart
  | closing ht =>
    refine closes (Crew.cancelStart_connection _) (isReconnecting_cancelStart _)
      (not_closing_of_idle (hi rfl)) ?_
    rw [isClosing, Crew.cancelStart_manager]
    rfl
  | joined t broken hc ht => exact h.withManager _ (not_closing hc nofun).symm
  | joinedLast t broken hc ht => exact closes rfl rfl (not_closing hc nofun) rfl
  | closed hc e => exact absurd rfl hd

/-- The manager's call is over, and its close has left the line. -/
theorem idle (ho : s.connection.Orderly)
    (hf : s.connection.line feedTicket = bif s.isReconnecting then [.reconnect] else [])
    (hc : s.connection.line closeTicket = []) :
    Lined (s.withManager { s.manager with call := .idle }) := ⟨ho, hf, hc⟩

/-- The answer to the close of the manager takes it from the line. -/
theorem closed (h : Lined s) {w : Wake}
    (hr : Supervisor.results (s.wake closeTicket w) ≠ []) :
    Lined ((s.tell (w.event closeTicket)).manage .closed).1 := by
  rcases line_wake h.orderly closeTicket w with ⟨hn, -⟩ | ⟨i, -, hl, hother⟩
  · exact absurd hn hr
  · rw [h.close] at hl
    obtain ⟨hcall, hleft⟩ : s.isClosing = true ∧
        (s.tell (w.event closeTicket)).connection.line closeTicket = [] := by
      cases hc : s.isClosing with
      | true =>
        rw [hc] at hl
        exact ⟨rfl, (List.cons.inj hl).2.symm⟩
      | false =>
        rw [hc] at hl
        cases hl
    rw [manage_closed (s := s.tell (w.event closeTicket)) (closing_of_isClosing hcall)]
    refine idle (orderly_tell h.orderly _) ?_ hleft
    rw [hother feedTicket nofun]
    exact h.feed

/-- The feed stays in the line until it gets the answer to its reconnect. -/
theorem reconnect (h : Lined s) {k : Token} {f : Feed} (hs : s.feed = some (k, f))
    (hp : f.point = .reconnecting) (now : Nat) (w : Wake) :
    Lined ((s.tell (w.event feedTicket)).feedTurn k f now
      (outcome? (s.wake feedTicket w))).1 := by
  have hfeed : s.connection.line feedTicket = [.reconnect] := by
    rw [h.feed, isReconnecting_of_feed hs, hp]
    rfl
  refine feedTurn (orderly_tell h.orderly _) ?_ (fun _ hn => ?_) (fun ha => ?_) now
  · rw [line_wake_of_ne h.orderly (by decide)]
    exact h.close
  · -- The reconnect has not ended.
    rcases line_wake h.orderly feedTicket w with ⟨-, hl⟩ | ⟨i, hi, hl, -⟩
    · rw [hl, hfeed]
    · rw [hfeed] at hl
      cases i with
      | reconnected i => exact absurd (by rw [outcome?, hi]) (hn i)
      | closed => cases hl
  · -- It has, and has left the line.
    obtain ⟨i, hi⟩ := ha hp
    rcases line_wake h.orderly feedTicket w with ⟨hr, -⟩ | ⟨i, hr, hl, -⟩
    · rw [outcome?, hr] at hi
      cases hi
    · rw [hfeed] at hl
      exact (List.cons.inj hl).2.symm

theorem step (h : Lined s) (hcrew : Crew s) (e : Event) : Lined (s.step e).1 := by
  have hs := s.step_cases e
  generalize s.step e = r at hs ⊢
  cases hs with
  | idle e he => exact h
  | start k hi => exact h.manage hcrew (fun _ => hi) nofun nofun
  | shutDown hi => exact h.manage hcrew (fun _ => hi) nofun nofun
  | giveUp =>
    refine idle (orderly_tell h.orderly _) ?_ ?_
    · rw [tell, Supervisor.line_drop, if_neg nofun]
      exact h.feed
    · rw [tell, Supervisor.line_drop, if_pos rfl]
  | wait now answer k wait hc => exact h.manage hcrew nofun nofun nofun
  | joined t broken hb => exact h.manage hcrew nofun nofun nofun
  | close w hr =>
    rcases line_wake h.orderly closeTicket w with ⟨-, hl⟩ | ⟨i, hi, -, -⟩
    · exact h.tell_guest fun u _ => hl u
    · rw [hi] at hr
      cases hr
  | closed w hr => exact h.closed hr
  | cancel k => exact h.cancel k
  | noted e n hn hq =>
    refine ⟨h.orderly, h.feed.trans ?_, h.close⟩
    congr 1
    unfold isReconnecting
    cases s.feed with
    | none => rfl
    | some x => simp [hq]
  | feed now answer k f hs ha =>
    have hrec := isReconnecting_of_feed hs
    have hfeed := h.feed
    rw [hrec, Bool.cond_decide] at hfeed
    refine feedTurn h.orderly h.close (fun hp _ => ?_) (fun hp => ?_) now
    · rw [hfeed, if_pos hp]
    · rw [hfeed, if_neg]
      intro hp'
      obtain ⟨i, hi⟩ := hp hp'
      exact ha i hi
  | reconnect now w k f hs hp hc => exact h.reconnect hs hp now w
  | poller now answer k p hs => exact ⟨h.orderly, h.feed, h.close⟩
  | guestAsks n kind =>
    refine h.tell_guest fun u hu => ?_
    rw [tell, Supervisor.line_ask, if_neg, List.append_nil]
    exact guest_ne hu
  | guest n w =>
    exact h.tell_guest fun u hu => line_wake_of_ne h.orderly (Ne.symm (guest_ne hu)) w
  | guestLeaves n =>
    refine h.tell_guest fun u hu => ?_
    rw [tell, Supervisor.line_drop, if_neg]
    exact guest_ne hu

theorem opened (config : Config) (first : ClientId) : Lined (opened config first) :=
  ⟨Supervisor.orderly_opened _ _, rfl, rfl⟩

end Lined
end WorkBridge.Service
