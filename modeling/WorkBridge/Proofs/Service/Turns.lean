import WorkBridge.Proofs.Service.Clients

/-!
What an event makes of the feed of a service.

The feed is cancelled, a notification or the end of one comes, or it gets its turn with the client
that is in the slot then; all that it does is done in its turns (`step_feed`).
-/

namespace WorkBridge.Service

open Manager (Token)
open Node (ClientId)

variable {s : Service} {k : Token} {f : Feed}

def Output.feed? : Output → Option Feed.Output
  | .feed o => some o
  | _ => none

/-- What the feed does. -/
def feedOutputs (out : List Output) : List Feed.Output := out.filterMap Output.feed?

theorem feedOutputs_append (out rest : List Output) :
    feedOutputs (out ++ rest) = feedOutputs out ++ feedOutputs rest := List.filterMap_append

theorem feedOutputs_feed (out : List Feed.Output) : feedOutputs (out.map .feed) = out := by
  unfold feedOutputs
  rw [List.filterMap_map]
  exact List.filterMap_some

theorem feedOutputs_map {α : Type} {g : α → Output} (h : ∀ o, (g o).feed? = none) (out : List α) :
    feedOutputs (out.map g) = [] := by
  unfold feedOutputs
  rw [List.filterMap_map]
  exact List.filterMap_eq_nil_iff.mpr fun o _ => h o

/-- What happens to the feed in an event, with the client that is in the slot in its turn. -/
inductive Befalls (s : Service) (f : Feed) (slot : Option ClientId) :
    Event → Option Feed.Stimulus → Prop
  | nothing (e : Event) : Befalls s f slot e none
  | stirred (e : Event) (n : Feed.Stimulus) (hn : ∀ now slot answer, n ≠ .turn now slot answer) :
    Befalls s f slot e (some n)
  | turned (now : Nat) (answer : Option Feed.Answer) (ha : ∀ i, answer ≠ some (.reconnected i)) :
    Befalls s f slot (.feed now answer) (some (.turn now slot answer))
  | reconnects (now : Nat) (w : Wake) (hp : f.point = .reconnecting) (hc : f.cancelled = false) :
    Befalls s f slot (.reconnect now w) (some (.turn now slot (outcome? (s.wake feedTicket w))))

/-- The feed only gets a turn for a reconnect while it is reconnecting. -/
theorem Befalls.turned_or_reconnecting {e : Event} {slot slot' : Option ClientId} {now : Nat}
    {answer : Option Feed.Answer} (h : Befalls s f slot e (some (.turn now slot' answer))) :
    slot' = slot ∧ (e = .feed now answer ∨ f.point = .reconnecting) := by
  generalize hn : some (Feed.Stimulus.turn now slot' answer) = n at h
  cases h with
  | nothing e => cases hn
  | stirred e n hturn =>
    cases hn
    exact absurd rfl (hturn _ _ _)
  | turned now answer ha =>
    cases hn
    exact ⟨rfl, .inl rfl⟩
  | reconnects now w hp hc =>
    cases hn
    exact ⟨rfl, .inr hp⟩

/-- What comes of a feed to which something may happen. -/
def stir (f : Feed) : Option Feed.Stimulus → Feed × List Feed.Output
  | some n => f.step n
  | none => (f, [])

/-- Something happens to the feed of a service, as which it goes on. -/
def Stirs (s : Service) (k : Token) (f : Feed) (e : Event) (r : Service × List Output) : Prop :=
  ∃ n, Befalls s f r.1.connection.slot e n ∧ r.1.feed = some (k, (stir f n).1) ∧
    feedOutputs r.2 = (stir f n).2

theorem cancel_feed (hf : s.feed = some (k, f)) (token : Token) :
    (s.cancel token).feed = some (k, f) ∨
      (s.cancel token).feed = some (k, (f.step .cancel).1) := by
  show s.feed.map _ = _ ∨ s.feed.map _ = _
  rw [hf, Option.map_some]
  split
  · exact .inr rfl
  · exact .inl rfl

theorem cancelStart_feed (hf : s.feed = some (k, f)) :
    s.cancelStart.feed = some (k, f) ∨ s.cancelStart.feed = some (k, (f.step .cancel).1) := by
  unfold cancelStart
  split
  · exact cancel_feed hf _
  · exact .inl hf

theorem manage_feed (hs : Crew s) (hf : s.feed = some (k, f)) (e : Manager.Event) :
    (s.manage e).1.feed = some (k, f) ∨ (s.manage e).1.feed = some (k, (f.step .cancel).1) := by
  have hm := s.manage_cases e
  generalize s.manage e = r at hm ⊢
  cases hm with
  | launched t k' wait hc hw =>
    have hnone := (hs.starting k' wait hc).2.2 .feed
    simp [task?, hf] at hnone
  | joining ht => exact cancelStart_feed (s := s.withManager { s.manager with call := .joining }) hf
  | closing ht => exact cancelStart_feed (s := s.withManager { s.manager with call := .closing }) hf
  | _ => exact .inl hf

theorem feedTurn_feed (s : Service) (k : Token) (f : Feed) (now : Nat)
    (answer : Option Feed.Answer) :
    (s.feedTurn k f now answer).1.feed =
        some (k, (f.step (.turn now s.connection.slot answer)).1) ∧
      (s.feedTurn k f now answer).1.connection.slot = s.connection.slot := by
  obtain ⟨connection, hr⟩ := Crew.feedTurn_frame s k f now answer
  refine ⟨by rw [hr], ?_⟩
  exact (heed_sameSlot { s with feed := some (k, _) } _).slot

theorem step_feed (hs : Crew s) (hf : s.feed = some (k, f)) (e : Event) :
    Stirs s k f e (s.step e) := by
  have still {r : Service × List Output} (hr : r.1.feed = some (k, f))
      (ho : feedOutputs r.2 = []) : Stirs s k f e r := ⟨none, .nothing e, hr, ho⟩
  have managed {r : Service × List Output}
      (hr : r.1.feed = some (k, f) ∨ r.1.feed = some (k, (f.step .cancel).1))
      (ho : feedOutputs r.2 = []) : Stirs s k f e r := by
    rcases hr with hr | hr
    · exact still hr ho
    · exact ⟨some .cancel, .stirred e _ nofun, hr, ho⟩
  have effects (out : List Connection.Supervisor.Effect) :
      feedOutputs (out.map Output.connection) = [] := feedOutputs_map (fun _ => rfl) out
  have orders (s' : Service) (e' : Manager.Event) : feedOutputs (s'.manage e').2 = [] :=
    feedOutputs_map (fun _ => rfl) _
  have hstep := s.step_cases e
  generalize s.step e = r at hstep ⊢
  cases hstep with
  | idle e he => exact still hf rfl
  | start k' hi => exact managed (manage_feed hs hf _) (orders _ _)
  | shutDown hi => exact managed (manage_feed hs hf _) (orders _ _)
  | giveUp => exact managed (manage_feed (hs.tell _) hf _) (orders _ _)
  | wait now answer k' wait hc => exact managed (manage_feed hs hf _) (orders _ _)
  | joined t broken hb => exact managed (manage_feed hs hf _) (orders _ _)
  | close w hr => exact still hf (effects _)
  | closed w hr =>
    refine managed (manage_feed (hs.tell (w.event closeTicket)) hf .closed) ?_
    rw [feedOutputs_append, effects, orders]
    rfl
  | cancel k' => exact managed (cancel_feed hf k') rfl
  | noted e n hn hq hw hg hl =>
    refine ⟨some n, ?_, by simp [hf, stir], ?_⟩
    · rcases hl with rfl | ⟨id, rfl⟩ <;> exact .stirred e _ nofun
    · rcases hl with rfl | ⟨id, rfl⟩ <;> rfl
  | feed now answer k' f' hs' ha =>
    cases hf.symm.trans hs'
    obtain ⟨hfeed, hslot⟩ := feedTurn_feed s k f now answer
    refine ⟨some (.turn now s.connection.slot answer), ?_, hfeed, feedOutputs_feed _⟩
    rw [hslot]
    exact .turned now answer ha
  | reconnect now w k' f' hs' hp hc =>
    cases hf.symm.trans hs'
    obtain ⟨hfeed, hslot⟩ := feedTurn_feed (s.tell (w.event feedTicket)) k f now
      (outcome? (s.wake feedTicket w))
    refine ⟨some (.turn now _ (outcome? (s.wake feedTicket w))), ?_, hfeed, ?_⟩
    · rw [hslot]
      exact .reconnects now w hp hc
    · rw [feedOutputs_append, effects, List.nil_append]
      exact feedOutputs_feed _
  | poller now answer k' p hs' => exact still hf (feedOutputs_map (fun _ => rfl) _)
  | guestAsks n kind => exact still hf rfl
  | guest n w => exact still hf (effects _)
  | guestLeaves n => exact still hf rfl

end WorkBridge.Service
