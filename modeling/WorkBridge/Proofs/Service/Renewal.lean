import WorkBridge.Proofs.Feed.Tokens
import WorkBridge.Proofs.Service.Turns

/-!
What a feed holds as it checks the node again after a reconnect.

After a reconnect that returns well, the feed checks at once if what it holds is still active, and
otherwise registers again on the client that is in the slot then.  Until the answer comes nothing it
does touches the slot (`slot_run`), and the check follows with what came of it (`renewed_run`).
-/

namespace WorkBridge

open Connection (Supervisor)
open Manager (Token)
open Metrics (Registry Update pushEnabledKey flag)
open Node (ClientId)

namespace Feed

variable {f : Feed} {now : Nat} {slot : Option ClientId} {answer : Option Answer}

def Output.registers? : Output → Option ClientId
  | .register c => some c
  | _ => none

def Output.queries? : Output → Option ClientId
  | .query c => some c
  | _ => none

def registers (out : List Output) : List ClientId := out.filterMap Output.registers?

/-- The clients that are asked whether the node is synced. -/
def queries (out : List Output) : List ClientId := out.filterMap Output.queries?

/-- A sync check starts.  Without a client it fails at once. -/
structure StartsCheck (slot : Option ClientId) (r : Feed × List Output) : Prop where
  asked : queries r.2 = slot.toList
  point : r.1.point = .checking ∨ slot = none ∧ ∃ wakeAt, r.1.point = .degraded wakeAt

theorem StartsCheck.isEnded_eq {r : Feed × List Output} (h : StartsCheck slot r) :
    r.1.isEnded = false := by
  rcases h.point with hp | ⟨-, wakeAt, hp⟩ <;> simp [isEnded, hp]

theorem hold_outputs (f : Feed) (i : Except Node.Error Grant) :
    registers (f.hold i).2.1 = [] ∧ queries (f.hold i).2.1 = [] := by
  cases i <;> cases hh : f.held <;> simp [hold, releaseHeld, hh, registers, queries,
    Output.registers?, Output.queries?]

theorem query_reconnected (hr : f.reconnected = true) (hc : f.cancelled = false) (now : Nat)
    (slot : Option ClientId) :
    StartsCheck slot (f.query now slot) ∧ registers (f.query now slot).2 = [] := by
  unfold query
  cases slot with
  | some c => exact ⟨⟨rfl, .inl rfl⟩, rfl⟩
  | none =>
    simp only [checkFailed, hr, if_true, backOff, hc, Bool.false_eq_true, if_false]
    exact ⟨⟨rfl, .inr ⟨rfl, _, rfl⟩⟩, rfl⟩

/-- What comes of a feed that registers again after a reconnect. -/
inductive Renewing (f : Feed) (s : Stimulus) (r : Feed × List Output) : Prop
  | waits (hp : r.1.point = .registering .renewal) (hr : r.1.reconnected = f.reconnected)
      (ho : r.2 = [])
  | ended (he : r.1.isEnded = true)
  | ends (now : Nat) (slot : Option ClientId) (i : Except Node.ClientError Grant)
      (hs : s = .turn now slot (some (.registered i)))
      (hh : r.1.held = f.heldAfter (some (i.mapError .registration)))
      (ht : pushes r.2 = [i.isOk]) (ho : registers r.2 = []) (hc : StartsCheck slot r)

theorem renewing_registered (hr : f.reconnected = true) (hc : f.cancelled = false) (now : Nat)
    (slot : Option ClientId) (i : Except Node.ClientError Grant) :
    Renewing f (.turn now slot (some (.registered i)))
      (f.registered now slot .renewal (i.mapError .registration)) := by
  have h := Reckoned.registered f now slot .renewal (i.mapError .registration)
  obtain ⟨held, hhold, -⟩ := Aside.hold f (i.mapError .registration)
  obtain ⟨hregisters, hqueries⟩ := hold_outputs f (i.mapError .registration)
  obtain ⟨hcheck, hnone⟩ := query_reconnected (f := { f with held }) hr hc now slot
  have heq : f.registered now slot .renewal (i.mapError .registration) =
      (({ f with held }.query now slot).1, (f.hold (i.mapError .registration)).2.1 ++
        ({ f with held }.query now slot).2) := by
    simp [registered, hhold, check, hc]
  rw [heq] at h ⊢
  have hstarts : StartsCheck slot (({ f with held }.query now slot).1,
      (f.hold (i.mapError .registration)).2.1 ++ ({ f with held }.query now slot).2) := by
    refine ⟨?_, hcheck.point⟩
    rw [queries, List.filterMap_append]
    exact (congrArg (· ++ _) hqueries).trans hcheck.asked
  have hheld := h.held
  rw [hstarts.isEnded_eq] at hheld
  refine .ends now slot i rfl hheld (h.told.trans ?_) ?_ hstarts
  · cases i <;> rfl
  · rw [registers, List.filterMap_append]
    exact (congrArg (· ++ _) hregisters).trans hnone

theorem renewing_step (hp : f.point = .registering .renewal) (hr : f.reconnected = true)
    (s : Stimulus) : Renewing f s (f.step s) := by
  cases s with
  | cancel => exact .waits hp rfl rfl
  | notify => exact .waits hp rfl rfl
  | lapse id =>
    obtain ⟨held, hf⟩ := lapse_eq f id
    rw [step, hf]
    exact .waits hp rfl rfl
  | abort =>
    have hn : f.isEnded = false := by simp [isEnded, hp]
    simp only [step, abort, hn, Bool.false_eq_true, if_false]
    exact .ended rfl
  | turn now slot answer =>
    unfold step turn
    simp only [hp]
    cases hc : f.cancelled with
    | true => exact .ended rfl
    | false =>
      cases answer with
      | none => exact .waits hp rfl rfl
      | some a =>
        cases a with
        | registered i => exact renewing_registered hr hc now slot i
        | crashed => exact .ended rfl
        | _ => exact .waits hp rfl rfl

end Feed

namespace Service

open Feed (registers queries pushes StartsCheck)

variable {s : Service} {e : Event} {k : Token} {f : Feed} {c : ClientId}

/-- A reconnect of the feed returns well. -/
inductive Returns (s : Service) (o : Connection.Outcome) : Event → Prop
  | returns (now : Nat) (w : Wake) (k : Token) (f : Feed) (hf : s.feed = some (k, f))
      (hp : f.point = .reconnecting) (hc : f.cancelled = false)
      (ho : outcome? (s.wake feedTicket w) = some (.reconnected (.ok o))) :
    Returns s o (.reconnect now w)

def isRenewing (s : Service) : Bool := s.feed.any fun t => t.2.point = .registering .renewal

def goesOn (s : Service) : Bool := s.feed.any fun t => !t.2.isEnded

/-- Whether the feed, after a reconnect, registers until the last event of a run, and then goes on
with a sync check. -/
def comesToCheck (s : Service) : List Event → Bool
  | [] => !s.isRenewing && s.goesOn
  | e :: es => s.isRenewing && (s.step e).1.comesToCheck es

theorem isRenewing_eq (hf : s.feed = some (k, f)) :
    s.isRenewing = decide (f.point = .registering .renewal) := by
  unfold isRenewing
  rw [hf]
  rfl

theorem goesOn_eq (hf : s.feed = some (k, f)) : s.goesOn = !f.isEnded := by
  unfold goesOn
  rw [hf]
  rfl

/-! ### The slot meanwhile -/

/-- A guest's close takes the client in a run. -/
def TakenByGuest (s : Service) (es : List Event) : Prop :=
  ∃ before n rest, es = before ++ .guest n .proceed :: rest ∧
    (s.after before).connection.isNext (guestTicket n) .close = true

theorem mem_line_of_isNext {connection : Supervisor} {t : Nat} {kind : Connection.Kind}
    (h : connection.isNext t kind = true) : kind ∈ connection.line t := by
  unfold Supervisor.isNext at h
  obtain ⟨call, hcall, hkind⟩ := Option.any_eq_true _ _ |>.mp h
  obtain ⟨rest, hcalls, ht⟩ := Supervisor.calls_of_holder hcall
  simp only [Bool.and_eq_true, decide_eq_true_eq] at hkind
  rw [Supervisor.line_cons hcalls, if_pos ht]
  exact List.mem_append_left _ (by simp [hkind.1])

theorem not_closing_of_goesOn (hs : Crew s) (hg : s.goesOn = true) : s.isClosing = false := by
  refine Bool.eq_false_iff.mpr fun hc => ?_
  obtain ⟨⟨k, f⟩, hf, hn⟩ := (Option.any_eq_true _ _).mp hg
  have hseen := hs.seen .feed ⟨k, f.cancelled, f.isEnded⟩ (by simp [task?, hf])
  rw [hs.closing (closing_of_isClosing hc)] at hseen
  rcases hseen with hmem | hended
  · cases hmem
  · have hended : f.isEnded = true := hended
    simp [hended] at hn

/-- While the feed goes on, only a guest can take the client out of the slot. -/
theorem slot_step (hs : Sound s) (hg : s.goesOn = true) (hc : s.connection.slot = some c)
    (e : Event) : (s.step e).1.connection.slot = some c ∨
      ∃ n, e = .guest n .proceed ∧ s.connection.isNext (guestTicket n) .close = true := by
  obtain ⟨-, hslot⟩ := s.step_woken e
  rw [hslot.slot]
  cases hw : s.woken? e with
  | none =>
    rw [woken_of_none hw]
    exact .inl hc
  | some e' =>
    rw [woken_of_some hw]
    refine ((s.connection.step_move e').kept hs.lined.orderly hc).imp_right ?_
    rintro ⟨t, rfl, hnext⟩
    have hline := mem_line_of_isNext hnext
    cases e with
    | close w =>
      -- The manager does not close before the feed has ended.
      have ht : t = closeTicket := by cases w <;> simp_all [woken?, Wake.event]
      rw [ht, hs.lined.close, not_closing_of_goesOn hs.crew hg] at hline
      cases hline
    | reconnect now w =>
      -- The feed itself asks for reconnects only.
      have ht : t = feedTicket := by
        unfold woken? at hw
        dsimp only at hw
        split at hw
        · cases w <;> simp_all [Wake.event]
        · cases hw
      rw [ht, hs.lined.feed] at hline
      cases hr : s.isReconnecting <;> simp [hr] at hline
    | guest n w =>
      cases w with
      | proceed =>
        cases hw
        exact ⟨n, rfl, hnext⟩
      | _ => cases hw
    | _ => cases hw

theorem goesOn_of_comesToCheck {es : List Event} (h : s.comesToCheck es = true) :
    s.goesOn = true := by
  cases es with
  | nil => exact (Bool.and_eq_true_iff.mp h).2
  | cons e es =>
    obtain ⟨⟨k, f⟩, hf, hp⟩ := (Option.any_eq_true _ _).mp (Bool.and_eq_true_iff.mp h).1
    have hp' : f.point = .registering .renewal := by simpa using hp
    rw [goesOn_eq hf, Feed.isEnded, hp']
    rfl

theorem slot_run (hs : Sound s) (hc : s.connection.slot = some c) {es : List Event}
    (hcheck : s.comesToCheck es = true) :
    (s.after es).connection.slot = some c ∨ s.TakenByGuest es := by
  induction es generalizing s with
  | nil => exact .inl hc
  | cons e es ih =>
    rcases slot_step hs (goesOn_of_comesToCheck hcheck) hc e with hslot | ⟨n, rfl, hnext⟩
    · refine (ih (hs.step e) hslot (Bool.and_eq_true_iff.mp hcheck).2).imp_right ?_
      rintro ⟨before, n, rest, rfl, hnext⟩
      exact ⟨e :: before, n, rest, rfl, hnext⟩
    · exact .inr ⟨[], n, es, rfl, hnext⟩

/-! ### Registering again -/

/-- What comes of registering again, where it comes to a sync check. -/
structure Renewed (s : Service) (es : List Event) : Prop where
  registers : registers (feedOutputs (s.outputs es)) = []
  queries : queries (feedOutputs (s.outputs es)) = (s.after es).connection.slot.toList
  ended : ∃ before now i k f, es = before ++ [.feed now (some (.registered i))] ∧
    (s.after es).feed = some (k, f) ∧ f.held = i.toOption ∧
    pushes (feedOutputs (s.outputs es)) = [i.isOk]

theorem renewed_run (hs : Sound s) (hf : s.feed = some (k, f))
    (hp : f.point = .registering .renewal) (hr : f.reconnected = true) {es : List Event}
    (hcheck : s.comesToCheck es = true) : Renewed s es := by
  induction es generalizing s f with
  | nil => simp [comesToCheck, isRenewing_eq hf, hp] at hcheck
  | cons e es ih =>
    obtain ⟨-, hrest⟩ := Bool.and_eq_true_iff.mp hcheck
    obtain ⟨n, hn, hf', hout⟩ := step_feed hs.crew hf e
    -- As long as the answer does not come, nothing is done.
    have later (hp' : (stir f n).1.point = .registering .renewal)
        (hr' : (stir f n).1.reconnected = true) (ho : (stir f n).2 = []) :
        Renewed s (e :: es) := by
      have h := ih (hs.step e) hf' hp' hr' hrest
      have hsame : feedOutputs (s.outputs (e :: es)) =
          feedOutputs ((s.step e).1.outputs es) := by
        rw [outputs, feedOutputs_append, hout, ho, List.nil_append]
      obtain ⟨before, now, i, k', f', hes, hlast, hheld, hpushes⟩ := h.ended
      exact {
        registers := hsame ▸ h.registers
        queries := hsame ▸ h.queries
        ended := ⟨e :: before, now, i, k', f', by rw [hes]; rfl, hlast, hheld,
          hsame ▸ hpushes⟩ }
    cases n with
    | none => exact later hp hr rfl
    | some n =>
      cases Feed.renewing_step hp hr n with
      | waits hp' hr' ho => exact later hp' (hr'.trans hr) ho
      | ended he =>
        have hg := goesOn_of_comesToCheck hrest
        rw [goesOn_eq hf', stir, he] at hg
        cases hg
      | ends now slot i hn' hh ht ho hc =>
        subst hn'
        -- The check has started, so that was the last event.
        have hlast : es = [] := by
          cases es with
          | nil => rfl
          | cons e' es =>
            have hrenewing := (Bool.and_eq_true_iff.mp hrest).1
            rw [isRenewing_eq hf', stir] at hrenewing
            rcases hc.point with hp' | ⟨-, wakeAt, hp'⟩ <;> simp [hp'] at hrenewing
        subst hlast
        have hsame : feedOutputs (s.outputs [e]) =
            (f.step (.turn now slot (some (.registered i)))).2 := by
          rw [outputs, outputs, List.append_nil, hout, stir]
        obtain ⟨rfl, he⟩ := hn.turned_or_reconnecting
        obtain rfl : e = .feed now (some (.registered i)) :=
          he.resolve_right fun hp' => by cases hp.symm.trans hp'
        refine ⟨hsame ▸ ho, hsame ▸ hc.asked, [], now, i, k, _, rfl, hf', ?_, hsame ▸ ht⟩
        rw [stir, hh]
        cases i <;> rfl

/-! ### The reconnect -/

def held (s : Service) : Option Feed.Grant := s.feed.bind (·.2.held)

theorem slot_of_reconnected {connection : Supervisor} {e : Supervisor.Event}
    {r : Supervisor × List Supervisor.Effect} (hm : Supervisor.Move connection e r)
    (h : connection.Orderly) {t : Nat} {o : Connection.Outcome}
    (hd : .done t (.reconnected (.ok o)) ∈ r.2) : ∃ c, r.1.slot = some c := by
  cases hm with
  | replaced t' kind client rest hc => exact ⟨client, rfl⟩
  | reestablished t' kind client rest hc => exact ⟨client, (h.holder _ _ hc).2⟩
  | _ => simp [Supervisor.fail, Supervisor.settle] at hd

theorem step_reconnect (hf : s.feed = some (k, f)) (hp : f.point = .reconnecting)
    (hc : f.cancelled = false) (now : Nat) (w : Wake) :
    s.step (.reconnect now w) =
      (((s.tell (w.event feedTicket)).feedTurn k f now (outcome? (s.wake feedTicket w))).1,
        (s.wake feedTicket w).map .connection ++
          ((s.tell (w.event feedTicket)).feedTurn k f now (outcome? (s.wake feedTicket w))).2) := by
  simp only [step, hf, hp, hc, and_self, if_true]
  rfl

/-- The turn of a feed in which its reconnect returns well. -/
theorem step_returns (hs : Sound s) {o : Connection.Outcome} (hr : Returns s o e) :
    ∃ k f now c, s.feed = some (k, f) ∧ f.point = .reconnecting ∧ f.cancelled = false ∧
      (s.step e).1.connection.slot = some c ∧
      (s.step e).1.feed =
        some (k, (f.turn now (some c) (some (.reconnected (.ok o)))).1) ∧
      feedOutputs (s.step e).2 = (f.turn now (some c) (some (.reconnected (.ok o)))).2 := by
  obtain ⟨now, w, k, f, hf, hp, hc, ho⟩ := hr
  have hd : .reconnected (.ok o) ∈ Supervisor.results (s.wake feedTicket w) := by
    unfold outcome? at ho
    split at ho
    · rename_i i hi
      cases ho
      rw [hi]
      exact List.mem_singleton_self _
    · cases ho
  obtain ⟨t, ht⟩ := Supervisor.mem_results.mp hd
  obtain ⟨c, hslot⟩ := slot_of_reconnected (s.connection.step_move _) hs.lined.orderly ht
  obtain ⟨hfeed, hsame⟩ := feedTurn_feed (s.tell (w.event feedTicket)) k f now
    (outcome? (s.wake feedTicket w))
  have hslot' : (s.tell (w.event feedTicket)).connection.slot = some c := hslot
  refine ⟨k, f, now, c, hf, hp, hc, ?_⟩
  rw [step_reconnect hf hp hc, hsame, hfeed, hslot', ho, feedOutputs_append,
    feedOutputs_map (fun _ => rfl)]
  refine ⟨rfl, rfl, ?_⟩
  rw [List.nil_append]
  show feedOutputs (List.map _ _) = _
  rw [feedOutputs_feed, hslot']
  rfl

/-! ### The gauge meanwhile -/

def Output.update? : Output → Option Update
  | .connection (.update u) => some u
  | .feed (.update u) => some u
  | _ => none

def updates (out : List Output) : List Update := out.filterMap Output.update?

theorem pushed?_of_connection (s : Service) (es : List Event) {u : Update}
    (hu : .connection (.update u) ∈ s.outputs es) : u.pushed? = none := by
  induction es generalizing s with
  | nil => cases hu
  | cons e es ih =>
    rcases List.mem_append.mp hu with hu | hu
    · rw [← mem_effects, (s.step_woken e).1] at hu
      cases hw : s.woken? e with
      | none =>
        rw [woken_of_none hw] at hu
        cases hu
      | some e' =>
        rw [woken_of_some hw] at hu
        have hmem : u ∈ Supervisor.updates (s.connection.step e').2 :=
          List.mem_filterMap.mpr ⟨_, hu, rfl⟩
        rw [(s.connection.step_move e').told.1] at hmem
        obtain ⟨i, -, hi⟩ := List.mem_flatMap.mp hmem
        rcases List.mem_cons.mp hi with rfl | hi
        · rfl
        · obtain ⟨b, -, rfl⟩ := List.mem_map.mp hi
          rfl
    · exact ih _ hu

theorem pushed?_updates {out : List Output}
    (h : ∀ u, .connection (.update u) ∈ out → u.pushed? = none) :
    (updates out).filterMap Update.pushed? = pushes (feedOutputs out) := by
  induction out with
  | nil => rfl
  | cons o out ih =>
    have hrest := ih fun u hu => h u (List.mem_cons_of_mem _ hu)
    cases o with
    | connection x =>
      cases x with
      | update u =>
        show (u :: updates out).filterMap Update.pushed? = _
        rw [List.filterMap_cons_none (h u List.mem_cons_self)]
        exact hrest
      | _ => exact hrest
    | feed x =>
      cases x with
      | update u =>
        show (u :: updates out).filterMap _ = (Feed.Output.update u :: feedOutputs out).filterMap _
        rw [List.filterMap_cons, List.filterMap_cons, hrest]
        rfl
      | _ => exact hrest
    | _ => exact hrest

/-- The gauge of notifications shows what the feed has told it last. -/
theorem gauge_of_pushes (s : Service) (es : List Event) (reg : Registry) {b : Bool}
    (hb : pushes (feedOutputs (s.outputs es)) = [b]) :
    Registry.reading? pushEnabledKey ((updates (s.outputs es)).foldl Update.apply reg) =
      some (.gauge (flag b)) := by
  rw [Update.push_reading, pushed?_updates fun u hu => pushed?_of_connection s es hu, hb]
  rfl

/-! ### The discipline -/

/-- What a feed holds as it starts a sync check right after a reconnect that ended so, and left
this client in the slot.  Either what it held before is still active, or it has tried once, on that
client, to register again; then it holds what came of it, and the gauge shows whether that is
anything. -/
inductive HoldsAfter (s : Service) (e : Event) (since : List Event) (o : Connection.Outcome)
    (c : ClientId) : Prop
  | kept (g : Feed.Grant) (ho : o = .reestablished) (hs : since = [])
      (hr : registers (feedOutputs (s.outputs (e :: since))) = [])
      (hg : s.held = some g) (ha : g.active = true) (hheld : (s.after (e :: since)).held = some g)
  | again (before : List Event) (now : Nat) (i : Except Node.ClientError Feed.Grant)
      (hs : since = before ++ [.feed now (some (.registered i))])
      (hr : registers (feedOutputs (s.outputs (e :: since))) = [c])
      (hslot : (s.after (e :: since)).connection.slot = some c ∨
        (s.step e).1.TakenByGuest since)
      (hheld : (s.after (e :: since)).held = i.toOption)
      (hgauge : ∀ reg, Registry.reading? pushEnabledKey
        ((updates (s.outputs (e :: since))).foldl Update.apply reg) = some (.gauge (flag i.isOk)))

/-- A feed that does not renew what it holds checks at once. -/
theorem holdsAfter_kept {o : Connection.Outcome} {since : List Event}
    (hf : s.feed = some (k, f)) (hrenews : f.renews o = false)
    (hslot : (s.step e).1.connection.slot = some c) {f' : Feed}
    (hfeed : (s.step e).1.feed = some (k, f')) (hp : f'.point = .checking)
    (hheld : f'.held = f.held) (hout : feedOutputs (s.step e).2 = [.query c])
    (hcheck : (s.step e).1.comesToCheck since = true) :
    queries (feedOutputs (s.outputs (e :: since))) =
      (s.after (e :: since)).connection.slot.toList ∧ HoldsAfter s e since o c := by
  have hlast : since = [] := by
    cases since with
    | nil => rfl
    | cons e' since =>
      have hrenewing := (Bool.and_eq_true_iff.mp hcheck).1
      rw [isRenewing_eq hfeed, hp] at hrenewing
      cases hrenewing
  subst hlast
  have hsame : feedOutputs (s.outputs [e]) = [.query c] := by
    rw [outputs, outputs, List.append_nil, hout]
  obtain ⟨ho, hactive⟩ : o = .reestablished ∧ f.pushActive = true := by
    cases o <;> simp_all [Feed.renews]
  obtain ⟨g, hg, hga⟩ : ∃ g, f.held = some g ∧ g.active = true := by
    unfold Feed.pushActive at hactive
    split at hactive
    · rename_i g hg
      exact ⟨g, hg, hactive⟩
    · cases hactive
  refine ⟨?_, .kept g ho rfl ?_ ?_ hga ?_⟩
  · rw [hsame]
    show [c] = (s.step e).1.connection.slot.toList
    rw [hslot]
    rfl
  · rw [hsame]
    rfl
  · rw [held, hf]
    exact hg
  · show held (s.step e).1 = _
    rw [held, hfeed]
    exact hheld.trans hg

/-- A feed that registers on the client that is there now. -/
theorem holdsAfter_again (hs : Sound s) {o : Connection.Outcome} {since : List Event}
    (hslot : (s.step e).1.connection.slot = some c) (hfeed : (s.step e).1.feed = some (k, f))
    (hp : f.point = .registering .renewal) (hr : f.reconnected = true)
    (hout : feedOutputs (s.step e).2 = [.register c])
    (hcheck : (s.step e).1.comesToCheck since = true) :
    queries (feedOutputs (s.outputs (e :: since))) =
      (s.after (e :: since)).connection.slot.toList ∧ HoldsAfter s e since o c := by
  have h := renewed_run (hs.step e) hfeed hp hr hcheck
  obtain ⟨before, now, i, k', f', hes, hlast, hheld, hpushes⟩ := h.ended
  have houts : feedOutputs (s.outputs (e :: since)) =
      [.register c] ++ feedOutputs ((s.step e).1.outputs since) := by
    rw [outputs, feedOutputs_append, hout]
  have hqueries : queries (feedOutputs (s.outputs (e :: since))) =
      (s.after (e :: since)).connection.slot.toList := by
    rw [houts, queries, List.filterMap_append]
    exact h.queries
  refine ⟨hqueries, .again before now i hes ?_ (slot_run (hs.step e) hslot hcheck) ?_ fun reg => ?_⟩
  · rw [houts, registers, List.filterMap_append]
    exact congrArg ([c] ++ ·) h.registers
  · show held ((s.step e).1.after since) = _
    rw [held, hlast]
    exact hheld
  · refine gauge_of_pushes s _ reg ?_
    rw [houts, pushes, List.filterMap_append]
    exact hpushes

theorem check_after_reconnect (hs : Sound s) {o : Connection.Outcome} (hr : Returns s o e)
    {since : List Event} (hcheck : (s.step e).1.comesToCheck since = true) :
    ∃ c, (s.step e).1.connection.slot = some c ∧
      queries (feedOutputs (s.outputs (e :: since))) =
        (s.after (e :: since)).connection.slot.toList ∧ HoldsAfter s e since o c := by
  obtain ⟨k, f, now, c, hf, hp, hc, hslot, hfeed, hout⟩ := step_returns hs hr
  refine ⟨c, hslot, ?_⟩
  unfold Feed.turn at hfeed hout
  simp only [hp, hc, Bool.false_eq_true, if_false, Feed.reconnectEnded_ok] at hfeed hout
  cases hrenews : f.renews o with
  | true =>
    simp only [hrenews, if_true, Feed.register, Bool.false_eq_true, if_false] at hfeed hout
    exact holdsAfter_again hs hslot hfeed rfl rfl hout hcheck
  | false =>
    simp only [hrenews, Bool.false_eq_true, if_false, Feed.check, Feed.query] at hfeed hout
    exact holdsAfter_kept hf hrenews hslot hfeed rfl rfl hout hcheck

/-- The subscriptions of a feed.  In every run of a feed at most one of the tokens it was ever
granted is not cancelled, that of what it holds, and none once it has ended.  In every run of a
service, as the feed starts a sync check right after a reconnect that returned well, it holds what
was active as an in-place reconnect returned, or else it has tried exactly once to register again,
on the client that was in the slot as the reconnect returned, and holds what came of it.  That is
the client that it checks, unless a guest's close has taken it out of the slot meanwhile. -/
theorem subscription_discipline :
    (∀ (settings : Feed.Settings) (ss : List Feed.Stimulus),
      let f := (Feed.start settings).after ss
      let tokens := (Feed.start settings).tokens [] ss
      (∀ g ∈ tokens, g.active = true → f.held = some g) ∧ tokens.countP (·.active) ≤ 1 ∧
        (f.isEnded = true → ∀ g ∈ tokens, g.active = false) ∧
        ((tokens.map (·.id)).Nodup → ∀ g, f.held = some g → g ∈ tokens)) ∧
    (∀ (config : Config) (first : ClientId) (es : List Event) (e : Event) (since : List Event)
      (o : Connection.Outcome),
      let s := (opened config first).after es
      Returns s o e → (s.step e).1.comesToCheck since = true →
        ∃ c, (s.step e).1.connection.slot = some c ∧
          queries (feedOutputs (s.outputs (e :: since))) =
            (s.after (e :: since)).connection.slot.toList ∧
          HoldsAfter s e since o c) := by
  refine ⟨fun settings ss => ?_, fun config first es e since o => ?_⟩
  · have hs := Feed.sole_run settings ss
    have ht := (Feed.tidy_start settings).after ss
    refine ⟨hs.held, hs.one, fun he g hg => ?_, fun hn g => Feed.held_mem_tokens settings ss hn⟩
    refine Bool.eq_false_iff.mpr fun ha => ?_
    cases (ht he).symm.trans (hs.held g hg ha)
  · exact fun hr hcheck => check_after_reconnect (sound config first es) hr hcheck

/-- A feed is granted a registration, and reconnects as the node does not answer, by which the
registration is lost. -/
def losing : List Event := [
  .start 5, .wait 0 none, .wait 0 (some (.ok { isSynced := true })),
  .feed 0 none, .feed 0 (some (.registered (.ok ⟨1, true⟩))),
  .feed 0 (some (.info (.error .disconnected))), .reconnect 0 .proceed, .lapse 1]

def reconnected : Event := .reconnect 5 (.reconnected (.ok ()))

/-- It is granted another. -/
def renewing : List Event := [.feed 9 (some (.registered (.ok ⟨2, true⟩)))]

theorem discipline_of_renewing :
    let s := (opened {} 7).after losing
    Returns s .reestablished reconnected ∧
      (s.step reconnected).1.comesToCheck renewing = true ∧
      (s.after (reconnected :: renewing)).held = some ⟨2, true⟩ ∧
      ∃ c, (s.step reconnected).1.connection.slot = some c ∧
        queries (feedOutputs (s.outputs (reconnected :: renewing))) =
          (s.after (reconnected :: renewing)).connection.slot.toList ∧
        HoldsAfter s reconnected renewing .reestablished c := by
  have hr : Returns ((opened {} 7).after losing) .reestablished reconnected :=
    .returns 5 _ 5 _ rfl rfl rfl rfl
  exact ⟨hr, rfl, rfl, subscription_discipline.2 {} 7 losing reconnected renewing _ hr rfl⟩

/-- A guest closes the connection meanwhile and reconnects. -/
def replacing : List Event := [
  .guestAsks 0 .close, .guest 0 .proceed, .guest 0 .disconnected,
  .guestAsks 1 .reconnect, .guest 1 .proceed, .guest 1 (.connected (.ok 8))]

/-- The feed checks one client, and holds what it was granted on another, nothing that was active
as the reconnect returned. -/
theorem registered_on_closed_client :
    let s := (opened {} 7).after losing
    let since := replacing ++ renewing
    let out := s.outputs (reconnected :: since)
    let s' := s.after (reconnected :: since)
    Returns s .reestablished reconnected ∧ s.held = some ⟨1, false⟩ ∧
      (s.step reconnected).1.comesToCheck since = true ∧
      s'.held = some ⟨2, true⟩ ∧ registers (feedOutputs out) = [7] ∧
      s'.connection.slot = some 8 ∧ queries (feedOutputs out) = [8] := by
  refine ⟨?_, rfl, rfl, rfl, rfl, rfl, rfl⟩
  exact .returns 5 _ 5 _ rfl rfl rfl rfl

end Service
end WorkBridge
