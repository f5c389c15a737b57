import WorkBridge.Proofs.Stats.Ending

/-!
What a step of a poller comes to for its samples.

Of all that a poller does the requests, the records and the complaints have to do with its ticks
(`Output.ofTick`).  A step does nothing of the kind, or it takes a tick, or it goes on with a sample
that has got an answer: `moved`.
-/

namespace WorkBridge.Stats.Poller

open Node (ClientId)

/-! ### Outputs of a sample -/

def sampledEntry (s : Sample) : LogEntry :=
  entry .debug "Sampled network stats" [("sample", s.text)]

def failedEntry (e : Error) : LogEntry :=
  entry .warn "Failed to sample network stats" [("err", e.message)]

def verdict : Except Error Sample → List Output
  | .ok s => [.log (sampledEntry s), .record s]
  | .error e => [.log (failedEntry e)]

namespace Output

/-- Whether an output has to do with a tick.  What is logged of the task itself is for information
only. -/
def ofTick : Output → Bool
  | .request _ => true
  | .record _ => true
  | .log e => e.level ≠ .info
  | .abandon => false

end Output

variable {p : Poller} {s : Stimulus}

theorem ofTick_verdict {r : Except Error Sample} {o : Output} (h : o ∈ verdict r) :
    o.ofTick = true := by
  revert o
  cases r <;> simp [verdict, Output.ofTick, sampledEntry, failedEntry, entry]

/-- What comes of going on with a sample. -/
def said (window : Nat) : Progress → List Output
  | .done r => verdict r
  | progress => ((progress.request? window).map .request).toList

theorem ofTick_awaitTick (p : Poller) : p.awaitTick.2.filter Output.ofTick = [] := by
  unfold awaitTick
  split <;> rfl

theorem ofTick_proceed (p : Poller) (progress : Progress) :
    (p.proceed progress).2.filter Output.ofTick = said p.settings.window progress := by
  match progress with
  | .askDag client => rfl
  | .askEstimate client info tip => rfl
  | .done (.ok sample) => rfl
  | .done (.error e) =>
    show Output.log (failedEntry e) :: p.awaitTick.2.filter Output.ofTick = _
    rw [ofTick_awaitTick]
    rfl

theorem said_ne_nil (window : Nat) (progress : Progress) : said window progress ≠ [] := by
  match progress with
  | .askDag client => exact List.cons_ne_nil _ _
  | .askEstimate client info tip => exact List.cons_ne_nil _ _
  | .done (.ok sample) => exact List.cons_ne_nil _ _
  | .done (.error e) => exact List.cons_ne_nil _ _

theorem ofTick_hello (hp : p.point = .ready) (now : Nat) (slot : Option ClientId)
    (answer : Option Answer) : (p.turn now slot answer).2.filter Output.ofTick = [] := by
  unfold turn
  rw [hp]
  dsimp only
  split
  · exact ofTick_awaitTick _
  · rfl

/-! ### Steps -/

def Stimulus.breaksOff : Stimulus → Bool
  | .abort => true
  | .turn _ _ (some .crashed) => true
  | _ => false

/-- What can end a poller that goes round. -/
def mayEnd (p : Poller) (s : Stimulus) : Prop :=
  p.cancelled = true ∨ s.breaksOff = true ∨
    ∃ now slot answer t, s = .turn now slot answer ∧ p.ticker = some t ∧ t.tick? now = none

/-- How a sample goes on with an answer. -/
inductive Follows : Progress → Answer → Progress → Prop
  | dag (client : ClientId) (r : Except Node.ClientError Node.DagInfo) :
      Follows (.askDag client) (.dag r) (.onDag client r)
  | estimate (client : ClientId) (info : Node.DagInfo) (tip : String)
      (r : Except Node.ClientError Nat) :
      Follows (.askEstimate client info tip) (.estimate r) (.onEstimate info r)

/-- What a step comes to, as far as samples and ticks are concerned. -/
inductive Moved (p : Poller) (s : Stimulus) : Prop
  | idle (hq : (p.step s).2.filter Output.ofTick = [])
      (hp : (p.step s).1.point = p.point) (ht : (p.step s).1.ticker = p.ticker)
  | ended (hq : (p.step s).2.filter Output.ofTick = [])
      (he : (p.step s).1.isEnded = true)
      (h : p.point = .ready ∨ p.mayEnd s ∧ (p.step s).1.ticker = p.ticker)
  | hello (hq : (p.step s).2.filter Output.ofTick = []) (hp : p.point = .ready)
      (now : Nat) (slot : Option ClientId) (answer : Option Answer)
      (hs : s = .turn now slot answer) (ticker : Ticker)
      (ht : Ticker.start? now p.settings.interval.toMillis = some ticker)
      (hn : (p.step s).1 = { p with point := .ticking, ticker := some ticker })
  | recorded (hq : (p.step s).2.filter Output.ofTick = []) (hp : p.point = .recording)
      (hn : (p.step s).1 = { p with point := .ticking })
  | tick (now : Nat) (slot : Option ClientId) (answer : Option Answer)
      (hs : s = .turn now slot answer) (hp : p.point = .ticking) (hc : p.cancelled = false)
      (t ticker : Ticker) (ht : p.ticker = some t) (hd : t.due ≤ now)
      (hk : t.tick? now = some ticker)
      (hn : p.step s = { p with ticker := some ticker }.proceed (.start slot))
  | goOn (now : Nat) (slot : Option ClientId) (answer : Answer)
      (hs : s = .turn now slot (some answer)) (progress next : Progress)
      (hp : p.point = .sampling progress) (hf : Follows progress answer next)
      (hn : p.step s = p.proceed next)

theorem awaitTick_cases (p : Poller) :
    p.cancelled = true ∧ p.awaitTick.1.isEnded = true ∨
      p.awaitTick.1 = { p with point := .ticking } := by
  unfold awaitTick
  split
  · rename_i hc
    exact .inl ⟨hc, rfl⟩
  · exact .inr rfl

theorem moved (p : Poller) (s : Stimulus) : Moved p s := by
  cases s with
  | cancel => exact .idle rfl rfl rfl
  | abort =>
    by_cases he : p.isEnded = true
    · have hstep : p.step .abort = (p, []) := if_pos he
      exact .idle (by rw [hstep]; rfl) (by rw [hstep]) (by rw [hstep])
    · have hstep : p.step .abort = abandoning p.fail := if_neg he
      refine .ended (by rw [hstep]; rfl) (by rw [hstep]; rfl) (.inr ⟨.inr (.inl rfl), ?_⟩)
      rw [hstep]
      rfl
  | turn now slot answer =>
    have hcases := turn_cases p now slot answer
    have hstep : p.step (.turn now slot answer) = p.turn now slot answer := rfl
    generalize hr : p.turn now slot answer = r at hcases hstep
    cases hcases with
    | stay hi => exact .idle (by rw [hstep]; rfl) (by rw [hstep]) (by rw [hstep])
    | hello hp ticker ht e =>
      have hq := ofTick_hello hp now slot answer
      rcases awaitTick_cases { p with ticker := some ticker } with ⟨hc, he⟩ | hn
      · exact .ended hq (by rw [hstep]; exact he) (.inl hp)
      · exact .hello hq hp now slot answer rfl ticker ht (by rw [hstep]; exact hn)
    | helloFailing hp ht e =>
      exact .ended (ofTick_hello hp now slot answer) (by rw [hstep]; rfl) (.inl hp)
    | cancelled hc =>
      exact .ended (by rw [hstep]; rfl) (by rw [hstep]; rfl)
        (.inr ⟨.inl hc, by rw [hstep]; rfl⟩)
    | abandoned hc =>
      exact .ended (by rw [hstep]; rfl) (by rw [hstep]; rfl)
        (.inr ⟨.inl hc, by rw [hstep]; rfl⟩)
    | tick hp hc t ticker ht hd hk =>
      exact .tick now slot answer rfl hp hc t ticker ht hd hk hstep
    | tickFailing hp hc t ht hk =>
      exact .ended (by rw [hstep]; rfl) (by rw [hstep]; rfl)
        (.inr ⟨.inr (.inr ⟨now, slot, answer, t, rfl, ht, hk⟩), by rw [hstep]; rfl⟩)
    | dag client i hp hc ha =>
      subst ha
      exact .goOn now slot _ rfl _ _ hp (.dag client i) hstep
    | estimate client info tip i hp hc ha =>
      subst ha
      exact .goOn now slot _ rfl _ _ hp (.estimate client info tip i) hstep
    | recorded hp ha =>
      have hq : (p.step (.turn now slot answer)).2.filter Output.ofTick = [] := by
        rw [hstep]
        exact ofTick_awaitTick p
      rcases awaitTick_cases p with ⟨hc, he⟩ | hn
      · refine .ended hq (by rw [hstep]; exact he) (.inr ⟨.inl hc, ?_⟩)
        obtain ⟨point, hpoint⟩ := awaitTick_eq p
        rw [hstep, hpoint]
      · exact .recorded hq hp (by rw [hstep]; exact hn)
    | crashed ha =>
      exact .ended (by rw [hstep]; rfl) (by rw [hstep]; rfl)
        (.inr ⟨.inr (.inl (by rw [ha]; rfl)), by rw [hstep]; rfl⟩)

end WorkBridge.Stats.Poller
