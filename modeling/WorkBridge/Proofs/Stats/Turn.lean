import Mathlib.Data.List.Induction
import WorkBridge.Proofs.Clock.Ticker
import WorkBridge.Stats.Poller

/-!
Runs of a poller, and what a turn can do.

A run is a list of stimuli, in any order and with anything in the answers.  `turn_cases` says what
a turn comes to: which of the poller's few moves it makes, and when.
-/

namespace WorkBridge.Stats.Poller

open Node (ClientId)

/-- A poller before its first turn. -/
def start (settings : Settings) : Poller := { settings }

def after (p : Poller) (ss : List Stimulus) : Poller := ss.foldl (fun p s => (p.step s).1) p

/-- All that a poller does in a run. -/
def outputs (p : Poller) : List Stimulus → List Output
  | [] => []
  | s :: rest => (p.step s).2 ++ outputs (p.step s).1 rest

variable {settings : Settings} {p : Poller} {s : Stimulus} {now : Nat} {slot : Option ClientId}
  {answer : Option Answer} {r : Poller × List Output}

theorem after_append (p : Poller) (ss ts : List Stimulus) :
    p.after (ss ++ ts) = (p.after ss).after ts := List.foldl_append

theorem after_snoc (p : Poller) (ss : List Stimulus) (s : Stimulus) :
    p.after (ss ++ [s]) = ((p.after ss).step s).1 := after_append p ss [s]

/-- Whether a poller takes no notice of an answer. -/
def ignores (p : Poller) (answer : Option Answer) : Prop :=
  p.isEnded = true ∨ p.cancelled = false ∨
    p.point = .recording ∧ answer ≠ some .recorded ∧ answer ≠ some .crashed

inductive Turned (p : Poller) (now : Nat) (slot : Option ClientId) (answer : Option Answer) :
    Poller × List Output → Prop
  | stay (h : p.ignores answer) : Turned p now slot answer (p, [])
  | hello (hp : p.point = .ready) (ticker : Ticker)
      (ht : Ticker.start? now p.settings.interval.toMillis = some ticker) (e : LogEntry) :
      Turned p now slot answer
        ({ p with ticker := some ticker }.awaitTick.1,
          .log e :: { p with ticker := some ticker }.awaitTick.2)
  | helloFailing (hp : p.point = .ready)
      (ht : Ticker.start? now p.settings.interval.toMillis = none) (e : LogEntry) :
      Turned p now slot answer (p.fail.1, .log e :: p.fail.2)
  | cancelled (hc : p.cancelled = true) : Turned p now slot answer p.stop
  | abandoned (hc : p.cancelled = true) : Turned p now slot answer (abandoning p.stop)
  | tick (hp : p.point = .ticking) (hc : p.cancelled = false) (t ticker : Ticker)
      (ht : p.ticker = some t) (hd : t.due ≤ now) (hk : t.tick? now = some ticker) :
      Turned p now slot answer ({ p with ticker := some ticker }.proceed (.start slot))
  | tickFailing (hp : p.point = .ticking) (hc : p.cancelled = false) (t : Ticker)
      (ht : p.ticker = some t) (hk : t.tick? now = none) : Turned p now slot answer p.fail
  | dag (client : ClientId) (i : Except Node.ClientError Node.DagInfo)
      (hp : p.point = .sampling (.askDag client)) (hc : p.cancelled = false)
      (ha : answer = some (.dag i)) : Turned p now slot answer (p.proceed (.onDag client i))
  | estimate (client : ClientId) (info : Node.DagInfo) (tip : String)
      (i : Except Node.ClientError Nat) (hp : p.point = .sampling (.askEstimate client info tip))
      (hc : p.cancelled = false) (ha : answer = some (.estimate i)) :
      Turned p now slot answer (p.proceed (.onEstimate info i))
  | recorded (hp : p.point = .recording) (ha : answer = some .recorded) :
      Turned p now slot answer p.awaitTick
  | crashed (ha : answer = some .crashed) : Turned p now slot answer p.fail

theorem turn_cases (p : Poller) (now : Nat) (slot : Option ClientId) (answer : Option Answer) :
    Turned p now slot answer (p.turn now slot answer) := by
  unfold turn
  cases hp : p.point with
  | ready =>
    dsimp only
    cases ht : Ticker.start? now p.settings.interval.toMillis with
    | some ticker => exact .hello hp ticker ht _
    | none => exact .helloFailing hp ht _
  | ticking =>
    dsimp only
    split
    · rename_i hc
      exact .cancelled hc
    · rename_i hc
      have hc' : p.cancelled = false := by simpa using hc
      split
      · rename_i hd
        obtain ⟨t, ht, hready⟩ := Option.any_eq_true _ _ |>.mp hd
        have hdue : t.due ≤ now := by simpa [Ticker.ready] using hready
        unfold sample
        rw [ht, Option.bind_some]
        cases hk : t.tick? now with
        | some ticker => exact .tick hp hc' t ticker ht hdue hk
        | none => exact .tickFailing hp hc' t ht hk
      · exact .stay (.inr (.inl hc'))
  | sampling progress =>
    dsimp only
    split
    · rename_i hc
      exact .abandoned hc
    · rename_i hc
      have hc' : p.cancelled = false := by simpa using hc
      split
      · exact .dag _ _ hp hc' rfl
      · exact .estimate _ _ _ _ hp hc' rfl
      · exact .crashed rfl
      · exact .stay (.inr (.inl hc'))
  | recording =>
    dsimp only
    split
    · exact .recorded hp rfl
    · exact .crashed rfl
    · rename_i hr hcr
      exact .stay (.inr (.inr ⟨hp, hr, hcr⟩))
  | stopped => exact .stay (.inl (by rw [isEnded, hp]))
  | failed => exact .stay (.inl (by rw [isEnded, hp]))

/-! ### What a turn leaves as it is -/

theorem proceed_eq (p : Poller) (progress : Progress) :
    ∃ point, (p.proceed progress).1 = { p with point } := by
  unfold proceed
  split
  · exact ⟨_, rfl⟩
  · unfold awaitTick
    dsimp only
    split <;> exact ⟨_, rfl⟩
  · exact ⟨_, rfl⟩

theorem awaitTick_eq (p : Poller) : ∃ point, p.awaitTick.1 = { p with point } := by
  unfold awaitTick
  split <;> exact ⟨_, rfl⟩

/-- The ticker after a turn is the one from before, a new one, or the one whose tick was taken. -/
inductive Ticked (p : Poller) (now : Nat) : Option Ticker → Prop
  | same : Ticked p now p.ticker
  | made (ticker : Ticker)
      (h : Ticker.start? now p.settings.interval.toMillis = some ticker) :
      Ticked p now (some ticker)
  | taken (t ticker : Ticker) (ht : p.ticker = some t) (hd : t.due ≤ now)
      (h : t.tick? now = some ticker) : Ticked p now (some ticker)

theorem Turned.frame (h : Turned p now slot answer r) :
    ∃ point ticker, r.1 = { p with point, ticker } ∧ Ticked p now ticker := by
  cases h with
  | hello hp ticker ht e =>
    obtain ⟨point, hpoint⟩ := awaitTick_eq { p with ticker := some ticker }
    exact ⟨point, some ticker, hpoint, .made ticker ht⟩
  | tick hp hc t ticker ht hd hk =>
    obtain ⟨point, hpoint⟩ := proceed_eq { p with ticker := some ticker } (.start slot)
    exact ⟨point, some ticker, hpoint, .taken t ticker ht hd hk⟩
  | dag client i hp hc ha =>
    obtain ⟨point, hpoint⟩ := proceed_eq p (.onDag client i)
    exact ⟨point, p.ticker, hpoint, .same⟩
  | estimate client info tip i hp hc ha =>
    obtain ⟨point, hpoint⟩ := proceed_eq p (.onEstimate info i)
    exact ⟨point, p.ticker, hpoint, .same⟩
  | recorded hp ha =>
    obtain ⟨point, hpoint⟩ := awaitTick_eq p
    exact ⟨point, p.ticker, hpoint, .same⟩
  | _ => exact ⟨_, p.ticker, rfl, .same⟩

theorem cancelled_step (p : Poller) {s : Stimulus} (h : s ≠ .cancel) :
    (p.step s).1.cancelled = p.cancelled := by
  cases s with
  | cancel => exact absurd rfl h
  | abort =>
    unfold step
    dsimp only
    split <;> rfl
  | turn now slot answer =>
    obtain ⟨point, ticker, hr, -⟩ := (turn_cases p now slot answer).frame
    rw [step, hr]

/-- A poller keeps its settings, and every ticker that it has has its period. -/
structure Regular (settings : Settings) (p : Poller) : Prop where
  same : p.settings = settings
  period : ∀ t, p.ticker = some t → t.period = settings.interval.toMillis

theorem Regular.step (h : Regular settings p) (s : Stimulus) : Regular settings (p.step s).1 := by
  cases s with
  | cancel => exact ⟨h.same, h.period⟩
  | abort =>
    unfold Poller.step
    dsimp only
    split
    · exact h
    · exact ⟨h.same, h.period⟩
  | turn now slot answer =>
    obtain ⟨point, ticker, hr, ht⟩ := (turn_cases p now slot answer).frame
    rw [Poller.step, hr]
    refine ⟨h.same, ?_⟩
    cases ht with
    | same => exact h.period
    | made ticker ht =>
      rintro _ ⟨⟩
      rw [Ticker.eq_of_start ht, h.same]
    | taken t ticker ht hd hk =>
      rintro _ ⟨⟩
      rw [Ticker.period_of_tick hk, h.period t ht]

theorem regular (settings : Settings) (ss : List Stimulus) :
    Regular settings ((start settings).after ss) := by
  induction ss using List.reverseRecOn with
  | nil => exact ⟨rfl, nofun⟩
  | append_singleton ss s ih => rw [after_snoc]; exact ih.step s

end WorkBridge.Stats.Poller
