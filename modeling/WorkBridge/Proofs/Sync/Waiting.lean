import Mathlib.Algebra.Ring.Nat
import WorkBridge.Proofs.Clock.Run
import WorkBridge.Sync.Monitor

/-!
How a wait for sync goes, and how it ends.

A wait meets what it meets (`Surroundings`): who is in the slot at each time, what the node answers
to each question and how long that takes, and when the wait is cancelled.  On an ideal clock it gets
its turn when an answer comes, when a pause is over and when it is cancelled in a pause, and as
often as one likes in between.

Question `i` is then put at `askedAt i`, as long as the node answers that it is not synced and no
pause is cut short (`Fruitless`), and the first iteration that is not fruitless ends the wait in
one of five ways (`Ends`): `wait_meets_specification`.  What carries the induction over the turns
is where the wait stands between two of them (`Stands`).
-/

namespace WorkBridge.Sync.Wait

open Node (ClientId)

/-! ### Runs on a clock -/

/-- What a wait meets.  Questions are numbered from zero on. -/
structure Surroundings where
  slot : Nat → Option ClientId
  answer : Nat → Except Node.ClientError Node.Info
  latency : Nat → Nat
  cancelAt : Option Nat

structure Question where
  time : Nat
  client : ClientId
deriving DecidableEq

/-- When a question was put, and to whom. -/
def Question.told (q : Question) : Nat × Option ClientId := (q.time, some q.client)

/-- A wait with the questions it has put, oldest first, and the time at which it ended. -/
structure Course where
  wait : Wait
  asked : List Question := []
  endedAt : Option Nat := none

def hasEnded (w : Wait) : Bool :=
  match w.point with
  | .done _ => true
  | _ => false

def Output.question? (now : Nat) : Output → Option Question
  | .ask client => some ⟨now, client⟩
  | .log _ => none

@[simp] theorem Output.question?_log (now : Nat) (entry : LogEntry) :
    question? now (.log entry) = none := rfl

namespace Surroundings

def isCancelled (e : Surroundings) (now : Nat) : Bool := e.cancelAt.any (· ≤ now)

/-- When the last of some questions is answered. -/
def answeredAt (e : Surroundings) (asked : List Question) : Option Nat :=
  asked.getLast?.map fun q => q.time + e.latency (asked.length - 1)

/-- The answer to the last of some questions, once it is there. -/
def answerBy (e : Surroundings) (asked : List Question) (now : Nat) :
    Option (Except Node.ClientError Node.Info) :=
  if (e.answeredAt asked).any (· ≤ now) then some (e.answer (asked.length - 1)) else none

end Surroundings

namespace Course

variable (e : Surroundings)

/-- Gives the wait its turn. -/
def turn (c : Course) (now : Nat) : Course :=
  let r := c.wait.step
    { now, cancelled := e.isCancelled now, slot := e.slot now, answer := e.answerBy c.asked now }
  { wait := r.1
    asked := c.asked ++ r.2.filterMap (Output.question? now)
    endedAt := c.endedAt.or (if r.1.hasEnded then some now else none) }

/-- A wait that has not ended. -/
abbrev going (m : Monitor) (verbose : Bool) (point : Point) (asked : List Question) : Course :=
  { wait := ⟨m, verbose, point⟩, asked }

/-- A wait that has ended. -/
abbrev returned (m : Monitor) (verbose : Bool) (r : Except Node.Error Unit) (asked : List Question)
    (time : Nat) : Course :=
  { wait := ⟨m, verbose, .done r⟩, asked, endedAt := some time }

/-- What wakes the wait, and when. -/
def alarm (c : Course) : Option Nat :=
  match c.wait.point with
  | .asking _ => e.answeredAt c.asked
  | .resting wakeAt => some ((e.cancelAt.map (min wakeAt)).getD wakeAt)
  | _ => none

/-- A wait in time.  The moments are just times. -/
abbrev clocked : Clocked Course Nat := ⟨turn e, id, fun _ => True, alarm e⟩

abbrev OnClock (c : Course) (now : Nat) (times : List Nat) : Prop := (clocked e).OnClock c now times

abbrev through (c : Course) (times : List Nat) : Course := (clocked e).through c times

def clockAfter (now : Nat) (times : List Nat) : Nat := times.foldl (fun _ time => time) now

theorem clockAfter_append (now : Nat) (times more : List Nat) :
    clockAfter now (times ++ more) = clockAfter (clockAfter now times) more :=
  List.foldl_append

/-- A wait that begins, after its first turn. -/
def begun (m : Monitor) (verbose : Bool) (start : Nat) : Course :=
  turn e (going m verbose .ready []) start

end Course

/-! ### What is to be expected -/

namespace Surroundings

variable (e : Surroundings) (m : Monitor) (start : Nat)

/-- When question `i` is put: the earlier ones have been answered, with a pause behind each. -/
def askedAt (i : Nat) : Nat :=
  start + ((List.range i).map e.latency).sum + i * m.retryInterval.toMillis

/-- Whom the first questions go to, and when. -/
def expected (count : Nat) : List (Nat × Option ClientId) :=
  (List.range count).map fun i => (e.askedAt m start i, e.slot (e.askedAt m start i))

/-- Question `i` is put and answered: the node is not synced. -/
def NotSynced (i : Nat) : Prop :=
  (∃ client, e.slot (e.askedAt m start i) = some client) ∧
    ∃ info, e.answer i = .ok info ∧ info.isSynced = false

/-- Moreover the pause behind it is not cut short. -/
def Fruitless (i : Nat) : Prop :=
  e.NotSynced m start i ∧ ∀ x, e.cancelAt = some x → e.askedAt m start (i + 1) < x

/-- How, when and after how many questions a wait ends that ends in iteration `n`. -/
inductive Ends (n : Nat) : Except Node.Error Unit → Nat → Nat → Prop
  | notConnected (h : e.slot (e.askedAt m start n) = none) :
    Ends n (.error .notConnected) (e.askedAt m start n) n
  | synced (client : ClientId) (info : Node.Info)
    (hs : e.slot (e.askedAt m start n) = some client)
    (ha : e.answer n = .ok info) (h : info.isSynced = true) :
    Ends n (.ok ()) (e.askedAt m start n + e.latency n) (n + 1)
  | rejected (client : ClientId) (err : Node.CallError)
    (hs : e.slot (e.askedAt m start n) = some client)
    (ha : e.answer n = .error (.rpc (.call err))) :
    Ends n (.error (.rpc m.address (.rpc (.call err)))) (e.askedAt m start n + e.latency n) (n + 1)
  | failed (client : ClientId) (err : Node.ClientError)
    (hs : e.slot (e.askedAt m start n) = some client)
    (ha : e.answer n = .error err) (h : ∀ refusal, err ≠ .rpc (.call refusal)) :
    Ends n (.error (.connection m.address err)) (e.askedAt m start n + e.latency n) (n + 1)
  /-- The wait is cancelled before the pause is over, or was before it has begun. -/
  | cancelled (x : Nat) (hn : e.NotSynced m start n) (hx : e.cancelAt = some x)
    (h : x < e.askedAt m start (n + 1)) :
    Ends n (.error .cancelled) (max x (e.askedAt m start n + e.latency n)) (n + 1)

/-- The wait is cancelled in the moment in which a pause is over.  Either may be seen first. -/
def Tied (n : Nat) : Prop :=
  e.NotSynced m start n ∧ e.cancelAt = some (e.askedAt m start (n + 1))

variable {e : Surroundings} {m : Monitor} {start now time n n' count count' : Nat}
  {r r' : Except Node.Error Unit} {verbose : Bool} {client : ClientId} {asked : List Question}

theorem askedAt_zero : e.askedAt m start 0 = start := by simp [askedAt]

theorem askedAt_succ :
    e.askedAt m start (n + 1) = m.retryAt (e.askedAt m start n + e.latency n) := by
  simp only [askedAt, Monitor.retryAt, List.range_succ, List.map_append, List.sum_append,
    List.map_singleton, List.sum_singleton, Nat.succ_mul]
  omega

theorem lt_askedAt_succ (hm : m.retryInterval.isZero = false) :
    e.askedAt m start n + e.latency n < e.askedAt m start (n + 1) := by
  have hpos : m.retryInterval.toMillis ≠ 0 := fun h => by
    rw [Span.isZero_of_toMillis h] at hm
    cases hm
  rw [askedAt_succ, Monitor.retryAt]
  omega

theorem askedAt_mono {i : Nat} (h : i ≤ n) : e.askedAt m start i ≤ e.askedAt m start n := by
  induction h with
  | refl => exact Nat.le_refl _
  | step _ ih =>
    refine Nat.le_trans ih ?_
    rw [askedAt_succ, Monitor.retryAt]
    omega

theorem isCancelled_iff : e.isCancelled now = true ↔ ∃ x, e.cancelAt = some x ∧ x ≤ now := by
  simp [isCancelled, Option.any_eq_true]

theorem not_isCancelled_iff :
    e.isCancelled now = false ↔ ∀ x, e.cancelAt = some x → now < x := by
  simp [isCancelled, Option.any_eq_false]

/-- Where the node is not synced, only a cancellation ends the wait. -/
theorem Ends.of_notSynced (h : e.Ends m start n r time count) (hn : e.NotSynced m start n) :
    ∃ x, e.cancelAt = some x ∧ x < e.askedAt m start (n + 1) ∧ x ≤ time := by
  obtain ⟨⟨client, hs⟩, info, ha, hi⟩ := hn
  cases h with
  | notConnected h => exact nomatch hs.symm.trans h
  | synced client info hs ha' h =>
    cases ha.symm.trans ha'
    exact absurd (hi.symm.trans h) Bool.false_ne_true
  | rejected client err hs ha' => exact nomatch ha.symm.trans ha'
  | failed client err hs ha' h => exact nomatch ha.symm.trans ha'
  | cancelled x hn hx h => exact ⟨x, hx, h, Nat.le_max_left _ _⟩

theorem Ends.not_fruitless (h : e.Ends m start n r time count) : ¬ e.Fruitless m start n := by
  intro hf
  obtain ⟨x, hx, hlt, -⟩ := h.of_notSynced hf.1
  exact Nat.lt_asymm hlt (hf.2 x hx)

theorem Ends.not_tied (h : e.Ends m start n r time count) : ¬ e.Tied m start n := by
  intro ht
  obtain ⟨x, hx, hlt, -⟩ := h.of_notSynced ht.1
  cases hx.symm.trans ht.2
  exact Nat.lt_irrefl _ hlt

theorem Tied.not_fruitless (h : e.Tied m start n) : ¬ e.Fruitless m start n :=
  fun hf => Nat.lt_irrefl _ (hf.2 _ h.2)

/-- The last question is put before the wait ends, if it is put at all. -/
theorem Ends.le_time (h : e.Ends m start n r time count) : e.askedAt m start n ≤ time := by
  cases h <;> omega

/-- How a wait ends is settled by the iteration in which it ends. -/
def outcome (e : Surroundings) (m : Monitor) (start n : Nat) : Except Node.Error Unit × Nat × Nat :=
  let answeredAt := e.askedAt m start n + e.latency n
  match e.slot (e.askedAt m start n), m.judge (e.answer n) with
  | none, _ => (.error .notConnected, e.askedAt m start n, n)
  | some _, .synced => (.ok (), answeredAt, n + 1)
  | some _, .failed err => (.error err, answeredAt, n + 1)
  | some _, .notSynced => (.error .cancelled, max (e.cancelAt.getD 0) answeredAt, n + 1)

theorem judge_failed {err : Node.ClientError} (h : ∀ refusal, err ≠ .rpc (.call refusal)) :
    m.judge (.error err) = .failed (.connection m.address err) := by
  have hc : err.isConnectionError = true := by
    unfold Node.ClientError.isConnectionError
    split
    · rename_i refusal
      exact absurd rfl (h refusal)
    · rfl
  simp [Monitor.judge, hc]

theorem Ends.eq_outcome (h : e.Ends m start n r time count) :
    (r, time, count) = e.outcome m start n := by
  unfold outcome
  cases h with
  | notConnected h => rw [h]
  | synced client info hs ha h => simp [hs, ha, Monitor.judge, h]
  | rejected client err hs ha =>
    simp [hs, ha, Monitor.judge, Node.ClientError.isConnectionError]
  | failed client err hs ha h => simp [hs, ha, judge_failed h]
  | cancelled x hn hx h =>
    obtain ⟨⟨client, hs⟩, info, ha, hi⟩ := hn
    simp [hs, ha, Monitor.judge, hi, hx]

/-- Only one iteration is the last. -/
theorem eq_of_fruitless (hn : ∀ i < n, e.Fruitless m start i)
    (hn' : ∀ i < n', e.Fruitless m start i) (h : ¬ e.Fruitless m start n)
    (h' : ¬ e.Fruitless m start n') : n = n' := by
  rcases Nat.lt_trichotomy n n' with hlt | heq | hgt
  · exact absurd (hn' n hlt) h
  · exact heq
  · exact absurd (hn n' hgt) h'

theorem answeredAt_of_told (h : asked.map Question.told = e.expected m start (n + 1)) :
    e.answeredAt asked = some (e.askedAt m start n + e.latency n) ∧ asked.length - 1 = n := by
  have hlength := congrArg List.length h
  have hlast := congrArg List.getLast? h
  simp only [expected, List.length_map, List.length_range] at hlength
  simp only [expected, List.getLast?_map, List.getLast?_range, Nat.add_eq_zero_iff, Nat.one_ne_zero,
    and_false, if_false, Nat.add_sub_cancel, Option.map_some, Option.map_eq_some_iff] at hlast
  obtain ⟨q, hq, htold⟩ := hlast
  have hindex : asked.length - 1 = n := by omega
  refine ⟨?_, hindex⟩
  rw [answeredAt, hq, hindex]
  exact congrArg (fun q => some (q.1 + e.latency n)) htold

theorem answerBy_of_told (h : asked.map Question.told = e.expected m start (n + 1)) :
    e.answerBy asked now =
      if e.askedAt m start n + e.latency n ≤ now then some (e.answer n) else none := by
  obtain ⟨hat, hindex⟩ := answeredAt_of_told h
  rw [answerBy, hat, hindex]
  simp

theorem told_append (h : asked.map Question.told = e.expected m start n)
    (hs : e.slot (e.askedAt m start n) = some client) :
    (asked ++ [Question.mk (e.askedAt m start n) client]).map Question.told =
      e.expected m start (n + 1) := by
  rw [expected, List.range_succ, List.map_append, List.map_append, h]
  simp [expected, Question.told, hs]

end Surroundings

/-! ### Where a wait stands -/

open Sync.Wait.Surroundings

variable {e : Surroundings} {m : Monitor} {start now time n : Nat} {verbose : Bool} {c : Course}
  {times : List Nat}

theorem not_asking_of_answer {w : Wait} {t : Turn} {client : ClientId}
    {r : Except Node.ClientError Node.Info} (hp : w.point = .asking client)
    (ha : t.answer = some r) (client' : ClientId) : (w.step t).1.point ≠ .asking client' := by
  unfold step
  rw [hp, ha]
  dsimp only
  split
  · exact nofun
  · exact nofun
  · split <;> exact nofun

theorem filterMap_verbose (entry : LogEntry) :
    (if verbose then [Output.log entry] else []).filterMap (Output.question? now) = [] := by
  split <;> rfl

/-- Where a wait can stand between two turns. -/
inductive Stands (e : Surroundings) (m : Monitor) (verbose : Bool) (start now : Nat) : Course → Prop
  | asking (n : Nat) (client : ClientId) (asked : List Question)
    (hf : ∀ i < n, e.Fruitless m start i) (hs : e.slot (e.askedAt m start n) = some client)
    (hq : asked.map Question.told = e.expected m start (n + 1))
    (hle : e.askedAt m start n ≤ now) (hnow : now ≤ e.askedAt m start n + e.latency n) :
    Stands e m verbose start now (.going m verbose (.asking client) asked)
  | resting (n : Nat) (asked : List Question)
    (hf : ∀ i < n, e.Fruitless m start i) (hn : e.NotSynced m start n)
    (hq : asked.map Question.told = e.expected m start (n + 1))
    (hle : e.askedAt m start n + e.latency n ≤ now) (hnow : now < e.askedAt m start (n + 1))
    (hx : ∀ x, e.cancelAt = some x → now < x) :
    Stands e m verbose start now
      (.going m verbose (.resting (e.askedAt m start (n + 1))) asked)
  | ended (n : Nat) (r : Except Node.Error Unit) (time count : Nat) (asked : List Question)
    (hf : ∀ i < n, e.Fruitless m start i) (h : e.Ends m start n r time count)
    (hq : asked.map Question.told = e.expected m start count) (hle : time ≤ now) :
    Stands e m verbose start now (.returned m verbose r asked time)
  | tied (n : Nat) (r : Except Node.Error Unit) (time : Nat) (asked : List Question)
    (hf : ∀ i < n, e.Fruitless m start i) (h : e.Tied m start n) :
    Stands e m verbose start now (.returned m verbose r asked time)

namespace Stands

/-- The next iteration begins. -/
theorem ask (w : Wait) {asked : List Question} (hw : w.monitor = m ∧ w.verbose = verbose)
    (hf : ∀ i < n, e.Fruitless m start i) (hq : asked.map Question.told = e.expected m start n)
    (hnow : now = e.askedAt m start n) :
    Stands e m verbose start now
      ⟨(w.ask (e.slot now)).1, asked ++ (w.ask (e.slot now)).2.filterMap (Output.question? now),
        if (w.ask (e.slot now)).1.hasEnded then some now else none⟩ := by
  obtain ⟨rfl, rfl⟩ := hw
  subst hnow
  cases hs : e.slot (e.askedAt w.monitor start n) with
  | none =>
    refine .ended n _ _ n _ hf (.notConnected hs) ?_ (Nat.le_refl _)
    simpa [Wait.ask] using hq
  | some client =>
    exact .asking n client _ hf hs (told_append hq hs) (Nat.le_refl _) (Nat.le_add_right _ _)

theorem of_begin : Stands e m verbose start start (.begun e m verbose start) := by
  have hf : ∀ i < 0, e.Fruitless m start i := fun i hi => absurd hi (Nat.not_lt_zero i)
  have hq : [].map Question.told = e.expected m start 0 := rfl
  have h := ask { monitor := m, verbose } ⟨rfl, rfl⟩ hf hq askedAt_zero.symm
  simpa [Course.begun, Course.turn, Wait.step, List.filterMap_append, filterMap_verbose] using h

/-- The answer to the last question comes. -/
theorem answered {asked : List Question} {client : ClientId}
    (hm : m.retryInterval.isZero = false) (hf : ∀ i < n, e.Fruitless m start i)
    (hs : e.slot (e.askedAt m start n) = some client)
    (hq : asked.map Question.told = e.expected m start (n + 1))
    (hnow : now = e.askedAt m start n + e.latency n) :
    Stands e m verbose start now ((Course.going m verbose (.asking client) asked).turn e now) := by
  have hanswer : e.answerBy asked now = some (e.answer n) := by
    rw [answerBy_of_told hq, if_pos (Nat.le_of_eq hnow.symm)]
  have hpause : e.askedAt m start n + e.latency n < e.askedAt m start (n + 1) := lt_askedAt_succ hm
  -- Every way but a pause ends the wait, and puts no further question.
  have ends {r : Except Node.Error Unit} {time : Nat} (h : e.Ends m start n r time (n + 1))
      (htime : time = now)
      (hturn : (Course.going m verbose (.asking client) asked).turn e now =
        .returned m verbose r asked now) :
      Stands e m verbose start now
        ((Course.going m verbose (.asking client) asked).turn e now) := by
    subst htime
    rw [hturn]
    exact .ended n r time (n + 1) asked hf h hq (Nat.le_refl _)
  cases ha : e.answer n with
  | ok info =>
    rw [ha] at hanswer
    cases hi : info.isSynced with
    | true =>
      refine ends (.synced client info hs ha hi) hnow.symm ?_
      simp [Course.turn, Wait.step, hanswer, Monitor.judge, hi, finish, hasEnded, filterMap_verbose]
    | false =>
      have hn : e.NotSynced m start n := ⟨⟨client, hs⟩, info, ha, hi⟩
      cases hc : e.isCancelled now with
      | true =>
        obtain ⟨x, hx, hle⟩ := isCancelled_iff.mp hc
        refine ends (.cancelled x hn hx (by omega)) (by omega) ?_
        simp [Course.turn, Wait.step, hanswer, Monitor.judge, hi, hc, finish, hasEnded]
      | false =>
        have hturn : (Course.going m verbose (.asking client) asked).turn e now =
            .going m verbose (.resting (e.askedAt m start (n + 1))) asked := by
          rw [askedAt_succ, ← hnow]
          simp [Course.turn, Wait.step, hanswer, Monitor.judge, hi, hc, hasEnded]
        rw [hturn]
        exact .resting n asked hf hn hq (Nat.le_of_eq hnow.symm) (by omega)
          (not_isCancelled_iff.mp hc)
  | error err =>
    rw [ha] at hanswer
    by_cases hr : ∃ refusal, err = .rpc (.call refusal)
    · obtain ⟨refusal, rfl⟩ := hr
      refine ends (.rejected client refusal hs ha) hnow.symm ?_
      simp [Course.turn, Wait.step, hanswer, Monitor.judge, Node.ClientError.isConnectionError,
        finish, hasEnded]
    · have hr' : ∀ refusal, err ≠ .rpc (.call refusal) := not_exists.mp hr
      refine ends (.failed client err hs ha hr') hnow.symm ?_
      simp [Course.turn, Wait.step, hanswer, judge_failed hr', finish, hasEnded]

/-- A pause goes on, is over or is cut short. -/
theorem rested {asked : List Question} (hf : ∀ i < n, e.Fruitless m start i)
    (hn : e.NotSynced m start n) (hq : asked.map Question.told = e.expected m start (n + 1))
    (hle : e.askedAt m start n + e.latency n ≤ now)
    (hdue : now ≤ (e.cancelAt.map (min (e.askedAt m start (n + 1)))).getD
      (e.askedAt m start (n + 1))) :
    Stands e m verbose start now
      ((Course.going m verbose (.resting (e.askedAt m start (n + 1))) asked).turn e now) := by
  have hend : now ≤ e.askedAt m start (n + 1) := by
    cases hcancel : e.cancelAt with
    | none => simpa [hcancel] using hdue
    | some x =>
      rw [hcancel, Option.map_some, Option.getD_some] at hdue
      omega
  cases hc : e.isCancelled now with
  | true =>
    obtain ⟨x, hcancel, hat⟩ := isCancelled_iff.mp hc
    rw [hcancel, Option.map_some, Option.getD_some] at hdue
    obtain rfl : x = now := by omega
    have hturn : (Course.going m verbose (.resting (e.askedAt m start (n + 1))) asked).turn e x =
        .returned m verbose (.error .cancelled) asked x := by
      simp [Course.turn, Wait.step, hc, finish, hasEnded]
    rw [hturn]
    rcases Nat.lt_or_eq_of_le hend with hlt | heq
    · have h := Ends.cancelled x hn hcancel hlt
      rw [Nat.max_eq_left hle] at h
      exact .ended n _ x _ asked hf h hq (Nat.le_refl _)
    · exact .tied n _ x asked hf ⟨hn, heq ▸ hcancel⟩
  | false =>
    have hx := not_isCancelled_iff.mp hc
    rcases Nat.lt_or_eq_of_le hend with hlt | heq
    · have hturn :
          (Course.going m verbose (.resting (e.askedAt m start (n + 1))) asked).turn e now =
          .going m verbose (.resting (e.askedAt m start (n + 1))) asked := by
        simp [Course.turn, Wait.step, hc, Nat.not_le.mpr hlt, hasEnded]
      rw [hturn]
      exact .resting n asked hf hn hq hle hlt hx
    · have hf' : ∀ i < n + 1, e.Fruitless m start i := by
        intro i hi
        rcases Nat.lt_succ_iff_lt_or_eq.mp hi with hlt | rfl
        · exact hf i hlt
        · exact ⟨hn, fun x hcancel => heq ▸ hx x hcancel⟩
      have h := ask ⟨m, verbose, .resting (e.askedAt m start (n + 1))⟩ ⟨rfl, rfl⟩ hf' hq heq
      simpa [Course.turn, Wait.step, hc, Nat.le_of_eq heq.symm] using h

theorem turn (h : Stands e m verbose start now c) (hm : m.retryInterval.isZero = false)
    (hle : now ≤ time) (halarm : ∀ due ∈ c.alarm e, time ≤ max now due) :
    Stands e m verbose start time (c.turn e time) := by
  cases h with
  | asking n client asked hf hs hq h₁ h₂ =>
    have hdue := halarm _ (answeredAt_of_told hq).1
    have hanswer : e.answerBy asked time = _ := answerBy_of_told hq
    by_cases hat : e.askedAt m start n + e.latency n ≤ time
    · exact answered hm hf hs hq (by omega)
    · rw [if_neg hat] at hanswer
      have hturn : (Course.going m verbose (.asking client) asked).turn e time =
          .going m verbose (.asking client) asked := by
        simp [Course.turn, Wait.step, hanswer, hasEnded]
      rw [hturn]
      exact .asking n client asked hf hs hq (by omega) (by omega)
  | resting n asked hf hn hq h₁ h₂ hx =>
    refine rested hf hn hq (Nat.le_trans h₁ hle) ?_
    have hdue := halarm _ rfl
    cases hcancel : e.cancelAt with
    | none =>
      rw [hcancel, Option.map_none, Option.getD_none] at hdue
      simp only [Option.map_none, Option.getD_none]
      omega
    | some x =>
      have hlate := hx x hcancel
      rw [hcancel, Option.map_some, Option.getD_some] at hdue
      simp only [Option.map_some, Option.getD_some]
      omega
  | ended n r t count asked hf h hq ht =>
    have hturn : (Course.returned m verbose r asked t).turn e time =
        .returned m verbose r asked t := by
      simp [Course.turn, Wait.step]
    rw [hturn]
    exact .ended n r t count asked hf h hq (by omega)
  | tied n r t asked hf h => exact .tied n r t _ hf h

theorem through (h : Stands e m verbose start now c) (hm : m.retryInterval.isZero = false)
    (hrun : c.OnClock e now times) :
    Stands e m verbose start (Course.clockAfter now times) (c.through e times) :=
  hrun.induction (P := Stands e m verbose start) h fun _ _ _ hle halarm h => h.turn hm hle halarm

/-- A wait that ends by some time has ended when that time is over. -/
theorem of_ends {r : Except Node.Error Unit} {count : Nat} (h : Stands e m verbose start now c)
    (hf : ∀ i < n, e.Fruitless m start i) (he : e.Ends m start n r time count)
    (hpast : time < now) :
    c.wait.point = .done r ∧ c.endedAt = some time ∧
      c.asked.map Question.told = e.expected m start count := by
  have hlast := he.le_time
  cases h with
  | asking n' client asked hf' hs hq h₁ h₂ =>
    rcases Nat.lt_trichotomy n' n with hlt | rfl | hgt
    · have hmono : e.askedAt m start (n' + 1) ≤ e.askedAt m start n := askedAt_mono hlt
      rw [askedAt_succ, Monitor.retryAt] at hmono
      omega
    · cases he with
      | notConnected h => exact nomatch hs.symm.trans h
      | synced | rejected | failed | cancelled => omega
    · exact absurd (hf' n hgt) he.not_fruitless
  | resting n' asked hf' hn hq h₁ h₂ hx =>
    rcases Nat.lt_trichotomy n' n with hlt | rfl | hgt
    · have hmono : e.askedAt m start (n' + 1) ≤ e.askedAt m start n := askedAt_mono hlt
      omega
    · obtain ⟨x, hcancel, -, hle⟩ := he.of_notSynced hn
      have hlate := hx x hcancel
      omega
    · exact absurd (hf' n hgt) he.not_fruitless
  | ended n' r' time' count' asked hf' h hq hle =>
    obtain rfl := eq_of_fruitless hf hf' he.not_fruitless h.not_fruitless
    obtain ⟨rfl, rfl, rfl⟩ : r = r' ∧ time = time' ∧ count = count' := by
      simpa using he.eq_outcome.trans h.eq_outcome.symm
    exact ⟨rfl, rfl, hq⟩
  | tied n' r' time' asked hf' h =>
    obtain rfl := eq_of_fruitless hf hf' he.not_fruitless h.not_fruitless
    exact absurd h he.not_tied

/-- A wait that is not waiting for an answer can wait until later. -/
theorem later (h : Stands e m verbose start now c) (hp : ∀ client, c.wait.point ≠ .asking client) :
    ∃ time, now < time ∧ ∀ due ∈ c.alarm e, time ≤ max now due := by
  cases h with
  | asking n client asked hf hs hq h₁ h₂ => exact absurd rfl (hp client)
  | resting n asked hf hn hq h₁ h₂ hx =>
    refine ⟨(e.cancelAt.map (min (e.askedAt m start (n + 1)))).getD (e.askedAt m start (n + 1)),
      ?_, ?_⟩
    · cases hcancel : e.cancelAt with
      | none => exact h₂
      | some x => exact Nat.lt_min.mpr ⟨h₂, hx x hcancel⟩
    · rintro _ ⟨⟩
      exact Nat.le_max_right _ _
  | ended | tied => exact ⟨now + 1, Nat.lt_succ_self now, nofun⟩

/-- On an ideal clock time goes on. -/
theorem advance (h : Stands e m verbose start now c) (hm : m.retryInterval.isZero = false) :
    ∃ more, c.OnClock e now more ∧ now < Course.clockAfter now more := by
  by_cases hp : ∀ client, c.wait.point ≠ .asking client
  · obtain ⟨time, hlt, halarm⟩ := h.later hp
    exact ⟨[time], ⟨Nat.le_of_lt hlt, trivial, halarm, trivial⟩, hlt⟩
  · cases h with
    | asking n client asked hf hs hq h₁ h₂ =>
      have hdue := (answeredAt_of_told hq).1
      have hnext : Stands e m verbose start _ _ := answered hm hf hs hq rfl
      have hanswer : e.answerBy asked (e.askedAt m start n + e.latency n) = some (e.answer n) := by
        rw [answerBy_of_told hq, if_pos (Nat.le_refl _)]
      obtain ⟨time, hlt, halarm⟩ := hnext.later (not_asking_of_answer rfl hanswer)
      refine ⟨[e.askedAt m start n + e.latency n, time],
        ⟨h₂, trivial, ?_, Nat.le_of_lt hlt, trivial, halarm, trivial⟩, Nat.lt_of_le_of_lt h₂ hlt⟩
      intro due hal
      cases hdue.symm.trans hal
      exact Nat.le_max_right _ _
    | resting | ended | tied => exact absurd nofun hp

theorem reach (h : Stands e m verbose start now c) (hm : m.retryInterval.isZero = false) (k : Nat) :
    ∃ more, c.OnClock e now more ∧ now + k ≤ Course.clockAfter now more := by
  induction k with
  | zero => exact ⟨[], trivial, Nat.le_refl _⟩
  | succ k ih =>
    obtain ⟨more, hmore, hle⟩ := ih
    obtain ⟨next, hnext, hlt⟩ := (h.through hm hmore).advance hm
    refine ⟨more ++ next, hmore.append hnext, ?_⟩
    rw [Course.clockAfter_append]
    omega

end Stands

/-- What a wait for sync comes to, whatever it meets, as long as the pause takes time.

As long as the node answers that it is not synced and no pause is cut short, question `i` is put
to the client that is then in the slot, when the earlier questions have been answered with a pause
behind each.  The first iteration that goes otherwise ends the wait, and no question is put after
it: if nobody is in the slot, with no question; with the answer, if the node is synced or the answer
is an error, whose kind tells a refusal of the node from everything else; or with the cancellation,
if that comes before the pause is over.  Conversely a wait that has ended has ended in one of these
ways, and time goes on until it does. -/
theorem wait_meets_specification (m : Monitor) (hm : m.retryInterval.isZero = false)
    (verbose : Bool) (e : Surroundings) (start : Nat) :
    let begun := Course.begun e m verbose start
    (∀ n r time count, (∀ i < n, e.Fruitless m start i) → e.Ends m start n r time count →
      ∀ times, begun.OnClock e start times → time < Course.clockAfter start times →
        let c := begun.through e times
        c.wait.point = .done r ∧ c.endedAt = some time ∧
          c.asked.map Question.told = e.expected m start count) ∧
    (∀ times r, begun.OnClock e start times → (begun.through e times).wait.point = .done r →
      (∀ i, e.cancelAt ≠ some (e.askedAt m start (i + 1))) →
        ∃ n time count, (∀ i < n, e.Fruitless m start i) ∧ e.Ends m start n r time count ∧
          time ≤ Course.clockAfter start times) ∧
    ∀ times, begun.OnClock e start times → ∀ time, ∃ more,
      begun.OnClock e start (times ++ more) ∧ time < Course.clockAfter start (times ++ more) := by
  have hbegun : Stands e m verbose start start (.begun e m verbose start) := .of_begin
  refine ⟨fun n r time count hf he times hrun hpast => ?_, fun times r hrun hp hfree => ?_,
    fun times hrun time => ?_⟩
  · exact (hbegun.through hm hrun).of_ends hf he hpast
  · have hstands := hbegun.through hm hrun
    generalize (Course.begun e m verbose start).through e times = c at hstands hp
    cases hstands with
    | asking | resting => exact nomatch hp
    | ended n r' time count asked hf h hq hle =>
      cases hp
      exact ⟨n, time, count, hf, h, hle⟩
    | tied n r' time asked hf h => exact absurd h.2 (hfree n)
  · obtain ⟨more, hmore, hle⟩ := (hbegun.through hm hrun).reach hm (time + 1)
    refine ⟨more, hrun.append hmore, ?_⟩
    rw [Course.clockAfter_append]
    omega

/-- A node that catches up by the third question, with another client in the slot by the second. -/
def catchingUp : Surroundings where
  slot now := some (if now < 10 then 0 else 1)
  answer i := .ok { isSynced := i == 2 }
  latency i := i
  cancelAt := some 40

def patient : Monitor := ⟨default, .ofMillis 5⟩

theorem synced_when_caught_up :
    let c := (Course.begun catchingUp patient true 7).through catchingUp
      [7, 12, 13, 15, 18, 20, 21]
    c.wait.point = .done (.ok ()) ∧ c.endedAt = some 20 ∧
      c.asked.map Question.told = [(7, some 0), (12, some 1), (18, some 1)] := by
  have hf : ∀ i < 2, catchingUp.Fruitless patient 7 i := by
    rintro (_ | _ | i) hi
    · refine ⟨⟨⟨0, by decide⟩, _, rfl, rfl⟩, ?_⟩
      rintro _ ⟨⟩
      decide
    · refine ⟨⟨⟨1, by decide⟩, _, rfl, rfl⟩, ?_⟩
      rintro _ ⟨⟩
      decide
    · omega
  have hs : catchingUp.slot (catchingUp.askedAt patient 7 2) = some 1 := by decide
  have hend := Ends.synced 1 { isSynced := true } hs rfl rfl
  have htime : catchingUp.askedAt patient 7 2 + catchingUp.latency 2 = 20 := by decide
  rw [htime] at hend
  obtain ⟨hp, hat, hq⟩ := (wait_meets_specification patient (by decide) true catchingUp 7).1
    2 _ 20 3 hf hend [7, 12, 13, 15, 18, 20, 21] (by decide) (by decide)
  exact ⟨hp, hat, hq.trans (by decide)⟩

end WorkBridge.Sync.Wait
