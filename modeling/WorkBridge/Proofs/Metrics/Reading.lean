import Mathlib.Data.List.Induction
import WorkBridge.Metrics.Catalog

/-!
What a registry shows of a metric.

An update leaves alone whatever is not among its keys (`reading?_apply`), so a gauge shows the last
update of it (`connected_reading`, `push_reading`), and the counters of reconnects show how many of
them there were (`reconnects_total`).
-/

namespace WorkBridge.Metrics

namespace Registry

def reading? (k : Key) : Registry → Option Reading
  | [] => none
  | (k', r) :: rest => if k' = k then some r else reading? k rest

/-- What a counter has counted. -/
def total (reg : Registry) (k : Key) : Nat :=
  match reg.reading? k with
  | some (.counter n) => n
  | _ => 0

variable {k k' : Key}

theorem reading?_touch (k k' : Key) (blank : Reading) (f : Reading → Reading) (reg : Registry) :
    (reg.touch k blank f).reading? k' =
      if k' = k then some (f ((reg.reading? k).getD blank)) else reg.reading? k' := by
  induction reg with
  | nil =>
    by_cases h : k' = k
    · simp [touch, reading?, h]
    · simp [touch, reading?, h, Ne.symm h]
  | cons p rest ih =>
    obtain ⟨k₀, r⟩ := p
    by_cases h₀ : k₀ = k
    · by_cases h : k' = k
      · simp [touch, reading?, h₀, h]
      · simp [touch, reading?, h₀, h, Ne.symm h]
    · by_cases h : k₀ = k'
      · simp [touch, reading?, h, h ▸ h₀]
      · simp [touch, reading?, h₀, h, ih]

theorem reading?_touch_of_ne (h : k' ≠ k) (blank : Reading) (f : Reading → Reading)
    (reg : Registry) : (reg.touch k blank f).reading? k' = reg.reading? k' :=
  (reading?_touch ..).trans (if_neg h)

@[simp]
theorem reading?_set (k k' : Key) (x : Binary64) (reg : Registry) :
    (reg.set k x).reading? k' = if k' = k then some (.gauge x) else reg.reading? k' :=
  reading?_touch ..

theorem reading?_count_of_ne (h : k' ≠ k) (n : Nat) (reg : Registry) :
    (reg.count k n).reading? k' = reg.reading? k' := reading?_touch_of_ne h _ _ reg

theorem reading?_sample_of_ne (h : k' ≠ k) (reg : Registry) :
    (reg.sample k).reading? k' = reg.reading? k' := reading?_touch_of_ne h _ _ reg

/-- What has been counted under a key, which is nothing before it is first touched. -/
def Shows (kind : Nat → Reading) (reg : Registry) (k : Key) (n : Nat) : Prop :=
  reg.reading? k = some (kind n) ∨ (reg.reading? k = none ∧ n = 0)

variable {reg reg' : Registry} {n : Nat} {kind : Nat → Reading}

theorem Shows.congr (h : Shows kind reg k n) (hr : reg'.reading? k = reg.reading? k) :
    Shows kind reg' k n := by
  unfold Shows
  rwa [hr]

abbrev Counts : Registry → Key → Nat → Prop := Shows .counter

theorem Shows.total_eq (h : Counts reg k n) : reg.total k = n := by
  unfold total
  rcases h with h | ⟨h, rfl⟩ <;> rw [h]

theorem Shows.count (h : Counts reg k n) (m : Nat) : Counts (reg.count k m) k (n + m) := by
  refine .inl ((reading?_touch ..).trans ?_)
  rcases h with h | ⟨h, rfl⟩ <;> simp [h]

end Registry

open Registry

/-! ### What an update touches -/

def methodKeys (node : String) (m : Method) : List Key :=
  [requestsKey true m node, requestsKey false m node, durationKey m node]

namespace Update

def keys : Update → List Key
  | .connected _ => [connectedKey]
  | .reconnect success => [reconnectsKey success]
  | .workReady t => [workReadyKey t]
  | .pushEnabled _ => [pushEnabledKey]
  | .network .. => [hashrateKey, blockCountKey, difficultyKey]
  | .version => [infoKey]
  | .request m node success => [requestsKey success m node, durationKey m node]
  | .serviceZero => [workReadyKey .push, workReadyKey .timer, pushEnabledKey]
  | .clientZero node =>
    Method.all.flatMap (methodKeys node) ++ [reconnectsKey true, reconnectsKey false]

variable {k : Key} {u : Update} {b : Bool}

theorem reading?_zeroMethod (node : String) (ms : List Method) (reg : Registry)
    (h : k ∉ ms.flatMap (methodKeys node)) :
    (ms.foldl (zeroMethod node) reg).reading? k = reg.reading? k := by
  induction ms generalizing reg with
  | nil => rfl
  | cons m ms ih =>
    simp only [List.flatMap_cons, methodKeys, List.mem_append, List.mem_cons, List.not_mem_nil,
      or_false, not_or] at h
    obtain ⟨⟨hs, he, hd⟩, hr⟩ := h
    rw [List.foldl_cons, ih _ hr, zeroMethod, reading?_sample_of_ne hd, reading?_count_of_ne he,
      reading?_count_of_ne hs]

theorem reading?_apply (h : k ∉ u.keys) (reg : Registry) :
    (u.apply reg).reading? k = reg.reading? k := by
  cases u with
  | clientZero node =>
    simp only [keys, List.mem_append, List.mem_cons, List.not_mem_nil, or_false, not_or] at h
    obtain ⟨hm, ht, hf⟩ := h
    rw [apply, reading?_count_of_ne hf, reading?_count_of_ne ht, reading?_zeroMethod _ _ _ hm]
  | _ =>
    simp only [keys, List.mem_cons, List.not_mem_nil, or_false, not_or] at h
    simp [apply, h, reading?_count_of_ne, reading?_sample_of_ne]

/-! ### Gauges -/

/-- A gauge that some updates set shows what the last of them set. -/
theorem gauge_reading {k : Key} {shown? : Update → Option Bool}
    (hk : ∀ u, shown? u = none → k ∉ u.keys)
    (hs : ∀ u b reg, shown? u = some b → (u.apply reg).reading? k = some (.gauge (flag b)))
    (us : List Update) (reg : Registry) :
    (us.foldl apply reg).reading? k =
      match (us.filterMap shown?).getLast? with
      | some b => some (.gauge (flag b))
      | none => reg.reading? k := by
  induction us using List.reverseRecOn with
  | nil => rfl
  | append_singleton us u ih =>
    rw [List.foldl_append, List.foldl_cons, List.foldl_nil, List.filterMap_append]
    cases hu : shown? u with
    | none => simpa [hu] using (reading?_apply (hk u hu) _).trans ih
    | some b => simpa [hu] using hs u b _ hu

/-- What an update makes the gauge of the connection show. -/
def shown? : Update → Option Bool
  | .connected b => some b
  | _ => none

theorem connectedKey_not_mem (h : u.shown? = none) : connectedKey ∉ u.keys := by
  cases u with
  | connected b => cases h
  | request m node success => cases success <;> simp [keys, connectedKey, requestsKey, durationKey]
  | clientZero node =>
    simp [keys, Method.all, methodKeys, connectedKey, requestsKey, durationKey, reconnectsKey]
  | _ =>
    simp [keys, connectedKey, reconnectsKey, workReadyKey, pushEnabledKey, hashrateKey,
      blockCountKey, difficultyKey, infoKey]

theorem connected_reading (us : List Update) (reg : Registry) :
    (us.foldl apply reg).reading? connectedKey =
      match (us.filterMap shown?).getLast? with
      | some b => some (.gauge (flag b))
      | none => reg.reading? connectedKey := by
  refine gauge_reading (fun u => connectedKey_not_mem) (fun u b reg hu => ?_) us reg
  cases u with
  | connected b' =>
    cases hu
    simp [apply]
  | _ => cases hu

/-- What an update makes the gauge of notifications show. -/
def pushed? : Update → Option Bool
  | .pushEnabled b => some b
  | .serviceZero => some false
  | _ => none

theorem pushEnabledKey_not_mem (h : u.pushed? = none) : pushEnabledKey ∉ u.keys := by
  cases u with
  | pushEnabled b => cases h
  | serviceZero => cases h
  | request m node success =>
    cases success <;> simp [keys, pushEnabledKey, requestsKey, durationKey]
  | clientZero node =>
    simp [keys, Method.all, methodKeys, pushEnabledKey, requestsKey, durationKey, reconnectsKey]
  | _ =>
    simp [keys, connectedKey, reconnectsKey, workReadyKey, pushEnabledKey, hashrateKey,
      blockCountKey, difficultyKey, infoKey]

theorem push_reading (us : List Update) (reg : Registry) :
    (us.foldl apply reg).reading? pushEnabledKey =
      match (us.filterMap pushed?).getLast? with
      | some b => some (.gauge (flag b))
      | none => reg.reading? pushEnabledKey := by
  refine gauge_reading (fun u => pushEnabledKey_not_mem) (fun u b reg hu => ?_) us reg
  cases u with
  | pushEnabled b' =>
    cases hu
    simp [apply]
  | serviceZero =>
    cases hu
    simp [apply, flag]
  | _ => cases hu

/-! ### The counters of reconnects -/

theorem reconnectsKey_ne : reconnectsKey (!b) ≠ reconnectsKey b := by
  cases b <;> decide

theorem reconnectsKey_not_mem (hr : ∀ b', u ≠ .reconnect b') (hz : ∀ node, u ≠ .clientZero node)
    (b : Bool) : reconnectsKey b ∉ u.keys := by
  cases u with
  | reconnect b' => exact absurd rfl (hr b')
  | clientZero node => exact absurd rfl (hz node)
  | request m node success =>
    cases success <;> simp [keys, reconnectsKey, requestsKey, durationKey]
  | _ =>
    simp [keys, connectedKey, reconnectsKey, workReadyKey, pushEnabledKey, hashrateKey,
      blockCountKey, difficultyKey, infoKey]

theorem reconnectsKey_not_mem_methodKeys (node : String) (ms : List Method) (b : Bool) :
    reconnectsKey b ∉ ms.flatMap (methodKeys node) := by
  simp [methodKeys, reconnectsKey, requestsKey, durationKey]

theorem counts_apply {reg : Registry} {n : Nat} (h : reg.Counts (reconnectsKey b) n)
    (u : Update) : (u.apply reg).Counts (reconnectsKey b) (n + [u].count (.reconnect b)) := by
  cases u with
  | reconnect b' =>
    by_cases hb : b' = b
    · subst hb
      simpa [apply] using h.count 1
    · obtain rfl : b' = !b := by cases b <;> cases b' <;> simp_all
      simpa [apply] using h.congr (reading?_count_of_ne reconnectsKey_ne.symm 1 reg)
  | clientZero node =>
    have hm := h.congr (reading?_zeroMethod node Method.all reg
      (reconnectsKey_not_mem_methodKeys node _ b))
    cases b with
    | true => exact (hm.count 0).congr (reading?_count_of_ne (by decide) 0 _)
    | false => exact (hm.congr (reading?_count_of_ne (by decide) 0 _)).count 0
  | _ => exact h.congr (reading?_apply (reconnectsKey_not_mem (by simp) (by simp) b) reg)

theorem reconnects_total (us : List Update) (b : Bool) :
    Registry.total (us.foldl apply []) (reconnectsKey b) = us.count (.reconnect b) := by
  suffices h : Registry.Counts (us.foldl apply []) (reconnectsKey b) (us.count (.reconnect b)) from
    h.total_eq
  induction us using List.reverseRecOn with
  | nil => exact .inr ⟨rfl, rfl⟩
  | append_singleton us u ih =>
    rw [List.foldl_append, List.count_append]
    exact counts_apply ih u

end Update
end WorkBridge.Metrics
