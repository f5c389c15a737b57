import WorkBridge.Proofs.Connection.Record
import WorkBridge.Proofs.Feed.Attempts

/-!
What the gauge of notifications shows of a feed.

It shows how the last attempt to register ended, and nothing else: a feed that goes on holds a
registration exactly where the gauge shows one (`Follows`).  Whether notifications still come is
another matter, and so is a feed that has ended: the gauge is not written as a registration lapses
or is given up (`gauge_follows_attempts`).
-/

namespace WorkBridge.Feed

open Node (ClientId)
open Metrics (Registry Update pushEnabledKey flag)

variable {settings : Settings} {f : Feed} {s : Stimulus}

/-! ### The first attempt -/

theorem registrationCancelled_ticks (f : Feed) (now : Nat) (p : Purpose) :
    (f.registrationCancelled now p).1.point.ticks = false := by
  unfold registrationCancelled
  split
  · split <;> rfl
  · rfl

/-- Only the end of an attempt takes a feed past its first. -/
theorem attempt?_of_ticks (hf : f.point.ticks = false) (h : (f.step s).1.point.ticks = true) :
    (f.attempt? s).isSome = true := by
  have unmoved (hp : (f.step s).1.point = f.point) : (f.attempt? s).isSome = true := by
    rw [hp, hf] at h
    cases h
  cases s with
  | cancel => exact unmoved rfl
  | notify => exact unmoved rfl
  | lapse id =>
    obtain ⟨held, he⟩ := lapse_eq f id
    exact unmoved (by rw [step, he])
  | abort =>
    unfold step abort at h
    cases hn : f.isEnded with
    | true => simp [hn, hf] at h
    | false => simp [hn, abandoning, fail, Point.ticks] at h
  | turn now slot answer =>
    have hover := registrationCancelled_ticks f now .first
    unfold step turn at h
    cases hp : f.point with
    | ready =>
      cases hc : f.cancelled with
      | true => simp [hp, register, hc, hover] at h
      | false =>
        cases slot with
        | none => simp [attempt?, hp, hc]
        | some c => simp [hp, register, hc, Point.ticks] at h
    | registering p =>
      cases p with
      | renewal => simp [hp, Point.ticks] at hf
      | first =>
        cases hc : f.cancelled with
        | true => simp [hp, hc, abandoning, hover] at h
        | false =>
          cases answer with
          | none => simp [hp, hc, Point.ticks] at h
          | some a =>
            cases a with
            | registered i => simp [attempt?, hp, hc]
            | crashed => simp [hp, hc, abandoning, fail, Point.ticks] at h
            | _ => simp [hp, hc, Point.ticks] at h
    | stopped => simp [hp, Point.ticks] at h
    | failed => simp [hp, Point.ticks] at h
    | _ => simp [hp, Point.ticks] at hf

/-! ### What is held and the last attempt -/

/-- The registration that is held is the one that the last attempt was granted. -/
structure Follows (f : Feed) (ended : List (Except Node.Error Grant)) : Prop where
  tidy : f.Tidy
  held : f.isEnded = false → f.heldIds = (ended.getLast?.map grantIds).getD []
  attempted : f.point.ticks = true → ended ≠ []

namespace Follows

variable {ended : List (Except Node.Error Grant)}

theorem start (settings : Settings) : (start settings).Follows [] where
  tidy := tidy_start settings
  held := fun _ => rfl
  attempted := nofun

theorem step (h : f.Follows ended) (s : Stimulus) :
    (f.step s).1.Follows (ended ++ (f.attempt? s).toList) where
  tidy := h.tidy.step s
  held := by
    intro hn
    have hf : f.isEnded = false :=
      Bool.eq_false_iff.mpr fun he => by
        rw [isEnded_step he s] at hn
        cases hn
    have hids : (f.step s).1.heldIds = (f.heldAfter (f.attempt? s)).toList.map (·.id) := by
      rw [heldIds, held_step h.tidy, hn]
      cases f.heldAfter (f.attempt? s) <;> rfl
    rw [hids]
    cases f.attempt? s with
    | none => simpa [heldAfter, heldIds] using h.held hf
    | some a => cases a <;> simp [heldAfter, grantIds]
  attempted := by
    intro hp
    cases hf : f.point.ticks with
    | true => exact List.append_ne_nil_of_left_ne_nil (h.attempted hf) _
    | false =>
      obtain ⟨a, ha⟩ := Option.isSome_iff_exists.mp (attempt?_of_ticks hf hp)
      simp [ha]

theorem run (settings : Settings) (ss : List Stimulus) :
    ((Feed.start settings).after ss).Follows ((Feed.start settings).attempts ss) := by
  induction ss using List.reverseRecOn with
  | nil => exact start settings
  | append_singleton ss s ih =>
    rw [after_snoc, attempts_snoc]
    exact ih.step s

/-- A feed that goes on holds something exactly where the last attempt was successful. -/
theorem isSome_held (h : f.Follows ended) (hp : f.point.ticks = true) :
    ∃ a, ended.getLast? = some a ∧ f.held.isSome = a.isOk := by
  have hn : f.isEnded = false := by
    unfold isEnded
    cases hf : f.point <;> simp_all [Point.ticks]
  have hl := List.getLast?_eq_some_getLast (h.attempted hp)
  refine ⟨_, hl, ?_⟩
  have hids := h.held hn
  rw [hl] at hids
  cases ha : ended.getLast (h.attempted hp) with
  | ok g =>
    simp only [ha, Option.map_some, Option.getD_some, grantIds, heldIds] at hids
    cases hh : f.held with
    | none => simp [hh] at hids
    | some x => rfl
  | error e =>
    simp only [ha, Option.map_some, Option.getD_some, grantIds, heldIds] at hids
    cases hh : f.held with
    | none => rfl
    | some x => simp [hh] at hids

end Follows

theorem contains_lapses (s : Stimulus) (id : Nat) :
    s.lapses.contains id = true ↔ s = .lapse id := by
  cases s <;> simp [Stimulus.lapses, eq_comm]

/-- What is held was granted by an attempt, and its notifications come unless they did not even
then or have ended since. -/
theorem held_since (settings : Settings) (ss : List Stimulus) {g : Grant}
    (h : ((start settings).after ss).held = some g) :
    ∃ before s since active, ss = before ++ s :: since ∧
      ((start settings).after before).attempt? s = some (.ok ⟨g.id, active⟩) ∧
      (g.active = true ↔ active = true ∧ .lapse g.id ∉ since) := by
  induction ss using List.reverseRecOn generalizing g with
  | nil => cases h
  | append_singleton ss s ih =>
    have ht := (tidy_start settings).after ss
    rw [after_snoc, held_step ht] at h
    cases hn : (((start settings).after ss).step s).1.isEnded with
    | true =>
      rw [hn] at h
      cases h
    | false =>
      rw [hn] at h
      obtain ⟨g', hg', rfl⟩ := Option.map_eq_some_iff.mp h
      cases ha : ((start settings).after ss).attempt? s with
      | none =>
        -- It was held before.
        rw [ha] at hg'
        obtain ⟨before, s', since, active, rfl, hs', hactive⟩ := ih hg'
        refine ⟨before, s', since ++ [s], active, by simp, hs', ?_⟩
        have hlapse := contains_lapses s g'.id
        simp only [Grant.expire, Bool.and_eq_true, hactive, Bool.not_eq_true', ← Bool.not_eq_true,
          hlapse, List.mem_append, List.mem_singleton, eq_comm (a := s)]
        tauto
      | some a =>
        cases a with
        | error e =>
          rw [ha] at hg'
          cases hg'
        | ok x =>
          rw [ha] at hg'
          cases hg'
          have hl : s.lapses = [] := lapses_of_attempt (by rw [ha]; rfl)
          exact ⟨ss, s, [], g'.active, rfl, by rw [ha]; rfl, by simp [hl]⟩

/-! ### The gauge -/

/-- Metrics are told of what a feed does, and between that of other things; `earlier` is what they
were told before it.  Whatever happens to the feed:

* the gauge of notifications shows one or zero as the last attempt to register ended in success or
  in failure, and before the first it shows what it did before;
* a feed that goes on after its first attempt holds a registration exactly where the gauge shows
  one, and none exactly where it shows zero;
* what it holds was granted by an attempt, and its notifications come unless they did not even then
  or have ended since, which does not show;
* a feed that has ended holds nothing, whatever the gauge shows. -/
theorem gauge_follows_attempts (settings : Settings) (ss : List Stimulus)
    (earlier us : List Update)
    (hu : us.filterMap Update.pushed? = pushes ((start settings).outputs ss)) :
    let f := (start settings).after ss
    let attempts := (start settings).attempts ss
    let gauge := ((earlier ++ us).foldl Update.apply []).reading? pushEnabledKey
    (gauge = match attempts.getLast? with
      | some a => some (.gauge (flag a.isOk))
      | none => Registry.reading? pushEnabledKey (earlier.foldl Update.apply [])) ∧
    (f.point.ticks = true →
      (gauge = some (.gauge .one) ↔ f.held.isSome = true) ∧
        (gauge = some (.gauge .zero) ↔ f.held = none)) ∧
    (∀ g, f.held = some g → ∃ before s since active, ss = before ++ s :: since ∧
      ((start settings).after before).attempt? s = some (.ok ⟨g.id, active⟩) ∧
      (g.active = true ↔ active = true ∧ .lapse g.id ∉ since)) ∧
    (f.isEnded = true → f.held = none) := by
  intro f attempts gauge
  have hf : f.Follows attempts := .run settings ss
  have hgauge : gauge = match attempts.getLast? with
      | some a => some (.gauge (flag a.isOk))
      | none => Registry.reading? pushEnabledKey (earlier.foldl Update.apply []) := by
    unfold gauge
    rw [List.foldl_append, Update.push_reading, hu, pushes_outputs (tidy_start settings),
      List.getLast?_map]
    cases attempts.getLast? <;> rfl
  refine ⟨hgauge, fun hp => ?_, fun g hg => held_since settings ss hg, hf.tidy⟩
  obtain ⟨a, ha, hs⟩ := hf.isSome_held hp
  have hnone : f.held = none ↔ a.isOk = false := by
    rw [← hs]
    cases f.held <;> simp
  rw [hgauge, ha]
  simp [hs, hnone, Metrics.flag_eq_one, Metrics.flag_eq_zero]

def unhurried : Settings := { (default : Settings) with maxWorkStaleness := .ofSeconds 30 }

/-- A feed is granted a registration, which lapses while the node is asked. -/
def lapsing : List Stimulus := [
  .turn 0 (some 7) none, .turn 5 (some 7) (some (.registered (.ok ⟨1, true⟩))), .lapse 1]

/-- What the metrics are told meanwhile. -/
def lapsingUpdates : List Update := [.connected true, .pushEnabled true]

theorem gauge_of_lapsing :
    lapsingUpdates.filterMap Update.pushed? = pushes ((start unhurried).outputs lapsing) ∧
      ((start unhurried).after lapsing).pushActive = false ∧
      Registry.reading? pushEnabledKey
        (([Update.serviceZero] ++ lapsingUpdates).foldl Update.apply []) = some (.gauge .one) := by
  have hu : lapsingUpdates.filterMap Update.pushed? =
      pushes ((start unhurried).outputs lapsing) := by decide
  have h := gauge_follows_attempts unhurried lapsing [.serviceZero] lapsingUpdates hu
  exact ⟨hu, by decide, (h.2.1 (by decide)).1.mpr (by decide)⟩

/-- A feed is granted a registration and is then cancelled: the gauge shows one although it has
stopped and holds nothing. -/
theorem stopped_but_shown :
    let ss : List Stimulus := [
      .turn 0 (some 7) none, .turn 5 (some 7) (some (.registered (.ok ⟨1, true⟩))), .cancel,
      .turn 9 (some 7) none]
    let us : List Update := [.serviceZero, .pushEnabled true]
    us.filterMap Update.pushed? = false :: pushes ((start unhurried).outputs ss) ∧
      ((start unhurried).after ss).point = .stopped ∧
      ((start unhurried).after ss).pushActive = false ∧
      Registry.reading? pushEnabledKey (us.foldl Update.apply []) = some (.gauge .one) := by
  refine ⟨?_, ?_, ?_, ?_⟩ <;> decide

end WorkBridge.Feed
