import WorkBridge.Proofs.Feed.Attempts

/-!
The tokens of all registrations that a feed was ever granted.

A token is cancelled once and for all, as its registration is given up or its notifications end.
A feed gives up what it held in the turn in which it takes something else, or nothing, so no two
tokens are ever left (`sole_run`).
-/

namespace WorkBridge.Feed

open Node (ClientId)

variable {settings : Settings} {f : Feed} {ts : List Grant}

/-- What a feed is granted. -/
def takes (f : Feed) (s : Stimulus) : List Grant :=
  match f.attempt? s with
  | some (.ok g) => [g]
  | _ => []

/-- The registrations whose tokens are cancelled in a step. -/
def cancels (f : Feed) (s : Stimulus) : List Nat := s.lapses ++ released (f.step s).2

/-- All tokens after a step, from those before it. -/
def noteTokens (f : Feed) (ts : List Grant) (s : Stimulus) : List Grant :=
  (ts ++ f.takes s).map (·.expire (f.cancels s))

/-- All tokens after a run, from those before it. -/
def tokens (f : Feed) (ts : List Grant) : List Stimulus → List Grant
  | [] => ts
  | s :: rest => (f.step s).1.tokens (f.noteTokens ts s) rest

theorem tokens_snoc (f : Feed) (ts : List Grant) (ss : List Stimulus) (s : Stimulus) :
    f.tokens ts (ss ++ [s]) = (f.after ss).noteTokens (f.tokens ts ss) s := by
  induction ss generalizing f ts with
  | nil => rfl
  | cons s' ss ih => exact ih _ _

theorem active_expire {g : Grant} {ids : List Nat} :
    (g.expire ids).active = true ↔ g.active = true ∧ g.id ∉ ids := by
  simp [Grant.expire]

theorem expire_eq {g : Grant} {ids : List Nat} (h : g.id ∉ ids) : g.expire ids = g := by
  simp [Grant.expire, h]

theorem ids_noteTokens (f : Feed) (ts : List Grant) (s : Stimulus) :
    (f.noteTokens ts s).map (·.id) = ts.map (·.id) ++ (f.takes s).map (·.id) := by
  rw [noteTokens, List.map_map, ← List.map_append]
  rfl

/-! ### What is held after a step -/

/-- Only the answer to a registration ends an attempt well. -/
theorem attempt?_eq_ok {s : Stimulus} {g : Grant} : f.attempt? s = some (.ok g) ↔
    ∃ now slot p, s = .turn now slot (some (.registered (.ok g))) ∧
      f.point = .registering p ∧ f.cancelled = false := by
  constructor
  · intro h
    cases s with
    | turn now slot answer =>
      unfold attempt? at h
      dsimp only at h
      split at h
      · cases h
      · rename_i hc
        split at h
        · split at h <;> cases h
        · rename_i p hp
          split at h
          · rename_i i
            cases i with
            | ok g' =>
              cases h
              exact ⟨now, slot, p, rfl, hp, by simpa using hc⟩
            | error e => cases h
          · cases h
        · split at h
          · split at h <;> cases h
          · cases h
        · cases h
    | _ => cases h
  · rintro ⟨now, slot, p, rfl, hp, hc⟩
    simp [attempt?, hp, hc, Except.mapError]

theorem taken_eq (f : Feed) (s : Stimulus) : f.taken s = (f.takes s).map (·.id) := by
  unfold taken takes
  split
  · rename_i now slot g
    cases hp : f.point <;> cases hc : f.cancelled <;> simp [attempt?, hp, hc, Except.mapError]
  · rename_i hs
    split
    · rename_i g hg
      obtain ⟨now, slot, p, rfl, -, -⟩ := attempt?_eq_ok.mp hg
      exact absurd rfl (hs now slot g)
    · rfl

/-- A step leaves nothing to hold, or what was held, or what it takes. -/
inductive Left (f : Feed) (s : Stimulus) : Prop
  | nothing (hh : (f.step s).1.held = none) (hr : released (f.step s).2 = f.heldIds ++ f.taken s)
  | same (hh : (f.step s).1.held = f.held.map (·.expire s.lapses)) (ht : f.takes s = [])
      (hr : released (f.step s).2 = [])
  | other (g : Grant) (hh : (f.step s).1.held = some g) (ht : f.takes s = [g])
      (hl : s.lapses = []) (hr : released (f.step s).2 = f.heldIds)

theorem left_of_step (ha : Attentive settings f) (ht : f.Tidy) (s : Stimulus) : Left f s := by
  obtain ⟨hbooks, -⟩ := settled_step ha ht s
  have hheld := held_step ht s
  have nothing (hh : (f.step s).1.held = none) : Left f s := by
    refine .nothing hh ?_
    rw [hbooks, heldIds, hh]
    exact (List.append_nil _).symm
  cases hn : (f.step s).1.isEnded with
  | true => exact nothing (by rw [hheld, hn]; rfl)
  | false =>
    rw [hn] at hheld
    cases hatt : f.attempt? s with
    | none =>
      rw [hatt] at hheld
      have htakes : f.takes s = [] := by simp [takes, hatt]
      refine .same hheld htakes ?_
      have hids : (f.step s).1.heldIds = f.heldIds := by
        rw [heldIds, hheld]
        cases hh : f.held <;> simp [heldAfter, heldIds, hh, Grant.expire]
      rw [taken_eq, htakes, hids] at hbooks
      simpa using hbooks
    | some a =>
      have hl : s.lapses = [] := lapses_of_attempt (by rw [hatt]; rfl)
      cases a with
      | error e => exact nothing (by rw [hheld, hatt]; rfl)
      | ok g =>
        have hg : (f.step s).1.held = some g := by
          rw [hheld, hatt, hl]
          simp [heldAfter]
        have htakes : f.takes s = [g] := by simp [takes, hatt]
        refine .other g hg htakes hl ?_
        rw [taken_eq, htakes, heldIds, heldIds, hg] at hbooks
        exact (List.append_cancel_right hbooks).symm

/-! ### Uncancelled tokens -/

/-- At most one token is not cancelled, that of what is held. -/
structure Sole (f : Feed) (ts : List Grant) : Prop where
  held : ∀ g ∈ ts, g.active = true → f.held = some g
  one : ts.countP (·.active) ≤ 1

namespace Sole

theorem mem_heldIds (h : f.Sole ts) {g : Grant} (hg : g ∈ ts) (ha : g.active = true) :
    g.id ∈ f.heldIds := by
  rw [heldIds, h.held g hg ha]
  exact List.mem_singleton_self _

theorem countP_noteTokens (f : Feed) (ts : List Grant) (s : Stimulus) :
    (f.noteTokens ts s).countP (·.active) =
      ts.countP (fun g => (g.expire (f.cancels s)).active) +
        (f.takes s).countP (fun g => (g.expire (f.cancels s)).active) := by
  rw [noteTokens, List.countP_map, List.countP_append]
  rfl

theorem step (h : f.Sole ts) (ha : Attentive settings f) (ht : f.Tidy) (s : Stimulus) :
    (f.step s).1.Sole (f.noteTokens ts s) := by
  -- All that was not cancelled is, where what was held is given up.
  have given (hr : f.heldIds ⊆ released (f.step s).2) :
      ∀ g ∈ ts, (g.expire (f.cancels s)).active ≠ true := by
    intro g hg hactive
    obtain ⟨hactive, hid⟩ := active_expire.mp hactive
    exact hid (List.mem_append_right _ (hr (h.mem_heldIds hg hactive)))
  have zero (hr : f.heldIds ⊆ released (f.step s).2) :
      ts.countP (fun g => (g.expire (f.cancels s)).active) = 0 :=
    List.countP_eq_zero.mpr (given hr)
  cases left_of_step ha ht s with
  | nothing hh hr =>
    have hsub : f.heldIds ⊆ released (f.step s).2 := by
      rw [hr]
      exact List.subset_append_left _ _
    have htakes : ∀ g ∈ f.takes s, (g.expire (f.cancels s)).active ≠ true := by
      intro g hg hactive
      refine (active_expire.mp hactive).2 (List.mem_append_right _ ?_)
      rw [hr, taken_eq]
      exact List.mem_append_right _ (List.mem_map_of_mem hg)
    constructor
    · intro g' hg' hactive
      obtain ⟨g, hg, rfl⟩ := List.mem_map.mp hg'
      rcases List.mem_append.mp hg with hg | hg
      · exact absurd hactive (given hsub g hg)
      · exact absurd hactive (htakes g hg)
    · rw [countP_noteTokens, zero hsub, List.countP_eq_zero.mpr htakes]
      exact Nat.zero_le _
  | same hh htakes hr =>
    constructor
    · intro g' hg' hactive
      obtain ⟨g, hg, rfl⟩ := List.mem_map.mp hg'
      rw [htakes, List.append_nil] at hg
      obtain ⟨hactive, hid⟩ := active_expire.mp hactive
      rw [expire_eq hid, hh, h.held g hg hactive, Option.map_some,
        expire_eq fun hl => hid (List.mem_append_left _ hl)]
    · rw [countP_noteTokens, htakes]
      refine Nat.le_trans (List.countP_mono_left fun g _ hg => ?_) h.one
      exact (active_expire.mp hg).1
  | other g₀ hh htakes hl hr =>
    have hsub : f.heldIds ⊆ released (f.step s).2 := by rw [hr]; exact List.Subset.refl _
    constructor
    · intro g' hg' hactive
      obtain ⟨g, hg, rfl⟩ := List.mem_map.mp hg'
      rcases List.mem_append.mp hg with hg | hg
      · exact absurd hactive (given hsub g hg)
      · rw [htakes, List.mem_singleton] at hg
        rw [hg, expire_eq (hg ▸ (active_expire.mp hactive).2)]
        exact hh
    · rw [countP_noteTokens, zero hsub, htakes]
      exact Nat.le_trans (Nat.le_of_eq (Nat.zero_add _)) List.countP_le_length

theorem start (settings : Settings) : (Feed.start settings).Sole [] := ⟨nofun, Nat.zero_le _⟩

end Sole

theorem sole_run (settings : Settings) (ss : List Stimulus) :
    ((start settings).after ss).Sole ((start settings).tokens [] ss) := by
  induction ss using List.reverseRecOn with
  | nil => exact .start settings
  | append_singleton ss s ih =>
    rw [after_snoc, tokens_snoc]
    exact ih.step (attentive settings ss) ((tidy_start settings).after ss) s

/-- Where no two registrations have one token, what is held is among the tokens as it is. -/
theorem held_mem_tokens (settings : Settings) (ss : List Stimulus)
    (hn : (((start settings).tokens [] ss).map (·.id)).Nodup) {g : Grant}
    (hg : ((start settings).after ss).held = some g) : g ∈ (start settings).tokens [] ss := by
  induction ss using List.reverseRecOn generalizing g with
  | nil => cases hg
  | append_singleton ss s ih =>
    rw [after_snoc] at hg
    rw [tokens_snoc] at hn ⊢
    rw [ids_noteTokens] at hn
    have hlast := fun {g} => ih (g := g) (hn.sublist (List.sublist_append_left _ _))
    cases left_of_step (attentive settings ss) ((tidy_start settings).after ss) s with
    | nothing hh hr =>
      rw [hh] at hg
      cases hg
    | same hh htakes hr =>
      rw [hh] at hg
      obtain ⟨g', hg', rfl⟩ := Option.map_eq_some_iff.mp hg
      refine List.mem_map.mpr ⟨g', List.mem_append_left _ (hlast hg'), ?_⟩
      rw [cancels, hr, List.append_nil]
    | other g₀ hh htakes hl hr =>
      cases hh.symm.trans hg
      have hid : g.id ∉ ((start settings).after ss).heldIds := by
        intro hm
        obtain ⟨x, hx, hid⟩ := List.mem_map.mp hm
        have hx' := List.mem_map_of_mem (f := (·.id)) (hlast (Option.mem_toList.mp hx))
        rw [htakes] at hn
        exact (List.nodup_append.mp hn).2.2 _ hx' g.id (List.mem_singleton_self _) hid
      refine List.mem_map.mpr ⟨g, List.mem_append_right _ (by simp [htakes]), expire_eq ?_⟩
      rw [cancels, hl, hr]
      exact hid

end WorkBridge.Feed
