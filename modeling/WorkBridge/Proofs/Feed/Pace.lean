import Mathlib.Data.List.Induction

/-!
The rule that keeps a feed from reconnecting all the time.

The beats of a run are what its pace shows in: the node is asked, a sync check ends, a reconnect
is called and ends, a pause begins and ends, the handler is called.  The rule says which beat may
come next (`Pace.next`).  Beats that follow it are paced (`Paced`): two reconnects are a full
pause or a call of the handler apart, and every sync check that fails is followed by one remedy
before the next.
-/

namespace WorkBridge.Feed

inductive Beat
  /-- The node is asked whether it is synced. -/
  | asked
  | passed
  | failed
  /-- A reconnect is called. -/
  | called
  | reconnected (ok : Bool)
  | paused (now : Nat)
  | resumed (now : Nat)
  /-- The handler of new work is called. -/
  | worked
deriving DecidableEq

namespace Beat

def endsCheck : Beat → Bool
  | .passed => true
  | .failed => true
  | _ => false

def ofCheck : Beat → Bool
  | .asked => true
  | b => b.endsCheck

def ofReconnect : Beat → Bool
  | .called => true
  | .reconnected _ => true
  | _ => false

end Beat

/-! ### What is paced -/

/-- Somewhere in them is a pause of the full length. -/
def FullPause (interval : Nat) (bs : List Beat) : Prop :=
  ∃ before since now rest,
    bs = before ++ .paused since :: .resumed now :: rest ∧ since + interval ≤ now

theorem FullPause.append {interval : Nat} {as : List Beat} (h : FullPause interval as)
    (bs : List Beat) :
    FullPause interval (as ++ bs) := by
  obtain ⟨before, since, now, rest, rfl, hle⟩ := h
  exact ⟨before, since, now, rest ++ bs, by simp, hle⟩

/-- The latest reconnect succeeded, and no sync check has ended since. -/
def Fresh (bs : List Beat) : Prop :=
  ∃ before since, bs = before ++ .reconnected true :: since ∧
    ∀ b ∈ since, b.endsCheck = false ∧ b.ofReconnect = false

theorem fresh_snoc {bs : List Beat} {b : Beat} :
    Fresh (bs ++ [b]) ↔
      b = .reconnected true ∨ Fresh bs ∧ b.endsCheck = false ∧ b.ofReconnect = false := by
  constructor
  · rintro ⟨before, since, hbs, hsince⟩
    rcases List.eq_nil_or_concat since with rfl | ⟨since, b', rfl⟩
    · exact .inl (List.singleton_inj.mp (List.append_inj' hbs rfl).2)
    · rw [List.concat_eq_append, ← List.cons_append, ← List.append_assoc] at hbs
      obtain ⟨rfl, hb⟩ := List.append_inj' hbs rfl
      cases hb
      refine .inr ⟨⟨before, since, rfl, fun b hb => hsince b (by simp [hb])⟩, hsince b (by simp)⟩
  · rintro (rfl | ⟨⟨before, since, rfl, hsince⟩, hb⟩)
    · exact ⟨bs, [], rfl, nofun⟩
    · refine ⟨before, since ++ [b], by simp, fun b' hb' => ?_⟩
      rcases List.mem_append.mp hb' with hb' | hb'
      · exact hsince b' hb'
      · rw [List.mem_singleton.mp hb']
        exact hb

/-- What comes between a sync check that fails and the next one, which depends on whether the
check came right after a reconnect. -/
inductive Remedy (interval : Nat) : Bool → List Beat → Prop
  | reconnect : Remedy interval false [.called, .reconnected true]
  | refused {since now : Nat} (h : since + interval ≤ now) :
    Remedy interval false [.called, .reconnected false, .paused since, .resumed now]
  | pause {since now : Nat} (h : since + interval ≤ now) :
    Remedy interval true [.paused since, .resumed now]

/-- None of them is of a sync check. -/
def Silent (bs : List Beat) : Prop := ∀ b ∈ bs, b.ofCheck = false

structure Paced (interval : Nat) (bs : List Beat) : Prop where
  /-- Two reconnects are a full pause or a call of the handler apart. -/
  apart : ∀ before mid rest, bs = before ++ .called :: (mid ++ .called :: rest) →
    .worked ∈ mid ∨ FullPause interval mid
  /-- A sync check that fails is followed by one remedy before the next check. -/
  remedied : ∀ before since next rest, bs = before ++ .failed :: (since ++ next :: rest) →
    Silent since → next.ofCheck = true →
    ∃ fresh, Remedy interval fresh since ∧ (fresh = true ↔ Fresh before)
  /-- The remedy is begun at once, and nothing else is. -/
  begun : ∀ before since, bs = before ++ .failed :: since → Silent since →
    since ≠ [] ∧ ∃ fresh rest, Remedy interval fresh (since ++ rest) ∧
      (fresh = true ↔ Fresh before)

/-! ### The rule -/

/-- A place in the rule. -/
inductive Pace
  /-- A sync check is under way or comes next; `fresh` if none has ended since a reconnect
  succeeded. -/
  | checking (fresh : Bool)
  | synced
  | faulty (fresh : Bool)
  | calling
  | refused
  | pausing (since : Nat)
deriving DecidableEq

namespace Pace

def next (interval : Nat) : Pace → Beat → Option Pace
  | .checking fresh, .asked => some (.checking fresh)
  | .checking _, .passed => some .synced
  | .checking fresh, .failed => some (.faulty fresh)
  | .synced, .worked => some (.checking false)
  | .faulty false, .called => some .calling
  | .faulty true, .paused now => some (.pausing now)
  | .calling, .reconnected true => some (.checking true)
  | .calling, .reconnected false => some .refused
  | .refused, .paused now => some (.pausing now)
  | .pausing since, .resumed now =>
    if since + interval ≤ now then some (.checking false) else none
  | _, _ => none

def walk (interval : Nat) (p : Pace) (bs : List Beat) : Option Pace := bs.foldlM (next interval) p

variable {interval : Nat} {p q m : Pace} {b : Beat} {as bs since : List Beat} {fresh : Bool}

theorem walk_append (p : Pace) (as bs : List Beat) :
    p.walk interval (as ++ bs) = (p.walk interval as).bind (walk interval · bs) :=
  List.foldlM_append

theorem walk_cons (p : Pace) (b : Beat) (bs : List Beat) :
    p.walk interval (b :: bs) = (next interval p b).bind (walk interval · bs) :=
  List.foldlM_cons

theorem walk_append_eq_some :
    p.walk interval (as ++ bs) = some q ↔
      ∃ m, p.walk interval as = some m ∧ m.walk interval bs = some q := by
  rw [walk_append, Option.bind_eq_some_iff]

theorem walk_cons_eq_some :
    p.walk interval (b :: bs) = some q ↔
      ∃ m, next interval p b = some m ∧ m.walk interval bs = some q := by
  rw [walk_cons, Option.bind_eq_some_iff]

theorem walk_singleton (p : Pace) (b : Beat) : p.walk interval [b] = next interval p b := by
  rw [walk_cons]
  exact Option.bind_fun_some _

theorem walk_snoc_eq_some :
    p.walk interval (bs ++ [b]) = some q ↔
      ∃ m, p.walk interval bs = some m ∧ next interval m b = some q := by
  simp only [walk_append_eq_some, walk_singleton]

/-- A check that fails was under way. -/
theorem next_failed (h : next interval p .failed = some q) :
    ∃ fresh, p = .checking fresh ∧ q = .faulty fresh := by
  unfold next at h
  split at h <;> simp_all

/-- A reconnect is only called because a check failed. -/
theorem next_called (h : next interval p .called = some q) : p = .faulty false ∧ q = .calling := by
  unfold next at h
  split at h <;> simp_all

/-! ### Between two reconnects -/

/-- The next reconnect may not be called yet. -/
def Barred (bs : List Beat) : Pace → Prop
  | .checking fresh => fresh = true
  | .synced => True
  | .faulty fresh => fresh = true
  | .calling => True
  | .refused => True
  | .pausing since => ∃ before, bs = before ++ [.paused since]

/-- Only a call of the handler and a full pause lift the bar. -/
theorem Barred.next (hp : Barred bs p) (h : Pace.next interval p b = some q) :
    b = .worked ∨ FullPause interval (bs ++ [b]) ∨ Barred (bs ++ [b]) q := by
  unfold Pace.next at h
  split at h
  -- The end of a pause, the only beat that the rule times.
  case h_10 since now =>
    obtain ⟨before, rfl⟩ := hp
    split at h
    · exact .inr (.inl ⟨before, since, now, [], by simp, ‹_›⟩)
    · cases h
  all_goals cases h
  case h_4 => exact .inl rfl
  case h_6 => exact .inr (.inr ⟨bs, rfl⟩)
  case h_9 => exact .inr (.inr ⟨bs, rfl⟩)
  all_goals first | exact .inr (.inr trivial) | exact .inr (.inr hp) | exact .inr (.inr rfl)

theorem freed_or_barred (h : Pace.calling.walk interval bs = some q) :
    .worked ∈ bs ∨ FullPause interval bs ∨ Barred bs q := by
  induction bs using List.reverseRecOn generalizing q with
  | nil =>
    cases h
    exact .inr (.inr trivial)
  | append_singleton bs b ih =>
    obtain ⟨m, hm, hb⟩ := walk_snoc_eq_some.mp h
    rcases ih hm with hw | hp | hbar
    · exact .inl (List.mem_append_left _ hw)
    · exact .inr (.inl (hp.append _))
    · rcases hbar.next hb with rfl | hp | hbar
      · exact .inl (by simp)
      · exact .inr (.inl hp)
      · exact .inr (.inr hbar)

/-! ### After a reconnect -/

theorem next_fresh (h : next interval p b = some q) :
    q = .checking true ↔
      b = .reconnected true ∨
        p = .checking true ∧ b.endsCheck = false ∧ b.ofReconnect = false := by
  unfold next at h
  split at h
  case h_10 => split at h <;> cases h; simp
  all_goals cases h <;> simp [Beat.endsCheck, Beat.ofReconnect]

/-- A check is fresh exactly if the beats before it show it. -/
theorem fresh_iff (h : (Pace.checking false).walk interval bs = some q) :
    Fresh bs ↔ q = .checking true := by
  induction bs using List.reverseRecOn generalizing q with
  | nil =>
    cases h
    simp [Fresh]
  | append_singleton bs b ih =>
    obtain ⟨m, hm, hb⟩ := walk_snoc_eq_some.mp h
    rw [fresh_snoc, ih hm, next_fresh hb]

/-! ### After a sync check that fails -/

/-- What is left of a remedy. -/
inductive Left (interval : Nat) : Pace → List Beat → Prop
  | checking {fresh : Bool} : Left interval (.checking fresh) []
  | pausing {since now : Nat} (h : since + interval ≤ now) :
    Left interval (.pausing since) [.resumed now]
  | refused {since now : Nat} (h : since + interval ≤ now) :
    Left interval .refused [.paused since, .resumed now]
  | calling : Left interval .calling [.reconnected true]
  | failing {since now : Nat} (h : since + interval ≤ now) :
    Left interval .calling [.reconnected false, .paused since, .resumed now]
  | faulty {fresh : Bool} {bs : List Beat} (h : Remedy interval fresh bs) :
    Left interval (.faulty fresh) bs

theorem exists_left (interval : Nat) (hp : p ≠ .synced) : ∃ bs, Left interval p bs := by
  cases p with
  | checking fresh => exact ⟨_, .checking⟩
  | synced => exact absurd rfl hp
  | faulty fresh =>
    cases fresh with
    | false => exact ⟨_, .faulty .reconnect⟩
    | true => exact ⟨_, .faulty (.pause (Nat.le_refl (0 + interval)))⟩
  | calling => exact ⟨_, .calling⟩
  | refused => exact ⟨_, .refused (Nat.le_refl (0 + interval))⟩
  | pausing since => exact ⟨_, .pausing (Nat.le_refl _)⟩

theorem ne_synced_of_next (h : next interval p b = some q) (hb : b.ofCheck = false) :
    q ≠ .synced := by
  rintro rfl
  unfold next at h
  split at h <;> simp_all [Beat.ofCheck, Beat.endsCheck]

theorem Left.cons (h : next interval p b = some q) (hb : b.ofCheck = false) (hp : p ≠ .synced)
    (hl : Left interval q bs) : Left interval p (b :: bs) := by
  unfold next at h
  split at h
  case h_10 =>
    split at h <;> cases h
    cases hl
    exact .pausing ‹_›
  all_goals cases h
  case h_1 | h_2 | h_3 => cases hb
  case h_4 => exact absurd rfl hp
  case h_5 =>
    cases hl with
    | calling => exact .faulty .reconnect
    | failing hle => exact .faulty (.refused hle)
  case h_6 =>
    cases hl with
    | pausing hle => exact .faulty (.pause hle)
  case h_7 =>
    cases hl with
    | checking => exact .calling
  case h_8 =>
    cases hl with
    | refused hle => exact .failing hle
  case h_9 =>
    cases hl with
    | pausing hle => exact .refused hle

/-- Until the next sync check nothing comes but the rest of the remedy. -/
theorem Left.of_silent (h : p.walk interval since = some q) (hs : Silent since)
    (hp : p ≠ .synced) :
    q ≠ .synced ∧ ∀ {bs}, Left interval q bs → Left interval p (since ++ bs) := by
  induction since generalizing p with
  | nil =>
    cases h
    exact ⟨hp, id⟩
  | cons b since ih =>
    obtain ⟨m, hm, hrest⟩ := walk_cons_eq_some.mp h
    have hb := hs b (List.mem_cons_self ..)
    obtain ⟨hq, hl⟩ :=
      ih hrest (fun b' hb' => hs b' (List.mem_cons_of_mem _ hb')) (ne_synced_of_next hm hb)
    exact ⟨hq, fun h => .cons hm hb hp (hl h)⟩

theorem next_ofCheck (h : next interval p b = some q) (hb : b.ofCheck = true) :
    ∃ fresh, p = .checking fresh := by
  unfold next at h
  split at h
  case h_1 | h_2 | h_3 => exact ⟨_, rfl⟩
  all_goals simp [Beat.ofCheck, Beat.endsCheck] at hb h

/-- Beats that begin before a sync check and do not end at one that fails are paced. -/
theorem paced (h : (Pace.checking false).walk interval bs = some q)
    (hq : ∀ fresh, q ≠ .faulty fresh) : Paced interval bs where
  apart := by
    rintro before mid rest rfl
    obtain ⟨p, -, h⟩ := walk_append_eq_some.mp h
    obtain ⟨m, hm, h⟩ := walk_cons_eq_some.mp h
    obtain ⟨-, rfl⟩ := next_called hm
    obtain ⟨p, hmid, h⟩ := walk_append_eq_some.mp h
    obtain ⟨m, hm, -⟩ := walk_cons_eq_some.mp h
    obtain ⟨rfl, -⟩ := next_called hm
    rcases freed_or_barred hmid with hw | hp | hbar
    · exact .inl hw
    · exact .inr hp
    · cases hbar
  remedied := by
    rintro before since next rest rfl hs hn
    obtain ⟨p, hbefore, h⟩ := walk_append_eq_some.mp h
    obtain ⟨m, hm, h⟩ := walk_cons_eq_some.mp h
    obtain ⟨fresh, rfl, rfl⟩ := next_failed hm
    obtain ⟨p, hsince, h⟩ := walk_append_eq_some.mp h
    obtain ⟨m, hm, -⟩ := walk_cons_eq_some.mp h
    obtain ⟨_, rfl⟩ := next_ofCheck hm hn
    have hl := (Left.of_silent hsince hs nofun).2 .checking
    rw [List.append_nil] at hl
    cases hl with
    | faulty hr => exact ⟨fresh, hr, by rw [fresh_iff hbefore]; simp⟩
  begun := by
    rintro before since rfl hs
    obtain ⟨p, hbefore, h⟩ := walk_append_eq_some.mp h
    obtain ⟨m, hm, h⟩ := walk_cons_eq_some.mp h
    obtain ⟨fresh, rfl, rfl⟩ := next_failed hm
    -- What is left of the remedy at the end is what would complete it.
    obtain ⟨hne, hl⟩ := Left.of_silent h hs nofun
    refine ⟨?_, ?_⟩
    · rintro rfl
      cases h
      exact hq fresh rfl
    · obtain ⟨rest, hrest⟩ := exists_left interval hne
      cases hl hrest with
      | faulty hr => exact ⟨fresh, rest, hr, by rw [fresh_iff hbefore]; simp⟩

end Pace
end WorkBridge.Feed
