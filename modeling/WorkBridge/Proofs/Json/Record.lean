import Mathlib.Data.List.Forall2
import Mathlib.Data.List.Nodup
import WorkBridge.Json.TypedField
import WorkBridge.Proofs.Json.Reading

/-!
What a record is read from.

A `Place` is a field of a record as one who writes objects knows it: its name, what it wants and
what it is when nothing is given.  The places of a record settle what comes of the members of an
object (`Settles`), whatever their order and whatever else is in it.  A record whose fields fit its
places (`Mirrors`) reads objects that way (`Mirrors.decode_object`), and arrays as if each value had
the name of its field (`Mirrors.decode_array`).
-/

namespace WorkBridge.Json

namespace Wanted

def isString : Json → Bool
  | .string _ => true
  | _ => false

/-- The values that are wanted. -/
def takes : Wanted → Json → Bool
  | .bool, .bool _ => true
  | .string, .string _ => true
  | .unsigned, .int n => decide (0 ≤ n ∧ n ≤ maxUnsigned)
  | .signed, .int n => decide (Int64.minValue.toInt ≤ n ∧ n ≤ Int64.maxValue.toInt)
  | .real, .int _ => true
  | .real, .float _ => true
  | .strings, .array items => items.all isString
  | .any, _ => true
  | _, _ => false

/-- A value as a field keeps it. -/
def stored : Wanted → Json → Json
  | .real, .int n => .float (Decoder.nearest n)
  | .any, v => v.canonical
  | _, v => v

/-- What is kept of a value, as a value. -/
def shown : (w : Wanted) → w.Value → Json
  | .bool, b => .bool b
  | .string, s => .string s
  | .unsigned, n => .int n
  | .signed, i => .int i
  | .real, x => .float x
  | .strings, ss => .array (ss.map .string)
  | .any, v => v

end Wanted

/-- A field of the record `σ` as it is seen from outside. -/
structure Place (σ : Type) where
  name : String
  wanted : Wanted
  /-- The field of a record, as a value. -/
  shown : σ → Json
  /-- What is shown of a field that is not given, unless it has to be. -/
  usual : Option Json

variable {σ : Type} {ps : List (Place σ)} {p : Place σ} {s t : σ} {m : List (String × Json)}
  {v w : Json} {name : String} {room : Nat}

def names (m : List (String × Json)) : List String := m.map Prod.fst

/-- A name occurs twice among those that are given or were given before. -/
def Repeats (seen : List String) (m : List (String × Json)) (p : Place σ) : Prop :=
  2 ≤ (seen ++ names m).count p.name

def Misfits (m : List (String × Json)) (p : Place σ) : Prop :=
  ∃ v, (p.name, v) ∈ m ∧ p.wanted.takes v = false

def Lacks (seen : List String) (m : List (String × Json)) (p : Place σ) : Prop :=
  p.usual = none ∧ p.name ∉ seen ++ names m

/-- Something is wrong with one of the places, where the names `seen` were given before. -/
def RefusesAfter (seen : List String) (ps : List (Place σ)) (m : List (String × Json)) : Prop :=
  ∃ p ∈ ps, Repeats seen m p ∨ Misfits m p ∨ Lacks seen m p

def Refuses (ps : List (Place σ)) (m : List (String × Json)) : Prop := RefusesAfter [] ps m

/-- The places show what is given for them, or else what is usual. -/
def MadeOf (ps : List (Place σ)) (m : List (String × Json)) (s : σ) : Prop :=
  ∀ p ∈ ps, (∃ v, (p.name, v) ∈ m ∧ p.shown s = p.wanted.stored v) ∨
    (p.name ∉ names m ∧ p.usual = some (p.shown s))

/-- What comes of members. -/
def Settles (ps : List (Place σ)) (m : List (String × Json)) (result : Except Fault σ) : Prop :=
  (Refuses ps m → result = .error .mismatched) ∧
    (¬Refuses ps m → ∃ s, result = .ok s ∧ MadeOf ps m s)

/-! ### Members, whatever their order -/

theorem mem_names (h : (name, v) ∈ m) : name ∈ names m := List.mem_map_of_mem h

theorem eq_of_count_le_one (hcount : (names m).count name ≤ 1) (hv : (name, v) ∈ m)
    (hw : (name, w) ∈ m) : v = w := by
  induction m with
  | nil => cases hv
  | cons x m ih =>
    rw [names, List.map_cons, List.count_cons] at hcount
    have hnone : name ∈ names m → x.1 ≠ name := by
      rintro hmem rfl
      have := List.count_pos_iff.mpr hmem
      simp only [beq_self_eq_true, if_true] at hcount
      unfold names at this
      omega
    rcases List.mem_cons.mp hv with rfl | hv <;> rcases List.mem_cons.mp hw with hw | hw
    · exact congrArg Prod.snd hw.symm
    · exact absurd rfl (hnone (mem_names hw))
    · exact absurd (congrArg Prod.fst hw.symm) (hnone (mem_names hv))
    · exact ih (by unfold names; omega) hv hw

/-- The members whose names belong to places. -/
def known (ps : List (Place σ)) (m : List (String × Json)) : List (String × Json) :=
  m.filter fun x => x.1 ∈ ps.map (·.name)

theorem mem_known (hp : p ∈ ps) : (p.name, v) ∈ known ps m ↔ (p.name, v) ∈ m := by
  have hname : p.name ∈ ps.map (·.name) := List.mem_map_of_mem hp
  simp only [known, List.mem_filter, decide_eq_true_eq]
  exact and_iff_left hname

theorem names_known : names (known ps m) = (names m).filter (· ∈ ps.map (·.name)) := by
  unfold names
  rw [List.filter_map]
  rfl

theorem count_known (hp : p ∈ ps) :
    (names (known ps m)).count p.name = (names m).count p.name := by
  have hname : p.name ∈ ps.map (·.name) := List.mem_map_of_mem hp
  rw [names_known, List.count_filter (by simpa using hname)]

theorem mem_names_known (hp : p ∈ ps) : p.name ∈ names (known ps m) ↔ p.name ∈ names m := by
  rw [← List.count_pos_iff, ← List.count_pos_iff, count_known hp]

variable {m' : List (String × Json)}

theorem RefusesAfter.of_perm {seen : List String} (h : (known ps m).Perm (known ps m'))
    (hm : RefusesAfter seen ps m) : RefusesAfter seen ps m' := by
  have hnames : (names (known ps m)).Perm (names (known ps m')) := h.map _
  obtain ⟨p, hp, hrep | ⟨v, hv, hfit⟩ | ⟨hneeded, hlacks⟩⟩ := hm
  · refine ⟨p, hp, .inl ?_⟩
    have hcount := hnames.count_eq p.name
    rw [count_known hp, count_known hp] at hcount
    rw [Repeats, List.count_append, ← hcount, ← List.count_append]
    exact hrep
  · refine ⟨p, hp, .inr (.inl ⟨v, ?_, hfit⟩)⟩
    rw [← mem_known hp] at hv ⊢
    exact h.mem_iff.mp hv
  · refine ⟨p, hp, .inr (.inr ⟨hneeded, fun hmem => hlacks ?_⟩)⟩
    rw [List.mem_append] at hmem ⊢
    refine hmem.imp_right fun hmem => ?_
    rw [← mem_names_known hp] at hmem ⊢
    exact hnames.mem_iff.mpr hmem

theorem refuses_perm (h : (known ps m).Perm (known ps m')) : Refuses ps m ↔ Refuses ps m' :=
  ⟨.of_perm h, .of_perm h.symm⟩

theorem MadeOf.of_perm (h : (known ps m).Perm (known ps m')) (hm : MadeOf ps m s) :
    MadeOf ps m' s := by
  intro p hp
  refine (hm p hp).imp (fun ⟨v, hv, hshown⟩ => ⟨v, ?_, hshown⟩) fun ⟨hnone, husual⟩ => ⟨?_, husual⟩
  · rw [← mem_known hp] at hv ⊢
    exact h.mem_iff.mp hv
  · rw [← mem_names_known hp] at hnone ⊢
    exact fun hmem => hnone ((h.map _).mem_iff.mpr hmem)

theorem Settles.of_perm {result : Except Fault σ} (h : (known ps m).Perm (known ps m'))
    (hm : Settles ps m result) : Settles ps m' result := by
  refine ⟨fun href => hm.1 ((refuses_perm h).mpr href), fun hnot => ?_⟩
  obtain ⟨s, hs, hmade⟩ := hm.2 fun href => hnot ((refuses_perm h).mp href)
  exact ⟨s, hs, hmade.of_perm h⟩

/-- Members that nothing is wrong with show one thing of every place. -/
theorem MadeOf.shown_eq (hnot : ¬Refuses ps m) (hs : MadeOf ps m s) (ht : MadeOf ps m t)
    (hp : p ∈ ps) : p.shown s = p.shown t := by
  have hcount : (names m).count p.name ≤ 1 := by
    by_contra hlt
    exact hnot ⟨p, hp, .inl (by rw [Repeats, List.nil_append]; omega)⟩
  rcases hs p hp with ⟨v, hv, hshows⟩ | ⟨hnone, hus⟩ <;>
    rcases ht p hp with ⟨w, hw, hshowt⟩ | ⟨hnone', hut⟩
  · rw [hshows, hshowt, eq_of_count_le_one hcount hv hw]
  · exact absurd (mem_names hv) hnone'
  · exact absurd (mem_names hw) hnone
  · exact Option.some.inj (hus.symm.trans hut)

theorem itemsDepth_le_iff {vs : List Json} : itemsDepth vs ≤ room ↔ ∀ v ∈ vs, v.depth ≤ room := by
  induction vs with
  | nil => simp [itemsDepth]
  | cons v vs ih => rw [itemsDepth, Nat.max_le, ih, List.forall_mem_cons]

theorem membersDepth_le_iff : membersDepth m ≤ room ↔ ∀ x ∈ m, x.2.depth ≤ room := by
  induction m with
  | nil => simp [membersDepth]
  | cons x m ih => rw [membersDepth, Nat.max_le, ih, List.forall_mem_cons]

theorem membersDepth_perm (h : m.Perm m') : membersDepth m = membersDepth m' := by
  have hle {l l' : List (String × Json)} (h : l.Perm l') : membersDepth l ≤ membersDepth l' :=
    membersDepth_le_iff.mpr fun x hx => membersDepth_le_iff.mp (Nat.le_refl _) x (h.mem_iff.mp hx)
  exact Nat.le_antisymm (hle h) (hle h.symm)

/-! ### Members that show a record -/

/-- What is written for a record. -/
def members (ps : List (Place σ)) (s : σ) : List (String × Json) :=
  ps.map fun p => (p.name, p.shown s)

theorem names_members : names (members ps s) = ps.map (·.name) := by
  rw [names, members, List.map_map]
  rfl

theorem known_members : known ps (members ps s) = members ps s := by
  rw [known, List.filter_eq_self]
  rintro x hx
  obtain ⟨p, hp, rfl⟩ := List.mem_map.mp hx
  exact decide_eq_true (List.mem_map_of_mem hp)

/-- Nothing is wrong with what is written for a record whose values are all wanted. -/
theorem not_refuses_members (hnodup : (ps.map (·.name)).Nodup)
    (h : ∀ p ∈ ps, p.wanted.takes (p.shown s) = true) : ¬Refuses ps (members ps s) := by
  have hcount (name : String) : (names (members ps s)).count name ≤ 1 := by
    rw [names_members]
    exact List.nodup_iff_count_le_one.mp hnodup name
  rintro ⟨p, hp, hrepeats | ⟨v, hv, hmisfits⟩ | ⟨-, hlacks⟩⟩
  · exact absurd (hcount p.name) (Nat.not_le.mpr hrepeats)
  · obtain rfl : v = p.shown s :=
      eq_of_count_le_one (hcount p.name) hv (List.mem_map_of_mem hp)
    rw [h p hp] at hmisfits
    cases hmisfits
  · rw [List.nil_append, names_members] at hlacks
    exact hlacks (List.mem_map_of_mem hp)

theorem madeOf_members (h : ∀ p ∈ ps, p.wanted.stored (p.shown s) = p.shown s) :
    MadeOf ps (members ps s) s :=
  fun p hp => .inl ⟨p.shown s, List.mem_map_of_mem (f := fun p => (p.name, p.shown s)) hp,
    (h p hp).symm⟩

/-! ### Records and their places -/

/-- A decoder reads what is wanted, as `shown` shows it, and finds that anything else is of another
shape. -/
def Decoder.Reads {α : Type} (decode : Decoder α) (wanted : Wanted) (shown : α → Json) : Prop :=
  ∀ {d v room}, Draft.Tells d v → v.depth ≤ room →
    (wanted.takes v = true → ∃ a, decode room d = .ok a ∧ shown a = wanted.stored v) ∧
      (wanted.takes v = false → decode room d = .error .mismatched)

/-- Storing a value shows it in the place `p` and nowhere else. -/
def Stores (ps : List (Place σ)) (p : Place σ) (v : Json) (store : σ → σ) : Prop :=
  ∀ s, p.shown (store s) = p.wanted.stored v ∧
    ∀ q ∈ ps, q.name ≠ p.name → q.shown (store s) = q.shown s

structure Field.Fits (ps : List (Place σ)) (f : Field σ) (p : Place σ) : Prop where
  name : f.name = p.name
  required : f.required = p.usual.isNone
  takes {d : Draft} {v : Json} {room : Nat} (hd : Draft.Tells d v) (hroom : v.depth ≤ room)
    (h : p.wanted.takes v = true) : ∃ store, f.decode room d = .ok store ∧ Stores ps p v store
  refuses {d : Draft} {v : Json} {room : Nat} (hd : Draft.Tells d v) (hroom : v.depth ≤ room)
    (h : p.wanted.takes v = false) : f.decode room d = .error .mismatched

structure Mirrors (r : Record σ) (ps : List (Place σ)) : Prop where
  fields : List.Forall₂ (Field.Fits ps) r.fields ps
  nodup : (ps.map (·.name)).Nodup
  blank : ∀ p ∈ ps, ∀ u, p.usual = some u → p.shown r.blank = u
  ext : ∀ s t : σ, (∀ p ∈ ps, p.shown s = p.shown t) → s = t

theorem Settles.unique {r : Record σ} (hr : Mirrors r ps) {x y : Except Fault σ}
    (hx : Settles ps m x) (hy : Settles ps m y) : x = y := by
  by_cases h : Refuses ps m
  · rw [hx.1 h, hy.1 h]
  · obtain ⟨s, rfl, hs⟩ := hx.2 h
    obtain ⟨t, rfl, ht⟩ := hy.2 h
    rw [hr.ext s t fun p hp => hs.shown_eq h ht hp]

/-! ### Fields -/

theorem Field.fits_of_forall₂ {fs : List (Field σ)} {qs : List (Place σ)}
    (h : List.Forall₂ (Field.Fits ps) fs qs) (name : String) :
    (∃ f p, fs.find? (·.name == name) = some f ∧ p ∈ qs ∧ p.name = name ∧ f.Fits ps p) ∨
      (fs.find? (·.name == name) = none ∧ ∀ p ∈ qs, p.name ≠ name) := by
  induction h with
  | nil => exact .inr ⟨rfl, by simp⟩
  | @cons f p fs qs hfit _ ih =>
    by_cases hname : p.name = name
    · refine .inl ⟨f, p, ?_, List.mem_cons_self, hname, hfit⟩
      rw [List.find?_cons_of_pos (by simp [hfit.name, hname])]
    · rw [List.find?_cons_of_neg (by simp [hfit.name, hname])]
      rcases ih with ⟨f', p', hf', hp', hrest⟩ | ⟨hnone, hne⟩
      · exact .inl ⟨f', p', hf', List.mem_cons_of_mem p hp', hrest⟩
      · exact .inr ⟨hnone, List.forall_mem_cons.mpr ⟨hname, hne⟩⟩

/-! ### Decoders -/

theorem mismatch_of_tells {d : Draft} (h : Draft.Tells d v) : mismatch d = .mismatched := by
  cases h with
  | int h => simp only [mismatch, h]
  | float h => simp only [mismatch, h]
  | _ => rfl

namespace Decoder

theorem reads_bool : bool.Reads .bool .bool := by
  intro d v room h _
  have hmismatch := mismatch_of_tells h
  cases h with
  | bool b => exact ⟨fun _ => ⟨b, rfl, rfl⟩, nofun⟩
  | _ => exact ⟨nofun, fun _ => congrArg Except.error hmismatch⟩

theorem reads_string : string.Reads .string .string := by
  intro d v room h _
  have hmismatch := mismatch_of_tells h
  cases h with
  | string s => exact ⟨fun _ => ⟨s, rfl, rfl⟩, nofun⟩
  | _ => exact ⟨nofun, fun _ => congrArg Except.error hmismatch⟩

theorem reads_any : Decoder.Reads Json.ofDraft .any id :=
  fun h hroom => ⟨fun _ => ⟨_, h.ofDraft _ hroom, rfl⟩, nofun⟩

theorem reads_real : real.Reads .real .float := by
  intro d v room h _
  have hmismatch := mismatch_of_tells h
  cases h with
  | int h =>
    exact ⟨fun _ => ⟨_, by simp only [real, h]; rfl, rfl⟩, (absurd ·.symm Bool.false_ne_true)⟩
  | float h =>
    exact ⟨fun _ => ⟨_, by simp only [real, h]; rfl, rfl⟩, (absurd ·.symm Bool.false_ne_true)⟩
  | _ => exact ⟨(absurd · Bool.false_ne_true), fun _ => congrArg Except.error hmismatch⟩

/-- An integer in range is read, and anything else is of another shape. -/
theorem integer_of_tells (low high : Int) {d : Draft} (h : Draft.Tells d v) (room : Nat) :
    (∃ i, v = .int i ∧ low ≤ i ∧ i ≤ high ∧ integer low high room d = .ok i) ∨
      ((∀ i, v = .int i → ¬(low ≤ i ∧ i ≤ high)) ∧
        integer low high room d = .error .mismatched) := by
  have hmismatch := mismatch_of_tells h
  cases h with
  | @int n i h =>
    by_cases hi : low ≤ i ∧ i ≤ high
    · exact .inl ⟨i, rfl, hi.1, hi.2, by simp only [integer, h, bind, Except.bind, if_pos hi]; rfl⟩
    · refine .inr ⟨?_, by simp only [integer, h, bind, Except.bind, if_neg hi]⟩
      rintro _ ⟨⟩
      exact hi
  | float h => exact .inr ⟨nofun, by simp only [integer, h, bind, Except.bind]⟩
  | _ => exact .inr ⟨nofun, congrArg Except.error hmismatch⟩

theorem reads_unsigned : unsigned.Reads .unsigned fun n => .int n := by
  intro d v room h _
  rcases integer_of_tells 0 maxUnsigned h room with
    ⟨i, rfl, hlow, hhigh, hi⟩ | ⟨hout, hi⟩
  · refine ⟨fun _ => ⟨i.toNat, by rw [unsigned, hi]; rfl, ?_⟩, fun ht => ?_⟩
    · exact congrArg Json.int (Int.toNat_of_nonneg hlow)
    · exact absurd ⟨hlow, hhigh⟩ (of_decide_eq_false ht)
  · refine ⟨fun ht => ?_, fun _ => by rw [unsigned, hi]; rfl⟩
    cases v with
    | int i => exact absurd (of_decide_eq_true ht) (hout i rfl)
    | _ => cases ht

theorem reads_signed : signed.Reads .signed .int := by
  intro d v room h _
  rcases integer_of_tells Int64.minValue.toInt Int64.maxValue.toInt h room with
    ⟨i, rfl, hlow, hhigh, hi⟩ | ⟨hout, hi⟩
  · refine ⟨fun _ => ⟨i, hi, rfl⟩, fun ht => ?_⟩
    exact absurd ⟨hlow, hhigh⟩ (of_decide_eq_false ht)
  · refine ⟨fun ht => ?_, fun _ => hi⟩
    cases v with
    | int i => exact absurd (of_decide_eq_true ht) (hout i rfl)
    | _ => cases ht

theorem takes_string : Wanted.takes .string v = Wanted.isString v := by
  cases v <;> rfl

theorem elements_string : ∀ {ds vs}, Draft.ItemsTell ds vs → ∀ room, itemsDepth vs ≤ room →
    (vs.all Wanted.isString = true →
      ∃ ss : List String, elements string room none ds = .ok ss ∧ ss.map .string = vs) ∧
    (vs.all Wanted.isString = false → elements string room none ds = .error .mismatched)
  | _, _, .nil => fun _ _ => ⟨fun _ => ⟨[], rfl, rfl⟩, nofun⟩
  | d :: ds, v :: vs, .cons hd hs => fun room hroom => by
    rw [itemsDepth, Nat.max_le] at hroom
    obtain ⟨hok, herror⟩ := reads_string hd hroom.1
    rw [takes_string] at hok herror
    obtain ⟨hrest, hrestError⟩ := elements_string hs room hroom.2
    rw [List.all_cons]
    cases hstring : Wanted.isString v with
    | false => exact ⟨nofun, fun _ => by rw [elements, herror hstring]; rfl⟩
    | true =>
      obtain ⟨s, hread, rfl⟩ := hok hstring
      rw [Bool.true_and]
      refine ⟨fun hall => ?_, fun hall => ?_⟩
      · obtain ⟨ss, hss, rfl⟩ := hrest hall
        exact ⟨s :: ss, by rw [elements, hread, hss]; rfl, rfl⟩
      · rw [elements, hread, hrestError hall]
        rfl

theorem list_of_not_array {α : Type} (item : Decoder α) {d : Draft}
    (h : ∀ items snag, d ≠ .array items snag) : list item room d = .error (mismatch d) := by
  unfold list
  split
  · exact absurd rfl (h _ _)
  · exact absurd rfl (h _ _)
  · rfl

theorem reads_strings : (list string).Reads .strings fun ss => .array (ss.map .string) := by
  intro d v room h hroom
  have hmismatch := mismatch_of_tells h
  cases h with
  | array hs =>
    rw [depth] at hroom
    obtain ⟨room, rfl⟩ : ∃ n, room = n + 1 := ⟨room - 1, by omega⟩
    obtain ⟨hok, herror⟩ := elements_string hs room (by omega)
    refine ⟨fun hall => ?_, fun hall => herror hall⟩
    obtain ⟨ss, hss, rfl⟩ := hok hall
    exact ⟨ss, hss, rfl⟩
  | _ =>
    exact ⟨(absurd · Bool.false_ne_true), fun _ =>
      (list_of_not_array _ fun _ _ h => by cases h).trans (congrArg _ hmismatch)⟩

theorem reads_wanted : ∀ w : Wanted, w.decoder.Reads w w.shown
  | .bool => reads_bool
  | .string => reads_string
  | .unsigned => reads_unsigned
  | .signed => reads_signed
  | .real => reads_real
  | .strings => reads_strings
  | .any => reads_any

end Decoder

/-- A field is what its place says of it, and storing a value shows it there and nowhere else. -/
structure TypedField.Keeps (ps : List (Place σ)) (f : TypedField σ) (p : Place σ) : Prop where
  name : f.name = p.name
  wanted : f.wanted = p.wanted
  required : f.required = p.usual.isNone
  shows (a : f.wanted.Value) (s : σ) : p.shown (f.store a s) = f.wanted.shown a
  others (a : f.wanted.Value) (s : σ) : ∀ q ∈ ps, q.name ≠ p.name → q.shown (f.store a s) = q.shown s

theorem TypedField.Keeps.fits {f : TypedField σ} (h : f.Keeps ps p) : f.field.Fits ps p where
  name := h.name
  required := h.required
  takes := by
    intro d v room hd hroom htakes
    rw [← h.wanted] at htakes
    obtain ⟨a, ha, hstored⟩ := (Decoder.reads_wanted f.wanted hd hroom).1 htakes
    refine ⟨f.store a, ?_, fun s => ⟨?_, h.others a s⟩⟩
    · show f.store <$> f.wanted.decoder room d = .ok (f.store a)
      rw [ha]
      rfl
    · rw [h.shows, hstored, h.wanted]
  refuses := by
    intro d v room hd hroom htakes
    rw [← h.wanted] at htakes
    show f.store <$> f.wanted.decoder room d = .error .mismatched
    rw [(Decoder.reads_wanted f.wanted hd hroom).2 htakes]
    rfl

theorem fits_of_keeps {fs : List (TypedField σ)} {qs : List (Place σ)}
    (h : List.Forall₂ (TypedField.Keeps ps) fs qs) :
    List.Forall₂ (Field.Fits ps) (fs.map TypedField.field) qs :=
  List.forall₂_map_left_iff.mpr (h.imp fun _ _ hkeeps => hkeeps.fits)

/-! ### Objects -/

/-- A place in which nothing more can go wrong when a name is given that it does not have. -/
theorem refusesAfter_cons_of_ne {seen : List String} (hne : ∀ p ∈ ps, p.name ≠ name) :
    RefusesAfter seen ps ((name, v) :: m) ↔ RefusesAfter seen ps m := by
  refine exists_congr fun p => and_congr_right fun hp => ?_
  have hname : name ≠ p.name := Ne.symm (hne p hp)
  refine or_congr ?_ (or_congr ?_ ?_)
  · simp only [Repeats, names, List.map_cons, List.count_append, List.count_cons_of_ne hname]
  · simp only [Misfits, List.mem_cons, Prod.mk.injEq, hname.symm, false_and, false_or]
  · simp only [Lacks, names, List.map_cons, List.mem_append, List.mem_cons, hname.symm, false_or]

theorem eq_of_name_eq {q : Place σ} (hnodup : (ps.map (·.name)).Nodup) (hq : q ∈ ps) (hp : p ∈ ps)
    (h : q.name = p.name) : q = p :=
  List.inj_on_of_nodup_map hnodup hq hp h

/-- A member that its place takes counts from then on as given. -/
theorem refusesAfter_cons_of_takes {seen : List String} (hp : p ∈ ps)
    (hnodup : (ps.map (·.name)).Nodup) (htakes : p.wanted.takes v = true) :
    RefusesAfter seen ps ((p.name, v) :: m) ↔ RefusesAfter (p.name :: seen) ps m := by
  have hperm : (seen ++ names ((p.name, v) :: m)).Perm (p.name :: seen ++ names m) :=
    List.perm_middle
  refine exists_congr fun q => and_congr_right fun hq => or_congr ?_ (or_congr ?_ ?_)
  · rw [Repeats, Repeats, hperm.count_eq]
  · refine exists_congr fun w => and_congr_left fun hw => ?_
    rw [List.mem_cons, Prod.mk.injEq]
    refine or_iff_right ?_
    rintro ⟨hname, rfl⟩
    rw [eq_of_name_eq hnodup hq hp hname, htakes] at hw
    cases hw
  · rw [Lacks, Lacks, hperm.mem_iff]

/-- What a record shows once it has stored the members. -/
def Shows (ps : List (Place σ)) (m : List (String × Json)) (s t : σ) : Prop :=
  ∀ p ∈ ps, (∃ v, (p.name, v) ∈ m ∧ p.shown t = p.wanted.stored v) ∨
    (p.name ∉ names m ∧ p.shown t = p.shown s)

theorem Shows.cons_of_ne (hne : ∀ p ∈ ps, p.name ≠ name) (h : Shows ps m s t) :
    Shows ps ((name, v) :: m) s t := by
  intro p hp
  refine (h p hp).imp (fun ⟨w, hw, hshown⟩ => ⟨w, List.mem_cons_of_mem _ hw, hshown⟩) ?_
  rintro ⟨hnone, hshown⟩
  refine ⟨fun hmem => ?_, hshown⟩
  rcases List.mem_cons.mp hmem with hname | hmem
  · exact hne p hp hname
  · exact hnone hmem

theorem Shows.cons_of_stores {store : σ → σ} (hp : p ∈ ps) (hnodup : (ps.map (·.name)).Nodup)
    (hstore : Stores ps p v store) (h : Shows ps m (store s) t) :
    Shows ps ((p.name, v) :: m) s t := by
  intro q hq
  rcases h q hq with ⟨w, hw, hshown⟩ | ⟨hnone, hshown⟩
  · exact .inl ⟨w, List.mem_cons_of_mem _ hw, hshown⟩
  · by_cases hname : q.name = p.name
    · obtain rfl := eq_of_name_eq hnodup hq hp hname
      exact .inl ⟨v, List.mem_cons_self, hshown.trans (hstore s).1⟩
    · refine .inr ⟨fun hmem => ?_, hshown.trans ((hstore s).2 q hq hname)⟩
      rcases List.mem_cons.mp hmem with h | h
      · exact hname h
      · exact hnone h

theorem any_of_forall₂ {fs : List (Field σ)} {qs : List (Place σ)}
    (h : List.Forall₂ (Field.Fits ps) fs qs) (test : Bool → String → Bool) :
    (fs.any fun f => test f.required f.name) = qs.any fun p => test p.usual.isNone p.name := by
  induction h with
  | nil => rfl
  | cons hfit _ ih => rw [List.any_cons, List.any_cons, hfit.name, hfit.required, ih]

theorem any_lacking {fs : List (Field σ)} {qs : List (Place σ)}
    (h : List.Forall₂ (Field.Fits ps) fs qs) {seen : List String} (hseen : seen.Nodup) :
    (fs.any fun f => f.required && !seen.contains f.name) = true ↔ RefusesAfter seen qs [] := by
  rw [any_of_forall₂ h fun required name => required && !seen.contains name, List.any_eq_true]
  refine exists_congr fun p => and_congr_right fun _ => ?_
  have hrepeats : ¬Repeats seen [] p := by
    have := List.nodup_iff_count_le_one.mp hseen p.name
    simp only [Repeats, names, List.map_nil, List.append_nil]
    omega
  have hmisfits : ¬Misfits [] p := by rintro ⟨v, hv, -⟩; cases hv
  simp only [hrepeats, hmisfits, false_or, Lacks, names, List.map_nil, List.append_nil,
    Bool.and_eq_true, Option.isNone_iff_eq_none, Bool.not_eq_true', List.contains_eq_mem,
    decide_eq_false_iff_not]

namespace Mirrors

variable {r : Record σ}

/-- Members are read one after the other.  What is wrong with one of them, or with what was given
before, is always of the same kind, so it does not matter which is met first. -/
theorem ofMembers (hr : Mirrors r ps) : ∀ {ks m}, Draft.MembersTell ks m →
    (∀ p ∈ ps, ∀ v, (p.name, v) ∈ m → v.depth ≤ room) → ∀ seen, seen.Nodup → ∀ s,
    (RefusesAfter seen ps m → r.ofMembers room none seen s ks = .error .mismatched) ∧
      (¬RefusesAfter seen ps m → ∃ t, r.ofMembers room none seen s ks = .ok t ∧ Shows ps m s t)
  | _, _, .nil, _, seen, hseen, s => by
    rw [← any_lacking hr.fields hseen, Record.ofMembers]
    refine ⟨fun hany => if_pos hany, fun hany => ⟨s, if_neg hany, fun p _ => .inr ⟨?_, rfl⟩⟩⟩
    exact List.not_mem_nil
  | _, _, @Draft.MembersTell.cons name _ v _ ms hd hs, hdepth, seen, hseen, s => by
    have hrest := hr.ofMembers hs fun p hp w hw => hdepth p hp w (List.mem_cons_of_mem _ hw)
    rw [Record.ofMembers]
    rcases Field.fits_of_forall₂ hr.fields name with ⟨f, p, hfind, hp, rfl, hfit⟩ | ⟨hfind, hne⟩
    · have hfield : r.field? p.name = some f := hfind
      simp only [bind, Except.bind, hfield, hfit.name]
      by_cases hmem : p.name ∈ seen
      · -- The name was given before.
        have hrefuses : RefusesAfter seen ps ((p.name, v) :: ms) := by
          refine ⟨p, hp, .inl ?_⟩
          have := List.count_pos_iff.mpr hmem
          rw [Repeats, List.count_append, names, List.map_cons, List.count_cons_self]
          omega
        refine ⟨fun _ => ?_, fun hnot => absurd hrefuses hnot⟩
        rw [if_pos (List.contains_iff_mem.mpr hmem)]
      · rw [if_neg (by simpa using hmem)]
        have hroom := hdepth p hp v List.mem_cons_self
        cases htakes : p.wanted.takes v with
        | false =>
          have hrefuses : RefusesAfter seen ps ((p.name, v) :: ms) :=
            ⟨p, hp, .inr (.inl ⟨v, List.mem_cons_self, htakes⟩)⟩
          refine ⟨fun _ => ?_, fun hnot => absurd hrefuses hnot⟩
          rw [hfit.refuses hd hroom htakes]
        | true =>
          obtain ⟨store, hread, hstore⟩ := hfit.takes hd hroom htakes
          rw [refusesAfter_cons_of_takes hp hr.nodup htakes]
          simp only [hread]
          obtain ⟨herror, hok⟩ :=
            hrest (p.name :: seen) (List.nodup_cons.mpr ⟨hmem, hseen⟩) (store s)
          refine ⟨herror, fun hnot => ?_⟩
          obtain ⟨t, ht, hshows⟩ := hok hnot
          exact ⟨t, ht, hshows.cons_of_stores hp hr.nodup hstore⟩
    · have hfield : r.field? name = none := hfind
      simp only [bind, Except.bind, hfield, hd.skip]
      rw [refusesAfter_cons_of_ne hne]
      obtain ⟨herror, hok⟩ := hrest seen hseen s
      refine ⟨herror, fun hnot => ?_⟩
      obtain ⟨t, ht, hshows⟩ := hok hnot
      exact ⟨t, ht, hshows.cons_of_ne hne⟩

/-- What was shown before anything was given is usual, unless it has to be given. -/
theorem madeOf_of_shows (hr : Mirrors r ps) (hnot : ¬Refuses ps m) (h : Shows ps m r.blank s) :
    MadeOf ps m s := by
  intro p hp
  refine (h p hp).imp id fun ⟨hnone, hshown⟩ => ⟨hnone, ?_⟩
  cases husual : p.usual with
  | none => exact absurd ⟨p, hp, .inr (.inr ⟨husual, hnone⟩)⟩ hnot
  | some u => rw [hshown, hr.blank p hp u husual]

theorem decode_object (hr : Mirrors r ps) {ks : List (Key × Draft)} (hm : Draft.MembersTell ks m)
    (hdepth : membersDepth (known ps m) ≤ room) :
    Settles ps m (r.decode (room + 1) (.object ks none)) := by
  have hmem : ∀ p ∈ ps, ∀ v, (p.name, v) ∈ m → v.depth ≤ room := fun p hp v hv =>
    membersDepth_le_iff.mp hdepth _ ((mem_known hp).mpr hv)
  obtain ⟨herror, hok⟩ := hr.ofMembers hm hmem [] List.nodup_nil r.blank
  refine ⟨herror, fun hnot => ?_⟩
  obtain ⟨s, hs, hshows⟩ := hok hnot
  exact ⟨s, hs, hr.madeOf_of_shows hnot hshows⟩

end Mirrors

/-! ### Arrays -/

/-- Values with the names of the places that they stand for. -/
def named (qs : List (Place σ)) (vs : List Json) : List (String × Json) :=
  (qs.map (·.name)).zip vs

variable {qs : List (Place σ)} {vs : List Json}

theorem names_named_subset : names (named qs vs) ⊆ qs.map (·.name) := by
  intro name h
  obtain ⟨⟨_, v⟩, hmem, rfl⟩ := List.mem_map.mp h
  exact (List.of_mem_zip hmem).1

/-- A value that its place takes has nothing to do with the others. -/
theorem refuses_named_cons (hnodup : ((p :: qs).map (·.name)).Nodup)
    (htakes : p.wanted.takes v = true) :
    Refuses (p :: qs) (named (p :: qs) (v :: vs)) ↔ Refuses qs (named qs vs) := by
  obtain ⟨hfresh, -⟩ := List.nodup_cons.mp hnodup
  have hnone : p.name ∉ names (named qs vs) := fun h => hfresh (names_named_subset h)
  have hne : ∀ q ∈ qs, q.name ≠ p.name := fun q hq heq =>
    hfresh (List.mem_map.mpr ⟨q, hq, heq⟩)
  have hfirst : ¬(Repeats [] (named (p :: qs) (v :: vs)) p ∨ Misfits (named (p :: qs) (v :: vs)) p ∨
      Lacks [] (named (p :: qs) (v :: vs)) p) := by
    rintro (hrepeats | ⟨w, hw, hmisfits⟩ | ⟨-, hlacks⟩)
    · have hcount : (names (named (p :: qs) (v :: vs))).count p.name = 1 := by
        show (p.name :: names (named qs vs)).count p.name = 1
        rw [List.count_cons_self, List.count_eq_zero.mpr hnone]
      rw [Repeats, List.nil_append, hcount] at hrepeats
      omega
    · rcases List.mem_cons.mp hw with hw | hw
      · obtain rfl : w = v := congrArg Prod.snd hw
        rw [htakes] at hmisfits
        cases hmisfits
      · exact hnone (mem_names hw)
    · exact hlacks List.mem_cons_self
  have hcons : Refuses (p :: qs) (named (p :: qs) (v :: vs)) ↔ _ ∨ _ := List.exists_mem_cons_iff ..
  rw [hcons, or_iff_right hfirst]
  exact refusesAfter_cons_of_ne hne

namespace Mirrors

variable {r : Record σ}

theorem ofItems (hr : Mirrors r ps) {fs : List (Field σ)}
    (h : List.Forall₂ (Field.Fits ps) fs qs) (hsub : qs ⊆ ps) (hnodup : (qs.map (·.name)).Nodup)
    {ds : List Draft} (hds : Draft.ItemsTell ds vs) (hroom : itemsDepth vs ≤ room)
    (hlength : vs.length ≤ qs.length) (s : σ) :
    (Refuses qs (named qs vs) → Record.ofItems room none s fs ds = .error .mismatched) ∧
      (¬Refuses qs (named qs vs) →
        ∃ t, Record.ofItems room none s fs ds = .ok t ∧ Shows ps (named qs vs) s t) := by
  induction h generalizing ds vs s with
  | nil =>
    cases hds with
    | nil => exact ⟨fun ⟨p, hp, _⟩ => (nomatch hp), fun _ => ⟨s, rfl, fun p _ => .inr ⟨nofun, rfl⟩⟩⟩
    | cons => exact absurd hlength (Nat.not_succ_le_zero _)
  | @cons f p fs qs hfit hfits ih =>
    cases hds with
    | nil =>
      have hany := any_lacking (.cons hfit hfits) List.nodup_nil
      simp only [List.contains_nil, Bool.not_false, Bool.and_true] at hany
      rw [named, List.zip_nil_right, Refuses, ← hany, Record.ofItems]
      exact ⟨fun h => if_pos h, fun h => ⟨s, if_neg h, fun p _ => .inr ⟨nofun, rfl⟩⟩⟩
    | @cons d v ds vs hd hds =>
      rw [itemsDepth, Nat.max_le] at hroom
      have hp : p ∈ ps := hsub List.mem_cons_self
      rw [Record.ofItems]
      cases htakes : p.wanted.takes v with
      | false =>
        have hrefuses : Refuses (p :: qs) (named (p :: qs) (v :: vs)) :=
          ⟨p, List.mem_cons_self, .inr (.inl ⟨v, List.mem_cons_self, htakes⟩)⟩
        rw [hfit.refuses hd hroom.1 htakes]
        exact ⟨fun _ => rfl, fun hnot => absurd hrefuses hnot⟩
      | true =>
        obtain ⟨store, hread, hstore⟩ := hfit.takes hd hroom.1 htakes
        rw [refuses_named_cons hnodup htakes, hread]
        obtain ⟨herror, hok⟩ := ih (fun q hq => hsub (List.mem_cons_of_mem p hq))
          (List.nodup_cons.mp hnodup).2 hds hroom.2 (Nat.le_of_succ_le_succ hlength) (store s)
        refine ⟨herror, fun hnot => ?_⟩
        obtain ⟨t, ht, hshows⟩ := hok hnot
        exact ⟨t, ht, hshows.cons_of_stores hp hr.nodup hstore⟩

theorem decode_array (hr : Mirrors r ps) {ds : List Draft} (hds : Draft.ItemsTell ds vs)
    (hroom : itemsDepth vs ≤ room) (hlength : vs.length ≤ ps.length) :
    Settles ps (named ps vs) (r.decode (room + 1) (.array ds none)) := by
  obtain ⟨herror, hok⟩ :=
    hr.ofItems hr.fields (List.Subset.refl ps) hr.nodup hds hroom hlength r.blank
  refine ⟨herror, fun hnot => ?_⟩
  obtain ⟨s, hs, hshows⟩ := hok hnot
  exact ⟨s, hs, hr.madeOf_of_shows hnot hshows⟩

end Mirrors

/-- An array with more elements than there are fields is not read. -/
theorem ofItems_ne_ok {fs : List (Field σ)} {ds : List Draft} (h : fs.length < ds.length)
    (snag : Option Snag) (s t : σ) : Record.ofItems room snag s fs ds ≠ .ok t := by
  induction fs generalizing ds s with
  | nil =>
    obtain ⟨d, ds, rfl⟩ := List.exists_cons_of_length_pos h
    exact nofun
  | cons f fs ih =>
    obtain ⟨d, ds, rfl⟩ := List.exists_cons_of_length_pos (Nat.zero_lt_of_lt h)
    rw [Record.ofItems]
    cases f.decode room d with
    | error e => exact nofun
    | ok store => exact ih (Nat.lt_of_succ_lt_succ h) (store s)

end WorkBridge.Json
