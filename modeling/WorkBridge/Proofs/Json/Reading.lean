import Mathlib.Data.String.Basic
import WorkBridge.Json.Value
import WorkBridge.Proofs.Json.Lexis

/-!
Which text is which value, and that a reader gets it.

A draft without faults is a tree of the text: `Draft.tokens` lists its words, and `Draft.Tells` says
which value it is of, with the members of every object in the order of the text, also several of one
name.  `IsText` puts that together.  A text is read to its draft whatever is open around it
(`read_of_isText`), and a value that is made from the draft is the same but for the order of members
(`Draft.Tells.ofDraft`).
-/

namespace WorkBridge.Json

/-! ### Values -/

mutual

/-- How many containers stand in each other. -/
def depth : Json → Nat
  | .array items => itemsDepth items + 1
  | .object members => membersDepth members + 1
  | _ => 0

def itemsDepth : List Json → Nat
  | [] => 0
  | v :: rest => max v.depth (itemsDepth rest)

def membersDepth : List (String × Json) → Nat
  | [] => 0
  | (_, v) :: rest => max v.depth (membersDepth rest)

end

mutual

/-- The value as it is kept: members in the order of their names, the last of several of one
name. -/
def canonical : Json → Json
  | .array items => .array (canonicalItems items)
  | .object members => .object (collected [] members)
  | v => v

def canonicalItems : List Json → List Json
  | [] => []
  | v :: rest => v.canonical :: canonicalItems rest

def collected (done : List (String × Json)) : List (String × Json) → List (String × Json)
  | [] => done
  | (name, v) :: rest => collected (insertMember name v.canonical done) rest

end

mutual

/-- The members of every object stand in the order of their names, one of each name. -/
def isOrdered : Json → Bool
  | .array items => areOrdered items
  | .object members => decide ((members.map Prod.fst).Pairwise (· < ·)) && membersOrdered members
  | _ => true

def areOrdered : List Json → Bool
  | [] => true
  | v :: rest => v.isOrdered && areOrdered rest

def membersOrdered : List (String × Json) → Bool
  | [] => true
  | (_, v) :: rest => v.isOrdered && membersOrdered rest

end

theorem insertMember_of_lt {name : String} {done : List (String × Json)}
    (h : ∀ x ∈ done, x.1 < name) (v : Json) : insertMember name v done = done ++ [(name, v)] := by
  induction done with
  | nil => rfl
  | cons x done ih =>
    have hlt : x.1 < name := h x List.mem_cons_self
    rw [insertMember, if_neg (ne_of_gt hlt), if_neg (lt_asymm hlt),
      ih fun y hy => h y (List.mem_cons_of_mem x hy), List.cons_append]

mutual

/-- A value with its members in order is kept as it is. -/
theorem canonical_eq : ∀ v : Json, v.isOrdered = true → v.canonical = v
  | .null, _ | .bool _, _ | .int _, _ | .float _, _ | .string _, _ => rfl
  | .array items, h => by rw [canonical, canonicalItems_eq items h]
  | .object members, h => by
    rw [isOrdered, Bool.and_eq_true, decide_eq_true_eq] at h
    rw [canonical, collected_eq members h.2 [] h.1, List.nil_append]

theorem canonicalItems_eq : ∀ vs, areOrdered vs = true → canonicalItems vs = vs
  | [], _ => rfl
  | v :: rest, h => by
    rw [areOrdered, Bool.and_eq_true] at h
    rw [canonicalItems, canonical_eq v h.1, canonicalItems_eq rest h.2]

theorem collected_eq : ∀ ms, membersOrdered ms = true → ∀ done,
    ((done ++ ms).map Prod.fst).Pairwise (· < ·) → collected done ms = done ++ ms
  | [], _, done, _ => (List.append_nil done).symm
  | (name, v) :: rest, h, done, hdone => by
    rw [membersOrdered, Bool.and_eq_true] at h
    have hlast : ∀ x ∈ done, x.1 < name := by
      rw [List.map_append, List.pairwise_append] at hdone
      exact fun x hx => hdone.2.2 x.1 (List.mem_map_of_mem hx) name List.mem_cons_self
    rw [collected, canonical_eq v h.1, insertMember_of_lt hlast,
      collected_eq rest h.2 _ (by rwa [List.append_assoc]), List.append_assoc,
      List.singleton_append]

end

/-! ### Drafts without faults -/

namespace Draft

mutual

/-- The words of a draft, one after the other. -/
def tokens : Draft → List Token
  | .null => [.null]
  | .bool b => [.bool b]
  | .number n => [.number n]
  | .string s => [.string s]
  | .missing _ => [.stray]
  | .array [] _ => [.openArray, .closeArray]
  | .array (d :: rest) _ => .openArray :: (tokens d ++ moreItems rest)
  | .object [] _ => [.openObject, .closeObject]
  | .object ((k, d) :: rest) _ =>
    .openObject :: .string k :: .colon :: (tokens d ++ moreMembers rest)

/-- What follows the first elements of an array. -/
def moreItems : List Draft → List Token
  | [] => [.closeArray]
  | d :: rest => .comma :: (tokens d ++ moreItems rest)

def moreMembers : List (Key × Draft) → List Token
  | [] => [.closeObject]
  | (k, d) :: rest => .comma :: .string k :: .colon :: (tokens d ++ moreMembers rest)

end

mutual

/-- A draft tells a value: it has no fault, its numbers are in range and its strings are sound. -/
inductive Tells : Draft → Json → Prop
  | null : Tells .null .null
  | bool (b : Bool) : Tells (.bool b) (.bool b)
  | int {n : Numeral} {i : Int} (h : n.value = .ok (.int i)) : Tells (.number n) (.int i)
  | float {n : Numeral} {x : Binary64} (h : n.value = .ok (.float x)) : Tells (.number n) (.float x)
  | string (s : String) : Tells (.string (.ok s)) (.string s)
  | array {ds : List Draft} {vs : List Json} (h : ItemsTell ds vs) :
    Tells (.array ds none) (.array vs)
  | object {ds : List (Key × Draft)} {ms : List (String × Json)} (h : MembersTell ds ms) :
    Tells (.object ds none) (.object ms)

inductive ItemsTell : List Draft → List Json → Prop
  | nil : ItemsTell [] []
  | cons {d : Draft} {v : Json} {ds : List Draft} {vs : List Json} (h : Tells d v)
    (hs : ItemsTell ds vs) : ItemsTell (d :: ds) (v :: vs)

inductive MembersTell : List (Key × Draft) → List (String × Json) → Prop
  | nil : MembersTell [] []
  | cons {name : String} {d : Draft} {v : Json} {ds : List (Key × Draft)}
    {ms : List (String × Json)} (h : Tells d v) (hs : MembersTell ds ms) :
    MembersTell ((.ok name, d) :: ds) ((name, v) :: ms)

end

end Draft

open Draft

/-- A text of a value, with its members as they stand there. -/
def IsText (v : Json) (text : String) : Prop :=
  ∃ d, Tells d v ∧ Lexes text.toList d.tokens

/-! ### Reading a text -/

/-- Reading begins with a word that closes nothing and gets to the end of the draft. -/
def ReadsTo (d : Draft) : Prop :=
  ∃ t ts, d.tokens = t :: ts ∧ t ≠ .closeArray ∧
    ∀ stack rest, Document.run.value stack t (ts ++ rest) = Document.run.deliver stack d rest

variable {d : Draft} {v : Json} {ds : List Draft} {vs : List Json}
  {ks : List (Key × Draft)} {ms : List (String × Json)}

theorem ReadsTo.run_value (h : ReadsTo d) (stack : List Frame) (rest : List Token) :
    Document.run stack .value (d.tokens ++ rest) = Document.run.deliver stack d rest := by
  obtain ⟨t, ts, htokens, -, hread⟩ := h
  rw [htokens, List.cons_append, Document.run]
  exact hread stack rest

theorem ReadsTo.run_firstItem (h : ReadsTo d) (stack : List Frame) (rest : List Token) :
    Document.run (.array [] :: stack) .firstItem (d.tokens ++ rest) =
      Document.run.deliver (.array [] :: stack) d rest := by
  obtain ⟨t, ts, htokens, hne, hread⟩ := h
  rw [htokens, List.cons_append, Document.run]
  · exact hread _ rest
  · rintro _ _ _ rfl; exact absurd rfl hne

namespace Draft

open Document.run (value deliver)

theorem readsTo_scalar {t : Token} (htokens : d.tokens = [t]) (hne : t ≠ .closeArray)
    (h : ∀ stack ts, value stack t ts = deliver stack d ts) : ReadsTo d :=
  ⟨t, [], htokens, hne, h⟩

mutual

theorem Tells.readsTo : ∀ {d v}, Tells d v → ReadsTo d
  | _, _, .null => readsTo_scalar rfl nofun fun _ _ => by rw [value]
  | _, _, .bool _ => readsTo_scalar rfl nofun fun _ _ => by rw [value]
  | _, _, .int _ => readsTo_scalar rfl nofun fun _ _ => by rw [value]
  | _, _, .float _ => readsTo_scalar rfl nofun fun _ _ => by rw [value]
  | _, _, .string _ => readsTo_scalar rfl nofun fun _ _ => by rw [value]
  | _, _, .array .nil => by
    refine ⟨_, _, rfl, nofun, fun stack rest => ?_⟩
    rw [value, List.singleton_append, Document.run]
    rfl
  | _, _, .array (.cons h hs) => by
    refine ⟨_, _, rfl, nofun, fun stack rest => ?_⟩
    rw [value, List.append_assoc, h.readsTo.run_firstItem, deliver, hs.run_more]
    rfl
  | _, _, .object .nil => by
    refine ⟨_, _, rfl, nofun, fun stack rest => ?_⟩
    rw [value, List.singleton_append, Document.run]
    rfl
  | _, _, .object (.cons h hs) => by
    refine ⟨_, _, rfl, nofun, fun stack rest => ?_⟩
    simp only [List.cons_append, value, Document.run, Document.run.key, List.append_assoc]
    rw [h.readsTo.run_value, deliver, hs.run_more]
    rfl

/-- What is left of an array is read to its end. -/
theorem ItemsTell.run_more : ∀ {ds vs}, ItemsTell ds vs →
    ∀ (done : List Draft) (stack : List Frame) (rest : List Token),
      Document.run (.array done :: stack) .separator (moreItems ds ++ rest) =
        deliver stack (.array (done.reverse ++ ds) none) rest
  | _, _, .nil => fun done stack rest => by
    rw [List.append_nil, moreItems, List.singleton_append, Document.run]
  | _, _, .cons h hs => fun done stack rest => by
    rw [moreItems, List.cons_append, Document.run, List.append_assoc, h.readsTo.run_value, deliver,
      hs.run_more, List.reverse_cons, List.append_assoc, List.singleton_append]

theorem MembersTell.run_more : ∀ {ks ms}, MembersTell ks ms →
    ∀ (done : List (Key × Draft)) (stack : List Frame) (rest : List Token),
      Document.run (.object done :: stack) .separator (moreMembers ks ++ rest) =
        deliver stack (.object (done.reverse ++ ks) none) rest
  | _, _, .nil => fun done stack rest => by
    rw [List.append_nil, moreMembers, List.singleton_append, Document.run]
  | _, _, .cons h hs => fun done stack rest => by
    simp only [moreMembers, List.cons_append, Document.run, Document.run.key, List.append_assoc]
    rw [h.readsTo.run_value, deliver, hs.run_more, List.reverse_cons, List.append_assoc,
      List.singleton_append]

end

end Draft

/-- A text of a value is read to its draft, and nothing is left of it. -/
theorem read_of_isText {text : String} (h : IsText v text) :
    ∃ d, Tells d v ∧ Document.read text = ⟨d, false⟩ := by
  obtain ⟨d, hd, hlexes⟩ := h
  refine ⟨d, hd, ?_⟩
  have hrun := hd.readsTo.run_value [] []
  rw [List.append_nil] at hrun
  rw [Document.read, scan_of_lexes hlexes, hrun]
  rw [Document.run.deliver]
  rfl

/-! ### Making a value, or passing over it -/

namespace Draft

theorem ItemsTell.length_eq : ∀ {ds vs}, ItemsTell ds vs → ds.length = vs.length
  | _, _, .nil => rfl
  | _, _, .cons _ hs => congrArg Nat.succ hs.length_eq

mutual

theorem Tells.ofDraft : ∀ {d v}, Tells d v →
    ∀ room, v.depth ≤ room → Json.ofDraft room d = .ok v.canonical
  | _, _, .null => fun _ _ => rfl
  | _, _, .bool _ => fun _ _ => rfl
  | _, _, .int h => fun _ _ => by simp only [Json.ofDraft, h]; rfl
  | _, _, .float h => fun _ _ => by simp only [Json.ofDraft, h]; rfl
  | _, _, .string _ => fun _ _ => rfl
  | _, _, .array h => fun room hroom => by
    rw [depth] at hroom
    obtain ⟨room, rfl⟩ : ∃ n, room = n + 1 := ⟨room - 1, by omega⟩
    rw [Json.ofDraft, h.ofItems room (by omega)]
    rfl
  | _, _, .object h => fun room hroom => by
    rw [depth] at hroom
    obtain ⟨room, rfl⟩ : ∃ n, room = n + 1 := ⟨room - 1, by omega⟩
    rw [Json.ofDraft, h.ofMembers room (by omega) []]
    rfl

theorem ItemsTell.ofItems : ∀ {ds vs}, ItemsTell ds vs →
    ∀ room, itemsDepth vs ≤ room → Json.ofItems room ds = .ok (canonicalItems vs)
  | _, _, .nil => fun _ _ => rfl
  | _, _, .cons h hs => fun room hroom => by
    rw [itemsDepth, Nat.max_le] at hroom
    rw [Json.ofItems, h.ofDraft room hroom.1, hs.ofItems room hroom.2]
    rfl

theorem MembersTell.ofMembers : ∀ {ks ms}, MembersTell ks ms →
    ∀ room, membersDepth ms ≤ room → ∀ done, Json.ofMembers room done ks = .ok (collected done ms)
  | _, _, .nil => fun _ _ _ => rfl
  | _, _, .cons h hs => fun room hroom done => by
    rw [membersDepth, Nat.max_le] at hroom
    rw [Json.ofMembers, h.ofDraft room hroom.1]
    exact hs.ofMembers room hroom.2 _

end

mutual

theorem Tells.skip : ∀ {d v}, Tells d v → Json.skip d = .ok ()
  | _, _, .null => rfl
  | _, _, .bool _ => rfl
  | _, _, .int _ => rfl
  | _, _, .float _ => rfl
  | _, _, .string _ => rfl
  | _, _, .array h => by rw [Json.skip, h.skip]; rfl
  | _, _, .object h => by rw [Json.skip, h.skip]; rfl

theorem ItemsTell.skip : ∀ {ds vs}, ItemsTell ds vs → skipItems ds = .ok ()
  | _, _, .nil => rfl
  | _, _, .cons h hs => by rw [skipItems, h.skip]; exact hs.skip

theorem MembersTell.skip : ∀ {ks ms}, MembersTell ks ms → skipMembers ks = .ok ()
  | _, _, .nil => rfl
  | _, _, .cons h hs => by rw [skipMembers, h.skip]; exact hs.skip

end

end Draft
end WorkBridge.Json
