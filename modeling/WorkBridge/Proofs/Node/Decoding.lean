import WorkBridge.Proofs.Json.Writing
import WorkBridge.Proofs.Node.Kind

/-!
What answers are read from.

An object is read by its known members only (`read_known`), an array as the object that names its
elements (`read_positional`), and what is written for an answer is read as that answer again
(`read_text_toJson`).
-/

namespace WorkBridge.Node

open Json

namespace Kind

variable {k : Kind} {text : String} {m : List (String × Json)} {vs : List Json}

/-! ### Objects -/

theorem known_depth_perm {m' : List (String × Json)} (h : (k.known m').Perm (k.known m)) :
    (Json.object (k.known m')).depth = (Json.object (k.known m)).depth := by
  rw [depth, depth, membersDepth_perm h]

/-- An object is refused for a known name that occurs twice, a value that is not wanted or a name
that is missing.  Otherwise every field is what is given for it, or else what is usual.  Other
members and the order of all of them do not count. -/
theorem read_known (ht : IsText (.object m) text)
    (hdepth : (Json.object (k.known m)).depth ≤ maxDepth) :
    (k.read text = .error .mismatched ↔ ∃ p ∈ k.places,
      2 ≤ (names m).count p.name ∨ (∃ v, (p.name, v) ∈ m ∧ p.wanted.takes v = false) ∨
        (p.usual = none ∧ p.name ∉ names m)) ∧
    ((¬∃ p ∈ k.places,
      2 ≤ (names m).count p.name ∨ (∃ v, (p.name, v) ∈ m ∧ p.wanted.takes v = false) ∨
        (p.usual = none ∧ p.name ∉ names m)) →
      ∃ s, k.read text = .ok s ∧ ∀ t : k.Value, t = s ↔ ∀ p ∈ k.places,
        (∃ v, (p.name, v) ∈ m ∧ p.shown t = p.wanted.stored v) ∨
          (p.name ∉ names m ∧ p.usual = some (p.shown t))) ∧
    ∀ {m' text'}, IsText (.object m') text' → (k.known m').Perm (k.known m) →
      k.read text' = k.read text := by
  have hsettles : Settles k.places m (k.read text) := k.read_object ht hdepth
  refine ⟨⟨fun herror => ?_, hsettles.1⟩, fun hnot => ?_, fun ht' hperm => ?_⟩
  · by_contra hnot
    obtain ⟨s, hread, -⟩ := hsettles.2 hnot
    rw [hread] at herror
    cases herror
  · obtain ⟨s, hread, hmade⟩ := hsettles.2 hnot
    refine ⟨s, hread, fun t => ⟨?_, fun ht => ?_⟩⟩
    · rintro rfl
      exact hmade
    · exact k.mirrors.ext t s fun p hp => MadeOf.shown_eq hnot ht hmade hp
  · have hsettles' := k.read_object ht' (by rwa [known_depth_perm hperm])
    exact (hsettles'.of_perm hperm).unique k.mirrors hsettles

/-- A template whose members stand in another order, with one that nobody knows. -/
theorem template_read_shuffled : ∃ t,
    Kind.template.read (Json.object
      [("isSynced", .bool true), ("note", .array [.null]), ("block", .int 7)]).text = .ok t ∧
    Kind.template.read (Json.object
      [("block", .int 7), ("isSynced", .bool true)]).text = .ok t := by
  have ht : IsText _ (Json.object
      [("isSynced", .bool true), ("note", .array [.null]), ("block", .int 7)]).text :=
    isText_text (by decide)
  have hknown := read_known (k := .template) ht (by decide)
  obtain ⟨t, hread, -⟩ := hknown.2.1 (by simp [places, names, Wanted.takes])
  refine ⟨t, hread, ?_⟩
  rw [← hread]
  exact hknown.2.2 (isText_text (by decide)) (.swap _ _ [])

/-! ### Arrays -/

theorem known_named_depth (hdepth : ∀ v ∈ vs, v.depth < maxDepth) :
    (Json.object (k.known (named k.places vs))).depth ≤ maxDepth := by
  rw [depth]
  refine Nat.succ_le_succ (membersDepth_le_iff.mpr fun x hx => Nat.le_of_lt_succ ?_)
  exact hdepth x.2 (List.of_mem_zip (List.mem_of_mem_filter hx)).2

/-- An array is read as the object that gives its elements to the first fields in their order, and
never with more elements than there are fields. -/
theorem read_positional (ht : IsText (.array vs) text) (hdepth : ∀ v ∈ vs, v.depth < maxDepth) :
    (vs.length ≤ k.places.length → ∀ text', IsText (.object (named k.places vs)) text' →
      k.read text = k.read text' ∧ (k.read text = .error .mismatched ∨ ∃ s, k.read text = .ok s)) ∧
    (k.places.length < vs.length → ∀ s, k.read text ≠ .ok s) := by
  refine ⟨fun hlength text' ht' => ?_, k.read_array_ne_ok ht⟩
  have harray : (Json.array vs).depth ≤ maxDepth := by
    rw [depth]
    exact Nat.succ_le_succ (itemsDepth_le_iff.mpr fun v hv => Nat.le_of_lt_succ (hdepth v hv))
  have hsettles := k.read_array ht harray hlength
  have hsettles' := k.read_object ht' (known_named_depth hdepth)
  refine ⟨hsettles.unique k.mirrors hsettles', ?_⟩
  by_cases hrefuses : Refuses k.places (named k.places vs)
  · exact .inl (hsettles.1 hrefuses)
  · obtain ⟨s, hread, -⟩ := hsettles.2 hrefuses
    exact .inr ⟨s, hread⟩

/-- A node's state with its first two fields, and an estimate with a value too many. -/
theorem read_pairs :
    (Kind.info.read (Json.array [.string "p", .int 3]).text =
      Kind.info.read (Json.object [("p2pId", .string "p"), ("mempoolSize", .int 3)]).text) ∧
    ∀ r, Kind.hashRate.read (Json.array [.int 1, .int 2]).text ≠ .ok r :=
  ⟨((read_positional (isText_text (by decide)) (by decide)).1 (by decide) _
      (isText_text (by decide))).1,
    (read_positional (isText_text (by decide)) (by decide)).2 (by decide)⟩

/-! ### Answers that are written -/

/-- The integers are in the ranges of their fields, and the block is a value as it is kept. -/
def InRange : (k : Kind) → k.Value → Prop
  | .info, i => i.mempoolSize ≤ maxUnsigned
  | .dagInfo, d => d.blockCount ≤ maxUnsigned ∧ d.headerCount ≤ maxUnsigned ∧
    (Int64.minValue.toInt ≤ d.pastMedianTime ∧ d.pastMedianTime ≤ Int64.maxValue.toInt) ∧
    d.virtualDaaScore ≤ maxUnsigned
  | .hashRate, r => r.hashesPerSecond ≤ maxUnsigned
  | .template, t => t.block.isOrdered = true

theorem isExact_natCast {n : Nat} (h : n ≤ maxUnsigned) : (Json.int n).isExact = true := by
  rw [isExact, decide_eq_true_eq]
  exact ⟨by omega, Int.ofNat_le.mpr h⟩

theorem itemsDepth_strings (ss : List String) : itemsDepth (ss.map .string) = 0 := by
  induction ss with
  | nil => rfl
  | cons s ss ih => rw [List.map_cons, itemsDepth, ih]; rfl

theorem isExact_strings (ss : List String) : areExact (ss.map .string) = true := by
  induction ss with
  | nil => rfl
  | cons s ss ih => rw [List.map_cons, areExact, ih]; rfl

theorem takes_shown {v : k.Value} (h : k.InRange v) : ∀ p ∈ k.places,
    p.wanted.takes (p.shown v) = true ∧ p.wanted.stored (p.shown v) = p.shown v := by
  cases k with
  | info | hashRate =>
    simp only [InRange] at h
    simp [places, Wanted.takes, Wanted.stored, h]
  | dagInfo =>
    obtain ⟨hblocks, hheaders, ⟨hlow, hhigh⟩, hscore⟩ := h
    simpa [places, Wanted.takes, Wanted.stored, Wanted.isString, hblocks, hheaders, hhigh, hscore]
      using hlow
  | template =>
    simp only [InRange] at h
    simp [places, Wanted.takes, Wanted.stored, canonical_eq _ h]

/-- What is written for the state of a block graph is read up to its difficulty. -/
theorem tells_dagInfo {d : DagInfo} (h : Kind.dagInfo.InRange d)
    (hfinite : d.difficulty.isFinite = true) {y : Binary64}
    (hy : d.difficulty.numeral.value = .ok (.float y)) :
    Draft.Tells d.toJson.draft ({ d with difficulty := y } : DagInfo).toJson := by
  obtain ⟨hblocks, hheaders, ⟨hlow, hhigh⟩, hscore⟩ := h
  have hunsigned {n : Nat} (hn : n ≤ maxUnsigned) : Draft.Tells (Json.int n).draft (.int n) :=
    tells_draft _ (isExact_natCast hn)
  have hsigned : Draft.Tells (Json.int d.pastMedianTime).draft (.int d.pastMedianTime) := by
    refine tells_draft _ ?_
    rw [isExact, decide_eq_true_eq]
    exact ⟨hlow, hhigh.trans (by decide)⟩
  have hstrings (ss : List String) : Draft.Tells (Json.array (ss.map .string)).draft _ :=
    tells_draft _ (isExact_strings ss)
  have hdifficulty : Draft.Tells (Json.float d.difficulty).draft (.float y) := by
    rw [draft, if_pos hfinite]
    exact .float hy
  exact .object <| .cons (.string _) <| .cons (hunsigned hblocks) <| .cons (hunsigned hheaders) <|
    .cons (hstrings _) <| .cons hdifficulty <| .cons hsigned <| .cons (hstrings _) <|
    .cons (.string _) <| .cons (hunsigned hscore) .nil

/-- What is written for an answer is read as that answer, a difficulty apart, which is read as some
number. -/
theorem read_text_toJson :
    (∀ i : Info, Kind.info.InRange i → Kind.info.read i.toJson.text = .ok i) ∧
    (∀ r : HashRate, Kind.hashRate.InRange r → Kind.hashRate.read r.toJson.text = .ok r) ∧
    (∀ t : Template, Kind.template.InRange t → t.block.isExact = true → t.block.depth < maxDepth →
      Kind.template.read t.toJson.text = .ok t) ∧
    (∀ d : DagInfo, Kind.dagInfo.InRange d → d.difficulty.isFinite = true →
      ∃ y, Kind.dagInfo.read d.toJson.text = .ok { d with difficulty := y }) := by
  refine ⟨fun i h => ?_, fun r h => ?_, fun t h hexact hdepth => ?_, fun d h hfinite => ?_⟩
  · have hexact : i.toJson.isExact = true := by
      simp [Info.toJson, isExact, membersExact]
      exact h
    exact read_of_isText_toJson (isText_text hexact) (show 1 ≤ 127 by decide) (takes_shown h)
  · have hexact : r.toJson.isExact = true := by
      simp [HashRate.toJson, isExact, membersExact]
      exact h
    exact read_of_isText_toJson (isText_text hexact) (show 1 ≤ 127 by decide) (takes_shown h)
  · have hexact : t.toJson.isExact = true := by
      simp [Template.toJson, isExact, membersExact, hexact]
    refine read_of_isText_toJson (isText_text hexact) ?_ (takes_shown h)
    show max t.block.depth (max 0 0) + 1 ≤ maxDepth
    omega
  · obtain ⟨y, hy⟩ := Binary64.numeral_value hfinite
    have ht := isText_of_tells (tells_dagInfo h hfinite hy)
    refine ⟨y, read_of_isText_toJson (k := .dagInfo) ht ?_ (takes_shown h)⟩
    show (DagInfo.toJson _).depth ≤ _
    simp [DagInfo.toJson, depth, membersDepth, itemsDepth_strings, maxDepth]

/-- One answer of each kind, with a quote, a control character and an object in a block. -/
theorem answers_read_back :
    Kind.info.read (Info.toJson { p2pId := "a\"b\n" }).text = .ok { p2pId := "a\"b\n" } ∧
    Kind.hashRate.read (HashRate.toJson ⟨maxUnsigned⟩).text = .ok ⟨maxUnsigned⟩ ∧
    Kind.template.read (Template.toJson ⟨.object [("a", .int (-1)), ("b", .array [])], true⟩).text =
      .ok ⟨.object [("a", .int (-1)), ("b", .array [])], true⟩ ∧
    ∃ y, Kind.dagInfo.read (DagInfo.toJson { difficulty := .one, tipHashes := ["t"] }).text =
      .ok { difficulty := y, tipHashes := ["t"] } :=
  ⟨read_text_toJson.1 _ (Nat.zero_le _), read_text_toJson.2.1 _ (Nat.le_refl maxUnsigned),
    read_text_toJson.2.2.1 ⟨.object [("a", .int (-1)), ("b", .array [])], true⟩
      (show Json.isOrdered _ = true by decide +kernel) (by decide) (by decide),
    read_text_toJson.2.2.2 { difficulty := .one, tipHashes := ["t"] }
      ⟨Nat.zero_le _, Nat.zero_le _, by decide, Nat.zero_le _⟩ (by decide +kernel)⟩

end Kind
end WorkBridge.Node
