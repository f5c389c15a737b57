import WorkBridge.Proofs.Json.Decimal
import WorkBridge.Proofs.Json.Reading

/-!
What a written value is a text of.

The words of what is written for a value are those of its `draft` (`lexes_text`).  A value without
binary64 numbers, whose integers are in range, is what its draft tells, so that its text is a text
of it (`isText_text`).
-/

namespace WorkBridge.Json

variable {cs rest : List Char} {c : Char} {ts : List Token} {v : Json}

/-! ### Strings -/

theorem hexDigits_of_control : ∀ n < 32, ∃ a b c d,
    Binary64.hexDigits 4 n = [a, b, c, d] ∧ unitValue? a b c d = some n ∧ isAlone n = true := by
  intro n hn
  refine ⟨_, _, _, _, rfl, ?_⟩
  revert n
  decide

theorem escaped?_of_shortEscape? {e : Char} (h : shortEscape? c = some e) :
    escaped? e = some c := by
  unfold shortEscape? at h
  repeat' split at h
  all_goals cases h
  all_goals subst c; rfl

/-- What is written for a character stands for it. -/
theorem standsFor_escapeChar {s : List Char} (h : StandsFor cs s) :
    StandsFor (escapeChar c ++ cs) (c :: s) := by
  unfold escapeChar
  cases hescape : shortEscape? c with
  | some e => exact .escape (escaped?_of_shortEscape? hescape) h
  | none =>
    dsimp only
    split
    · rename_i hcontrol
      obtain ⟨a, b, d, e, hdigits, hunit, halone⟩ := hexDigits_of_control c.toNat hcontrol
      rw [hdigits, ← Char.ofNat_toNat c]
      exact .unit hunit halone h
    · rename_i hcontrol
      refine .plain c ?_ ?_ (Nat.not_lt.mp hcontrol) h
      · rintro rfl; cases hescape
      · rintro rfl; cases hescape

theorem standsFor_escaped (s : List Char) : StandsFor (s.flatMap escapeChar) s := by
  induction s with
  | nil => exact .empty
  | cons c s ih =>
    rw [List.flatMap_cons]
    exact standsFor_escapeChar ih

theorem lexes_quote (s : String) (h : Lexes rest ts) :
    Lexes (quote s ++ rest) (.string (.ok s) :: ts) := by
  have hwritten := Token.Written.string (standsFor_escaped s.toList)
  rw [String.ofList_toList] at hwritten
  exact .token hwritten trivial h

/-! ### Values -/

mutual

/-- What a reader makes of the text of a value. -/
def draft : Json → Draft
  | .null => .null
  | .bool b => .bool b
  | .int n => .number (Numeral.ofInt n)
  | .float x => if x.isFinite then .number x.numeral else .null
  | .string s => .string (.ok s)
  | .array items => .array (draftItems items) none
  | .object members => .object (draftMembers members) none

def draftItems : List Json → List Draft
  | [] => []
  | v :: rest => v.draft :: draftItems rest

def draftMembers : List (String × Json) → List (Key × Draft)
  | [] => []
  | (name, v) :: rest => (.ok name, v.draft) :: draftMembers rest

end

open Draft

/-- Elements and the closing bracket. -/
def itemTokens : List Draft → List Token
  | [] => [.closeArray]
  | d :: rest => d.tokens ++ moreItems rest

def memberTokens : List (Key × Draft) → List Token
  | [] => [.closeObject]
  | (k, d) :: rest => .string k :: .colon :: (d.tokens ++ moreMembers rest)

theorem tokens_array (ds : List Draft) :
    (Draft.array ds none).tokens = .openArray :: itemTokens ds := by
  cases ds <;> rfl

theorem tokens_object (ds : List (Key × Draft)) :
    (Draft.object ds none).tokens = .openObject :: memberTokens ds := by
  cases ds <;> rfl

/-- A word of one character. -/
theorem lexes_sign {t : Token} (hw : t.Written [c]) (hend : t.EndsBefore rest)
    (h : Lexes rest ts) : Lexes (c :: rest) (t :: ts) := .token hw hend h

theorem lexes_float (x : Binary64) (hstop : Stops rest) (h : Lexes rest ts) :
    Lexes (floatText x ++ rest) ((Json.float x).draft.tokens ++ ts) := by
  rw [floatText, draft]
  cases hfinite : x.isFinite with
  | true => exact .token (.number (x.numeral_written hfinite)) hstop h
  | false => exact .token .null trivial h

mutual

theorem lexes_render : ∀ (v : Json) {rest ts}, Stops rest → Lexes rest ts →
    Lexes (v.render ++ rest) (v.draft.tokens ++ ts)
  | .null, _, _ => fun _ h => .token .null trivial h
  | .bool true, _, _ => fun _ h => .token .true trivial h
  | .bool false, _, _ => fun _ h => .token .false trivial h
  | .int n, _, _ => fun hstop h => .token (.number (Numeral.ofInt_written n)) hstop h
  | .float x, _, _ => fun hstop h => lexes_float x hstop h
  | .string s, _, _ => fun _ h => lexes_quote s h
  | .array items, _, _ => fun _ h => by
    rw [render, draft, tokens_array]
    exact lexes_sign .openArray trivial (lexes_renderItems items h)
  | .object members, _, _ => fun _ h => by
    rw [render, draft, tokens_object]
    exact lexes_sign .openObject trivial (lexes_renderMembers members h)

theorem lexes_renderItems : ∀ (vs : List Json) {rest ts}, Lexes rest ts →
    Lexes (renderItems vs ++ rest) (itemTokens (draftItems vs) ++ ts)
  | [], _, _ => fun h => lexes_sign .closeArray trivial h
  | [v], _, _ => fun h => by
    rw [renderItems, List.append_assoc, draftItems, draftItems, itemTokens, List.append_assoc]
    exact lexes_render v (.cons rfl _) (lexes_sign .closeArray trivial h)
  | v :: w :: vs, _, _ => fun h => by
    rw [renderItems, List.append_assoc, draftItems, itemTokens, List.append_assoc]
    exact lexes_render v (.cons rfl _) (lexes_sign .comma trivial (lexes_renderItems (w :: vs) h))

theorem lexes_renderMembers : ∀ (ms : List (String × Json)) {rest ts}, Lexes rest ts →
    Lexes (renderMembers ms ++ rest) (memberTokens (draftMembers ms) ++ ts)
  | [], _, _ => fun h => lexes_sign .closeObject trivial h
  | [(k, v)], _, _ => fun h => by
    simp only [renderMembers, draftMembers, memberTokens, List.append_assoc, List.cons_append]
    exact lexes_quote k <| lexes_sign .colon trivial <|
      lexes_render v (.cons rfl _) (lexes_sign .closeObject trivial h)
  | (k, v) :: m :: ms, _, _ => fun h => by
    have hrest := lexes_renderMembers (m :: ms) h
    simp only [renderMembers, draftMembers, memberTokens, moreMembers, List.append_assoc,
      List.cons_append] at hrest ⊢
    exact lexes_quote k <| lexes_sign .colon trivial <|
      lexes_render v (.cons rfl _) (lexes_sign .comma trivial hrest)

end

theorem lexes_text (v : Json) : Lexes v.text.toList v.draft.tokens := by
  have h : Lexes (v.render ++ []) (v.draft.tokens ++ []) := lexes_render v nofun .done
  rwa [List.append_nil, List.append_nil, ← String.toList_ofList (l := v.render)] at h

/-! ### Exact values -/

mutual

/-- No binary64 number occurs, and every integer is in range. -/
def isExact : Json → Bool
  | .int n => -(UInt64.size / 2 : Nat) ≤ n ∧ n ≤ maxUnsigned
  | .float _ => false
  | .array items => areExact items
  | .object members => membersExact members
  | _ => true

def areExact : List Json → Bool
  | [] => true
  | v :: rest => v.isExact && areExact rest

def membersExact : List (String × Json) → Bool
  | [] => true
  | (_, v) :: rest => v.isExact && membersExact rest

end

mutual

theorem tells_draft : ∀ v : Json, v.isExact = true → Tells v.draft v
  | .null, _ => .null
  | .bool b, _ => .bool b
  | .int n, h => by
    rw [isExact, decide_eq_true_eq] at h
    exact .int (Numeral.ofInt_value h.1 h.2)
  | .string s, _ => .string s
  | .array items, h => .array (itemsTell_draftItems items h)
  | .object members, h => .object (membersTell_draftMembers members h)

theorem itemsTell_draftItems : ∀ vs, areExact vs = true → ItemsTell (draftItems vs) vs
  | [], _ => .nil
  | v :: rest, h => by
    rw [areExact, Bool.and_eq_true] at h
    exact .cons (tells_draft v h.1) (itemsTell_draftItems rest h.2)

theorem membersTell_draftMembers :
    ∀ ms, membersExact ms = true → MembersTell (draftMembers ms) ms
  | [], _ => .nil
  | (_, v) :: rest, h => by
    rw [membersExact, Bool.and_eq_true] at h
    exact .cons (tells_draft v h.1) (membersTell_draftMembers rest h.2)

end

theorem isText_of_tells {w : Json} (h : Tells v.draft w) : IsText w v.text :=
  ⟨v.draft, h, lexes_text v⟩

/-- What is written for an exact value is a text of it. -/
theorem isText_text (h : v.isExact = true) : IsText v v.text := isText_of_tells (tells_draft v h)

end WorkBridge.Json
