import WorkBridge.Json.Token

/-!
How the words of a JSON text are written, and that they are read as they are written.

A text is cut into words from left to right.  `Lexes` says which words a text is made of without
saying how they are found: each is written as `Token.Written` allows, with any blanks in between,
and nothing that would go on with a number stands right behind one.  `scan_of_lexes` is the main
statement.
-/

namespace WorkBridge.Json

/-! ### Numbers -/

/-- Digits, at least one. -/
def IsDigits (ds : List Char) : Prop := ds ≠ [] ∧ ∀ c ∈ ds, c.isDigit = true

/-- What may stand in a number behind its first digit, a sign in its exponent apart. -/
def goesOn (c : Char) : Bool := c.isDigit || c = '.' || c = 'e' || c = 'E'

namespace Numeral

def signText (negative : Bool) : List Char := if negative then ['-'] else []

def fractionText : Option (List Char) → List Char
  | none => []
  | some ds => '.' :: ds

inductive ExponentWritten : Option (Bool × List Char) → List Char → Prop
  | absent : ExponentWritten none []
  | plain {e : Char} {ds : List Char} (he : e = 'e' ∨ e = 'E') (hds : IsDigits ds) :
    ExponentWritten (some (false, ds)) (e :: ds)
  | signed {e : Char} {ds : List Char} (down : Bool) (he : e = 'e' ∨ e = 'E')
    (hds : IsDigits ds) : ExponentWritten (some (down, ds)) (e :: (if down then '-' else '+') :: ds)

/-- The ways to write a number: no zero stands in front of another digit before the point. -/
inductive Written : Numeral → List Char → Prop
  | mk {n : Numeral} {es : List Char} (whole : IsDigits n.whole)
    (noZero : n.whole.head? = some '0' → n.whole = ['0'])
    (fraction : ∀ ds, n.fraction = some ds → IsDigits ds)
    (exponent : ExponentWritten n.exponent es) :
    Written n (signText n.negative ++ (n.whole ++ (fractionText n.fraction ++ es)))

end Numeral

/-- Nothing that goes on with a number comes next. -/
def Stops (cs : List Char) : Prop := ∀ c ∈ cs.head?, goesOn c = false

variable {cs ds es rest : List Char} {c : Char}

theorem Stops.cons (h : goesOn c = false) (cs : List Char) : Stops (c :: cs) := by
  rintro _ ⟨⟩
  exact h

theorem digitRun_append (h : IsDigits ds) (hrest : ∀ c ∈ rest.head?, c.isDigit = false) :
    digitRun (ds ++ rest) = .ok (ds, rest) := by
  obtain ⟨hne, hds⟩ := h
  obtain ⟨d, ds, rfl⟩ := List.exists_cons_of_ne_nil hne
  have hd : d.isDigit = true := hds d List.mem_cons_self
  have htail : ∀ c ∈ ds, c.isDigit = true := fun c hc => hds c (List.mem_cons_of_mem d hc)
  have hnone : rest.takeWhile Char.isDigit = [] ∧ rest.dropWhile Char.isDigit = rest := by
    cases rest with
    | nil => exact ⟨rfl, rfl⟩
    | cons c rest =>
      have hc : c.isDigit = false := hrest c rfl
      exact ⟨List.takeWhile_cons_of_neg (by simp [hc]), List.dropWhile_cons_of_neg (by simp [hc])⟩
  rw [List.cons_append, digitRun, if_pos hd, List.takeWhile_append_of_pos htail,
    List.dropWhile_append_of_pos htail, hnone.1, hnone.2, List.append_nil]

namespace Numeral

variable {whole : List Char} {negative : Bool} {n : Numeral}

theorem scanWhole_append (h : IsDigits whole) (hzero : whole.head? = some '0' → whole = ['0'])
    (hrest : ∀ c ∈ rest.head?, c.isDigit = false) :
    scanWhole (whole ++ rest) = .ok (whole, rest) := by
  have hrun : digitRun (whole ++ rest) = .ok (whole, rest) := digitRun_append h hrest
  unfold scanWhole
  split
  · rename_i d after heq
    -- A zero in front is the whole of it, so what follows is no digit.
    have hwhole : whole = ['0'] := by
      apply hzero
      obtain ⟨w, ws, rfl⟩ := List.exists_cons_of_ne_nil h.1
      exact congrArg List.head? (heq : w :: (ws ++ rest) = _)
    subst hwhole
    obtain rfl : rest = d :: after := List.tail_eq_of_cons_eq heq
    have hd : d.isDigit = false := hrest d rfl
    simp [hd]
  · exact hrun

theorem scanFraction_append {fraction : Option (List Char)}
    (h : ∀ ds, fraction = some ds → IsDigits ds)
    (hrest : ∀ c ∈ rest.head?, c.isDigit = false ∧ c ≠ '.') :
    scanFraction (fractionText fraction ++ rest) = .ok (fraction, rest) := by
  cases fraction with
  | none =>
    show scanFraction rest = _
    unfold scanFraction
    split
    · exact absurd rfl (hrest _ rfl).2
    · rfl
  | some ds =>
    show scanFraction ('.' :: (ds ++ rest)) = _
    rw [scanFraction, digitRun_append (h ds rfl) fun c hc => (hrest c hc).1]
    rfl

theorem not_sign_of_digit (h : c.isDigit = true) : c ≠ '+' ∧ c ≠ '-' := by
  constructor <;> (rintro rfl; exact absurd h (by decide))

theorem scanSign_digits (h : IsDigits ds) : scanSign (ds ++ rest) = (false, ds ++ rest) := by
  obtain ⟨d, ds, rfl⟩ := List.exists_cons_of_ne_nil h.1
  have hd := not_sign_of_digit (h.2 d List.mem_cons_self)
  show scanSign (d :: (ds ++ rest)) = _
  unfold scanSign
  split
  · rename_i heq; exact absurd (List.head_eq_of_cons_eq heq) hd.1
  · rename_i heq; exact absurd (List.head_eq_of_cons_eq heq) hd.2
  · rfl

theorem scanExponent_append {exponent : Option (Bool × List Char)}
    (h : ExponentWritten exponent es) (hrest : Stops rest) :
    scanExponent (es ++ rest) = .ok (exponent, rest) := by
  have hdigit : ∀ c ∈ rest.head?, c.isDigit = false := fun c hc => by
    have := hrest c hc
    simp [goesOn] at this
    exact this.1.1.1
  cases h with
  | absent =>
    cases rest with
    | nil => rfl
    | cons c rest =>
      have hc := hrest c rfl
      simp only [goesOn, Bool.or_eq_false_iff, decide_eq_false_iff_not] at hc
      show scanExponent (c :: rest) = _
      rw [scanExponent, if_neg (by simp [hc])]
  | plain he hds =>
    rw [List.cons_append, scanExponent, if_pos he, scanSign_digits hds]
    simp only [digitRun_append hds hdigit]
    rfl
  | signed down he hds =>
    rw [List.cons_append, scanExponent, if_pos he]
    cases down
    · simp only [Bool.false_eq_true, if_false, List.cons_append, scanSign,
        digitRun_append hds hdigit]
      rfl
    · simp only [if_true, List.cons_append, scanSign, digitRun_append hds hdigit]
      rfl

theorem ExponentWritten.next {exponent : Option (Bool × List Char)}
    (h : ExponentWritten exponent es) (hrest : Stops rest) :
    ∀ c ∈ (es ++ rest).head?, c.isDigit = false ∧ c ≠ '.' := by
  cases h with
  | absent =>
    intro c hc
    have := hrest c hc
    simp only [goesOn, Bool.or_eq_false_iff, decide_eq_false_iff_not] at this
    exact ⟨this.1.1.1, this.1.1.2⟩
  | plain he | signed _ he => rintro _ ⟨⟩; rcases he with rfl | rfl <;> decide

theorem scan_append (hrest : Stops rest) (h : Written n cs) :
    ∃ d ds, d.isDigit = true ∧ cs = signText n.negative ++ d :: ds ∧
      scan n.negative (d :: ds ++ rest) = .ok (n, rest) := by
  cases h with
  | @mk es whole noZero fraction exponent =>
    obtain ⟨d, ds, hd⟩ := List.exists_cons_of_ne_nil whole.1
    refine ⟨d, ds ++ (fractionText n.fraction ++ es), ?_, by rw [hd, List.cons_append], ?_⟩
    · exact whole.2 d (by rw [hd]; exact List.mem_cons_self)
    rw [← List.cons_append, ← hd]
    have hexponent := scanExponent_append exponent hrest
    have hnext := exponent.next hrest
    have hfraction := scanFraction_append fraction hnext
    have hpoint : ∀ c ∈ (fractionText n.fraction ++ (es ++ rest)).head?, c.isDigit = false := by
      cases hf : n.fraction with
      | none => exact fun c hc => (hnext c hc).1
      | some ds => rintro _ ⟨⟩; decide
    simp only [scan, List.append_assoc, scanWhole_append whole noZero hpoint, bind, Except.bind,
      hfraction, hexponent]
    rfl

end Numeral

/-! ### Strings -/

/-- A code unit that is a character of its own. -/
def isAlone (u : Nat) : Bool := !isLeading u && !isTrailing u

theorem not_isTrailing_of_isLeading {u : Nat} (h : isLeading u = true) : isTrailing u = false := by
  simp only [isLeading, isTrailing, decide_eq_true_eq, decide_eq_false_iff_not] at *
  omega

/-- What stands between the quotes of a string, and the characters that it stands for. -/
inductive StandsFor : List Char → List Char → Prop
  | empty : StandsFor [] []
  | plain {cs s : List Char} (c : Char) (hquote : c ≠ '"') (hslash : c ≠ '\\')
    (hcontrol : 0x20 ≤ c.toNat) (h : StandsFor cs s) : StandsFor (c :: cs) (c :: s)
  | escape {cs s : List Char} {e c : Char} (he : escaped? e = some c) (h : StandsFor cs s) :
    StandsFor ('\\' :: e :: cs) (c :: s)
  | unit {cs s : List Char} {a b c d : Char} {u : Nat} (hu : unitValue? a b c d = some u)
    (halone : isAlone u = true) (h : StandsFor cs s) :
    StandsFor ('\\' :: 'u' :: a :: b :: c :: d :: cs) (Char.ofNat u :: s)
  | pair {cs s : List Char} {a b c d a' b' c' d' : Char} {u v : Nat}
    (hu : unitValue? a b c d = some u) (hv : unitValue? a' b' c' d' = some v)
    (hlead : isLeading u = true) (htrail : isTrailing v = true) (h : StandsFor cs s) :
    StandsFor ('\\' :: 'u' :: a :: b :: c :: d :: '\\' :: 'u' :: a' :: b' :: c' :: d' :: cs)
      (Char.ofNat ((u - 0xD800) * 0x400 + (v - 0xDC00) + 0x10000) :: s)

theorem escaped?_unit : escaped? 'u' = none := by decide

theorem scanPieces_escape {e c : Char} (he : escaped? e = some c) (cs : List Char) :
    scanPieces ('\\' :: e :: cs) = (.char c :: (scanPieces cs).1, (scanPieces cs).2) := by
  have hne : e ≠ 'u' := by
    rintro rfl
    rw [escaped?_unit] at he
    cases he
  have hne' : 'u' ≠ e := Ne.symm hne
  rw [scanPieces]
  · simp only [he]
  · rintro _ _ _ _ _ rfl; exact absurd rfl hne
  · exact hne

theorem scanPieces_unit {a b c d : Char} {u : Nat} (hu : unitValue? a b c d = some u)
    (cs : List Char) :
    scanPieces ('\\' :: 'u' :: a :: b :: c :: d :: cs) =
      (.unit u :: (scanPieces cs).1, (scanPieces cs).2) := by
  rw [scanPieces]
  simp only [hu]

theorem scanPieces_plain (hquote : c ≠ '"') (hslash : c ≠ '\\') (hcontrol : 0x20 ≤ c.toNat)
    (cs : List Char) :
    scanPieces (c :: cs) = (.char c :: (scanPieces cs).1, (scanPieces cs).2) := by
  rw [scanPieces]
  · rw [if_neg (by omega)]
  · exact hquote
  · exact fun h => absurd h hslash
  · exact fun _ _ _ _ _ h => absurd h hslash
  · exact fun _ h => absurd h hslash
  · exact fun _ _ h => absurd h hslash

theorem assemble_unit {u : Nat} (h : isAlone u = true) (ps : List Piece) :
    assemble none (.unit u :: ps) = (Char.ofNat u :: ·) <$> assemble none ps := by
  obtain ⟨hlead, htrail⟩ : isLeading u = false ∧ isTrailing u = false := by
    simpa [isAlone] using h
  match ps with
  | [] => simp only [assemble, hlead, htrail]; rfl
  | .char c :: ps => simp only [assemble, hlead, htrail]; rfl
  | .unit v :: ps => simp only [assemble, hlead, htrail]; rfl

theorem scanPieces_append {s : List Char} (h : StandsFor cs s) (rest : List Char) :
    ∃ ps, scanPieces (cs ++ '"' :: rest) = (ps, .ok rest) ∧ assemble none ps = .ok s := by
  induction h with
  | empty => exact ⟨[], rfl, rfl⟩
  | plain c hquote hslash hcontrol _ ih =>
    obtain ⟨ps, hps, hs⟩ := ih
    refine ⟨.char c :: ps, ?_, ?_⟩
    · rw [List.cons_append, scanPieces_plain hquote hslash hcontrol, hps]
    · rw [assemble, hs]; rfl
  | @escape _ _ _ c he _ ih =>
    obtain ⟨ps, hps, hs⟩ := ih
    refine ⟨.char c :: ps, ?_, ?_⟩
    · rw [List.cons_append, List.cons_append, scanPieces_escape he, hps]
    · rw [assemble, hs]; rfl
  | @unit _ _ _ _ _ _ u hu halone _ ih =>
    obtain ⟨ps, hps, hs⟩ := ih
    refine ⟨.unit u :: ps, ?_, ?_⟩
    · simp only [List.cons_append, scanPieces_unit hu, hps]
    · rw [assemble_unit halone, hs]; rfl
  | @pair _ _ _ _ _ _ _ _ _ _ u v hu hv hlead htrail _ ih =>
    obtain ⟨ps, hps, hs⟩ := ih
    refine ⟨.unit u :: .unit v :: ps, ?_, ?_⟩
    · simp only [List.cons_append, scanPieces_unit hu, scanPieces_unit hv, hps]
    · simp only [assemble, not_isTrailing_of_isLeading hlead, hlead, htrail, hs]
      rfl

/-! ### Words -/

namespace Token

inductive Written : Token → List Char → Prop
  | openArray : Written .openArray ['[']
  | closeArray : Written .closeArray [']']
  | openObject : Written .openObject ['\x7b']
  | closeObject : Written .closeObject ['\x7d']
  | comma : Written .comma [',']
  | colon : Written .colon [':']
  | null : Written .null ['n', 'u', 'l', 'l']
  | true : Written (.bool true) ['t', 'r', 'u', 'e']
  | false : Written (.bool false) ['f', 'a', 'l', 's', 'e']
  | number {n : Numeral} {cs : List Char} (h : n.Written cs) : Written (.number n) cs
  | string {cs s : List Char} (h : StandsFor cs s) :
    Written (.string (.ok (String.ofList s))) ('"' :: (cs ++ ['"']))

/-- What follows does not belong to the word. -/
def EndsBefore : Token → List Char → Prop
  | .number _, cs => Stops cs
  | _, _ => True

variable {t : Token} {w : List Char}

theorem next_digit (h : c.isDigit = true) (cs : List Char) :
    next c cs = numeral false (c :: cs) := by
  unfold next
  split
  case h_12 => rw [if_pos h]
  all_goals exact absurd h (by decide)

theorem not_isBlank_of_digit (h : c.isDigit = true) : isBlank c = false := by
  unfold isBlank
  rw [decide_eq_false_iff_not]
  rintro (rfl | rfl | rfl | rfl) <;> exact absurd h (by decide)

theorem next_of_number {n : Numeral} (h : n.Written w) (hrest : Stops rest) :
    ∃ c cs, w = c :: cs ∧ isBlank c = false ∧ next c (cs ++ rest) = (.number n, some rest) := by
  obtain ⟨d, ds, hd, hw, hscan⟩ := Numeral.scan_append hrest h
  have hread : numeral n.negative (d :: ds ++ rest) = (.number n, some rest) := by
    rw [numeral, hscan]
  cases hn : n.negative with
  | true =>
    rw [hn] at hw hread
    exact ⟨'-', d :: ds, hw, rfl, hread⟩
  | false =>
    rw [hn] at hw hread
    refine ⟨d, ds, hw, not_isBlank_of_digit hd, ?_⟩
    rw [next_digit hd]
    exact hread

theorem next_of_written (h : t.Written w) (hrest : t.EndsBefore rest) :
    ∃ c cs, w = c :: cs ∧ isBlank c = false ∧ next c (cs ++ rest) = (t, some rest) := by
  cases h with
  | number h => exact next_of_number h hrest
  | string h =>
    obtain ⟨ps, hps, hs⟩ := scanPieces_append h rest
    refine ⟨'"', _, rfl, rfl, ?_⟩
    show quoted _ = _
    rw [List.append_assoc, List.singleton_append, quoted, hps]
    simp only [hs]
    rfl
  | _ => exact ⟨_, _, rfl, rfl, rfl⟩

end Token

/-- A text is made of words, with blanks anywhere between them. -/
inductive Lexes : List Char → List Token → Prop
  | done : Lexes [] []
  | blank {c : Char} {cs : List Char} {ts : List Token} (hc : isBlank c = true) (h : Lexes cs ts) :
    Lexes (c :: cs) ts
  | token {w cs : List Char} {t : Token} {ts : List Token} (hw : t.Written w)
    (hend : t.EndsBefore cs) (h : Lexes cs ts) : Lexes (w ++ cs) (t :: ts)

theorem scan_of_lexes {ts : List Token} (h : Lexes cs ts) : Token.scan cs = ts := by
  induction h with
  | done => rw [Token.scan]
  | blank hc _ ih => rw [Token.scan, if_pos hc, ih]
  | token hw hend _ ih =>
    obtain ⟨c, cs, rfl, hc, hnext⟩ := Token.next_of_written hw hend
    rw [List.cons_append, Token.scan, if_neg (by simp [hc])]
    split
    · rename_i heq
      rw [hnext] at heq
      cases heq
      rw [ih]
    · rename_i heq
      rw [hnext] at heq
      cases heq

end WorkBridge.Json
