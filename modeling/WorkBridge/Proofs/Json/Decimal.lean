import WorkBridge.Json.Writer
import WorkBridge.Proofs.Binary64.Shortest
import WorkBridge.Proofs.Json.Lexis

/-!
The numbers that are written, and what they are read as.

`Numeral.ofInt` and `Binary64.numeral` are what the texts of an integer and of a binary64 number
say.  An integer in range is read as itself (`Numeral.ofInt_value`), and what is written for a
finite number is always in range (`Binary64.numeral_value`).
-/

namespace WorkBridge.Json

variable {n m : Nat} {k : Int} {ds : List Char}

/-! ### Digits -/

theorem isDigits_toDigits (n : Nat) : IsDigits (Nat.toDigits 10 n) :=
  ⟨Nat.toDigits_ne_nil, fun _ h => Nat.isDigit_of_mem_toDigits (by decide) (by decide) h⟩

theorem isDigits_replicate_append (n : Nat) (h : IsDigits ds) :
    IsDigits (List.replicate n '0' ++ ds) := by
  refine ⟨List.append_ne_nil_of_right_ne_nil _ h.1, fun c hc => ?_⟩
  rcases List.mem_append.mp hc with hc | hc
  · obtain rfl := List.eq_of_mem_replicate hc
    rfl
  · exact h.2 c hc

theorem isDigits_append_replicate (n : Nat) (h : IsDigits ds) :
    IsDigits (ds ++ List.replicate n '0') := by
  refine ⟨List.append_ne_nil_of_left_ne_nil h.1 _, fun c hc => ?_⟩
  rcases List.mem_append.mp hc with hc | hc
  · exact h.2 c hc
  · obtain rfl := List.eq_of_mem_replicate hc
    rfl

/-- The digits of a number other than zero do not begin with a zero. -/
theorem head?_toDigits (hn : 0 < n) : (Nat.toDigits 10 n).head? ≠ some '0' := by
  induction n using Nat.strongRecOn with
  | _ n ih =>
    rw [Nat.toDigits_eq_if (by decide)]
    split
    · rename_i hlt
      have hdigits : ∀ d < 10, 0 < d → [Nat.digitChar d].head? ≠ some '0' := by decide
      exact hdigits n hlt hn
    · rw [List.head?_append_of_ne_nil _ Nat.toDigits_ne_nil]
      exact ih (n / 10) (by omega) (by omega)

theorem le_ofDigitChars (ds : List Char) (n : Nat) :
    n * 10 ^ ds.length ≤ Nat.ofDigitChars 10 ds n := by
  rw [Nat.ofDigitChars_eq_ofDigitChars_zero, Nat.mul_comm]
  exact Nat.le_add_right ..

theorem ofDigitChars_lt (h : ∀ c ∈ ds, c.isDigit = true) (n : Nat) :
    Nat.ofDigitChars 10 ds n < (n + 1) * 10 ^ ds.length := by
  induction ds generalizing n with
  | nil => simp
  | cons c ds ih =>
    have hdigit : c.toNat - '0'.toNat < 10 := by
      have := h c List.mem_cons_self
      simp only [Char.isDigit, Bool.and_eq_true, decide_eq_true_eq, UInt32.le_iff_toNat_le] at this
      have hnine : c.toNat ≤ 57 := this.2
      show c.toNat - 48 < 10
      omega
    have hrest := ih (fun d hd => h d (List.mem_cons_of_mem c hd)) (10 * n + (c.toNat - '0'.toNat))
    rw [Nat.ofDigitChars_cons, List.length_cons, Nat.pow_succ]
    calc _ < _ := hrest
      _ ≤ (n + 1) * 10 * 10 ^ ds.length := Nat.mul_le_mul_right _ (by omega)
      _ = (n + 1) * (10 ^ ds.length * 10) := by rw [Nat.mul_assoc, Nat.mul_comm 10]

namespace Numeral

theorem ofDigitChars_cons (c : Char) (ds : List Char) (n : Nat) :
    Nat.ofDigitChars 10 (c :: ds) n = Nat.ofDigitChars 10 ds (n * 10 + digitValue c) := by
  rw [Nat.ofDigitChars_cons, Nat.mul_comm]
  rfl

/-- Digits for which there is room are all taken. -/
theorem extend_eq (h : Nat.ofDigitChars 10 ds n ≤ maxUnsigned) :
    extend n ds = (Nat.ofDigitChars 10 ds n, ds.length) := by
  induction ds generalizing n with
  | nil => rfl
  | cons c ds ih =>
    rw [ofDigitChars_cons] at h ⊢
    have hm : n * 10 + digitValue c ≤ maxUnsigned :=
      ((Nat.le_mul_of_pos_right _ (by positivity)).trans (le_ofDigitChars ds _)).trans h
    rw [extend, if_pos hm, ih h]
    rfl

/-- What is taken of the digits has room, and is not more than they say. -/
theorem extend_le (hn : n ≤ maxUnsigned) (ds : List Char) :
    (extend n ds).1 ≤ maxUnsigned ∧ (extend n ds).2 ≤ ds.length ∧
      (extend n ds).1 * 10 ^ (ds.length - (extend n ds).2) ≤ Nat.ofDigitChars 10 ds n := by
  induction ds generalizing n with
  | nil => exact ⟨hn, Nat.le_refl _, by simp [extend]⟩
  | cons c ds ih =>
    by_cases hm : n * 10 + digitValue c ≤ maxUnsigned
    · obtain ⟨hmax, hlength, hle⟩ := ih hm
      rw [extend, if_pos hm]
      refine ⟨hmax, Nat.succ_le_succ hlength, ?_⟩
      rw [List.length_cons, Nat.add_sub_add_right, ofDigitChars_cons]
      exact hle
    · rw [extend, if_neg hm]
      exact ⟨hn, Nat.zero_le _, le_ofDigitChars (c :: ds) n⟩

/-- A significand and an exponent that stay below the ceiling are a number. -/
theorem isSome_of_exponent_none {x : Numeral} (hexponent : x.exponent = none)
    (hmax : x.scaled.1 ≤ maxUnsigned)
    (hsize : ∀ j : Nat, x.scaled.2 = j → x.scaled.1 * 10 ^ j ≤ Binary64.ceiling) :
    x.toBinary64?.isSome = true := by
  rw [toBinary64?, hexponent]
  exact Binary64.ofDecimal?_isSome (Nat.lt_of_le_of_lt hmax (by decide)) hsize

theorem isSome_of_exponent_some {x : Numeral} {down : Bool} {es : List Char}
    (hexponent : x.exponent = some (down, es))
    (hrange : Nat.ofDigitChars 10 es 0 ≤ maxExponent) (hmax : x.scaled.1 ≤ maxUnsigned)
    (hsize : ∀ j : Nat, (if down then x.scaled.2 - Nat.ofDigitChars 10 es 0
      else x.scaled.2 + Nat.ofDigitChars 10 es 0) = j → x.scaled.1 * 10 ^ j ≤ Binary64.ceiling) :
    x.toBinary64?.isSome = true := by
  rw [toBinary64?, hexponent]
  simp only [exponentValue?, if_pos hrange]
  exact Binary64.ofDecimal?_isSome (Nat.lt_of_le_of_lt hmax (by decide)) hsize

/-- Few digits before the point leave room for all of them. -/
theorem scaled_of_short {x : Numeral} (hwhole : IsDigits x.whole) (hlength : x.whole.length ≤ 16) :
    x.scaled.1 ≤ maxUnsigned ∧ x.scaled.2 ≤ 0 := by
  have hroom : Nat.ofDigitChars 10 x.whole 0 ≤ maxUnsigned := by
    have hlt := ofDigitChars_lt hwhole.2 0
    have hpower : 10 ^ x.whole.length ≤ 10 ^ 16 := Nat.pow_le_pow_right (by decide) hlength
    have hmax : 10 ^ 16 ≤ maxUnsigned := by decide
    omega
  cases hfraction : x.fraction with
  | none =>
    simp only [scaled, extend_eq hroom, hfraction, Int.sub_self]
    exact ⟨hroom, Int.le_refl 0⟩
  | some ds =>
    simp only [scaled, extend_eq hroom, hfraction, Int.sub_self]
    exact ⟨(extend_le hroom ds).1, by omega⟩

/-- A number without an exponent and with few digits before the point is in range. -/
theorem isSome_of_short {x : Numeral} (hexponent : x.exponent = none) (hwhole : IsDigits x.whole)
    (hlength : x.whole.length ≤ 16) : x.toBinary64?.isSome = true := by
  obtain ⟨hmax, hdown⟩ := scaled_of_short hwhole hlength
  have hceiling : maxUnsigned ≤ Binary64.ceiling := by decide +kernel
  refine isSome_of_exponent_none hexponent hmax fun j hj => ?_
  obtain rfl : j = 0 := by omega
  rw [Nat.pow_zero, Nat.mul_one]
  exact hmax.trans hceiling

/-- A number without an exponent. -/
theorem Written.plain {negative : Bool} {whole : List Char} {fraction : Option (List Char)}
    (hwhole : IsDigits whole) (hzero : whole.head? = some '0' → whole = ['0'])
    (hfraction : ∀ ds, fraction = some ds → IsDigits ds) :
    Written ⟨negative, whole, fraction, none⟩
      (signText negative ++ (whole ++ fractionText fraction)) := by
  have h := Written.mk (n := ⟨negative, whole, fraction, none⟩) hwhole hzero hfraction .absent
  rwa [List.append_nil] at h

/-! ### Integers -/

/-- What is written for an integer. -/
def ofInt : Int → Numeral
  | .ofNat n => ⟨false, Nat.toDigits 10 n, none, none⟩
  | .negSucc n => ⟨true, Nat.toDigits 10 (n + 1), none, none⟩

theorem noZero_toDigits (n : Nat) :
    (Nat.toDigits 10 n).head? = some '0' → Nat.toDigits 10 n = ['0'] := by
  intro h
  rcases Nat.eq_zero_or_pos n with rfl | hn
  · rfl
  · exact absurd h (head?_toDigits hn)

theorem ofInt_written (i : Int) : (ofInt i).Written (intDigits i) := by
  have hwritten (negative : Bool) (n : Nat) :
      Written ⟨negative, Nat.toDigits 10 n, none, none⟩
        (signText negative ++ Nat.toDigits 10 n) := by
    have h : Written ⟨negative, Nat.toDigits 10 n, none, none⟩ _ :=
      Written.plain (isDigits_toDigits n) (noZero_toDigits n) nofun
    rwa [fractionText, List.append_nil] at h
  cases i with
  | ofNat n => exact hwritten false n
  | negSucc n => exact hwritten true (n + 1)

theorem ofInt_value {i : Int} (hlow : -(UInt64.size / 2 : Nat) ≤ i) (hhigh : i ≤ maxUnsigned) :
    (ofInt i).value = .ok (.int i) := by
  cases i with
  | ofNat n =>
    have hn : n ≤ maxUnsigned := Int.ofNat_le.mp hhigh
    simp [ofInt, value, hn]
  | negSucc n =>
    have hn : n + 1 ≤ UInt64.size / 2 := by omega
    simp [ofInt, value, hn]
    omega

/-! ### Decimals -/

/-- What is written for `n * 10 ^ k`, with at most so many zeros behind the point. -/
def ofDecimal (zeroRoom : Nat) (negative : Bool) (n : Nat) (k : Int) : Numeral :=
  let digits := Nat.toDigits 10 n
  let point : Int := digits.length + k
  if 0 ≤ k ∧ point ≤ 16 then ⟨negative, digits ++ List.replicate k.toNat '0', some ['0'], none⟩
  else if 0 < point ∧ point ≤ 16 then
    ⟨negative, digits.take point.toNat, some (digits.drop point.toNat), none⟩
  else if -zeroRoom < point ∧ point ≤ 0 then
    ⟨negative, ['0'], some (List.replicate (-point).toNat '0' ++ digits), none⟩
  else
    ⟨negative, digits.take 1, if digits.length = 1 then none else some (digits.drop 1),
      some (decide (point - 1 < 0), Nat.toDigits 10 (point - 1).natAbs)⟩

/-- The characters of `n * 10 ^ k` behind its sign. -/
def decimalText (zeroRoom : Nat) (n : Nat) (k : Int) : List Char :=
  let digits := Nat.toDigits 10 n
  let point : Int := digits.length + k
  let zeros (m : Nat) : List Char := List.replicate m '0'
  if 0 ≤ k ∧ point ≤ 16 then digits ++ zeros k.toNat ++ ['.', '0']
  else if 0 < point ∧ point ≤ 16 then
    digits.take point.toNat ++ ['.'] ++ digits.drop point.toNat
  else if -zeroRoom < point ∧ point ≤ 0 then ['0', '.'] ++ zeros (-point).toNat ++ digits
  else
    let e := (toString (point - 1)).toList
    if digits.length = 1 then digits ++ ['e'] ++ e
    else digits.take 1 ++ ['.'] ++ digits.drop 1 ++ ['e'] ++ e

theorem exponentWritten_toString (e : Int) :
    ExponentWritten (some (decide (e < 0), Nat.toDigits 10 e.natAbs))
      ('e' :: (toString e).toList) := by
  rw [Int.toString_eq_repr, Int.repr_eq_if]
  by_cases he : 0 ≤ e
  · rw [if_pos he, decide_eq_false (by omega), Nat.toList_repr, show e.toNat = e.natAbs by omega]
    exact .plain (.inl rfl) (isDigits_toDigits _)
  · rw [if_neg he, decide_eq_true (by omega), String.toList_append, Nat.toList_repr,
      show (-e).toNat = e.natAbs by omega]
    exact .signed true (.inl rfl) (isDigits_toDigits _)

variable {zeroRoom : Nat} {negative : Bool}

theorem length_toDigits_le {a : Nat} (hk : -(a : Int) ≤ k)
    (h : (n : ℚ) * 10 ^ k ≤ Binary64.ceiling) : (Nat.toDigits 10 n).length ≤ 309 + a := by
  rw [Nat.length_toDigits_le_iff (by decide) (by omega)]
  have hpower : (10 : ℚ) ^ (-(a : Int)) ≤ 10 ^ k := zpow_le_zpow_right₀ (by norm_num) hk
  have hceiling : (Binary64.ceiling : ℚ) < 10 ^ (309 : Nat) := by exact_mod_cast Binary64.ceiling_lt
  have hsmall : (n : ℚ) * 10 ^ (-(a : Int)) < 10 ^ (309 : Nat) :=
    ((mul_le_mul_of_nonneg_left hpower n.cast_nonneg).trans h).trans_lt hceiling
  rw [zpow_neg, zpow_natCast, ← div_eq_mul_inv, div_lt_iff₀ (by positivity), ← pow_add] at hsmall
  exact_mod_cast hsmall

/-- The form with one digit before the point, of a decimal `n * 10 ^ k`. -/
theorem isSome_of_scientific {d : Char} {ds : List Char} (hd : d.isDigit = true)
    (hvalue : Nat.ofDigitChars 10 (d :: ds) 0 = n) (h : (n : ℚ) * 10 ^ k ≤ Binary64.ceiling)
    (hrange : ((d :: ds).length + k - 1 : Int).natAbs ≤ maxExponent) :
    (Numeral.mk negative ((d :: ds).take 1)
      (if (d :: ds).length = 1 then none else some ((d :: ds).drop 1))
      (some (decide (((d :: ds).length : Int) + k - 1 < 0),
        Nat.toDigits 10 ((d :: ds).length + k - 1 : Int).natAbs))).toBinary64?.isSome = true := by
  rw [ofDigitChars_cons] at hvalue
  have hroom : 0 * 10 + digitValue d ≤ maxUnsigned := by
    have hlt : Nat.ofDigitChars 10 [d] 0 < (0 + 1) * 10 ^ 1 := ofDigitChars_lt (by simpa using hd) 0
    rw [ofDigitChars_cons, Nat.ofDigitChars_nil] at hlt
    exact hlt.le.trans (show 1 * 10 ^ 1 ≤ maxUnsigned by decide)
  obtain ⟨hmax, hused, hle⟩ := extend_le hroom ds
  have hscaled (e : Option (Bool × List Char)) : (Numeral.mk negative ((d :: ds).take 1)
      (if (d :: ds).length = 1 then none else some ((d :: ds).drop 1)) e).scaled =
        ((extend (0 * 10 + digitValue d) ds).1,
          -((extend (0 * 10 + digitValue d) ds).2 : Int)) := by
    have hfirst : extend 0 [d] = (0 * 10 + digitValue d, 1) := by rw [extend, if_pos hroom]; rfl
    cases ds with
    | nil => simp [scaled, hfirst, extend]
    | cons c cs => simp [scaled, hfirst]
  generalize extend (0 * 10 + digitValue d) ds = taken at *
  refine isSome_of_exponent_some rfl ?_ (by rwa [hscaled]) fun j hj => ?_
  · rwa [Nat.ofDigitChars_ten_toDigits]
  rw [hscaled] at hj ⊢
  rw [Nat.ofDigitChars_ten_toDigits, List.length_cons] at hj
  have hj' : (j : Int) = (ds.length - taken.2 : Nat) + k := by
    simp only [decide_eq_true_eq] at hj
    split at hj <;> omega
  have hsize : ((taken.1 * 10 ^ j : Nat) : ℚ) ≤ Binary64.ceiling := by
    calc ((taken.1 * 10 ^ j : Nat) : ℚ) = taken.1 * 10 ^ (ds.length - taken.2) * 10 ^ k := by
          rw [Nat.cast_mul, Nat.cast_pow, Nat.cast_ofNat, ← zpow_natCast, hj',
            zpow_add₀ (by norm_num), zpow_natCast, mul_assoc]
      _ ≤ n * 10 ^ k := by
          refine mul_le_mul_of_nonneg_right ?_ (zpow_nonneg (by norm_num) k)
          rw [← hvalue]
          exact_mod_cast hle
      _ ≤ Binary64.ceiling := h
  exact_mod_cast hsize

/-- A decimal that stays below the ceiling is in range as it is written. -/
theorem ofDecimal_isSome (hk : -346 ≤ k ∧ k ≤ 309) (h : (n : ℚ) * 10 ^ k ≤ Binary64.ceiling) :
    (ofDecimal zeroRoom negative n k).toBinary64?.isSome = true := by
  have hdigits := isDigits_toDigits n
  have hvalue := Nat.ofDigitChars_ten_toDigits (n := n)
  have hlength := length_toDigits_le (a := 346) hk.1 h
  have htake (m : Nat) (hm : 0 < m) : IsDigits ((Nat.toDigits 10 n).take m) :=
    ⟨by simpa using hm.ne', fun c hc => hdigits.2 c (List.mem_of_mem_take hc)⟩
  simp only [ofDecimal]
  generalize Nat.toDigits 10 n = digits at *
  by_cases hwhole : 0 ≤ k ∧ (digits.length : Int) + k ≤ 16
  · rw [if_pos hwhole]
    refine isSome_of_short rfl (isDigits_append_replicate k.toNat hdigits) ?_
    rw [List.length_append, List.length_replicate]
    omega
  rw [if_neg hwhole]
  by_cases hinside : 0 < (digits.length : Int) + k ∧ (digits.length : Int) + k ≤ 16
  · rw [if_pos hinside]
    refine isSome_of_short rfl (htake _ (by omega)) ?_
    rw [List.length_take]
    omega
  rw [if_neg hinside]
  by_cases hbehind : -(zeroRoom : Int) < digits.length + k ∧ (digits.length : Int) + k ≤ 0
  · rw [if_pos hbehind]
    exact isSome_of_short rfl (isDigits_toDigits 0) (show 1 ≤ 16 by decide)
  rw [if_neg hbehind]
  obtain ⟨d, ds, rfl⟩ := List.exists_cons_of_ne_nil hdigits.1
  have hmax : 1000 ≤ maxExponent := by decide
  exact isSome_of_scientific (hdigits.2 d List.mem_cons_self) hvalue h (by omega)

theorem ofDecimal_written (hn : 0 < n) (k : Int) :
    (ofDecimal zeroRoom negative n k).Written (signText negative ++ decimalText zeroRoom n k) := by
  have hdigits := isDigits_toDigits n
  have hhead := head?_toDigits hn
  have hlength : 0 < (Nat.toDigits 10 n).length := Nat.length_toDigits_pos
  have htake (m : Nat) (hm : 0 < m) : IsDigits ((Nat.toDigits 10 n).take m) :=
    ⟨by simpa using hm.ne', fun c hc => hdigits.2 c (List.mem_of_mem_take hc)⟩
  have hdrop (m : Nat) (hm : m < (Nat.toDigits 10 n).length) :
      IsDigits ((Nat.toDigits 10 n).drop m) :=
    ⟨by simpa using hm, fun c hc => hdigits.2 c (List.mem_of_mem_drop hc)⟩
  simp only [ofDecimal, decimalText]
  generalize Nat.toDigits 10 n = digits at *
  by_cases hwhole : 0 ≤ k ∧ (digits.length : Int) + k ≤ 16
  · rw [if_pos hwhole, if_pos hwhole]
    refine Written.plain (isDigits_append_replicate k.toNat hdigits) (fun h => ?_) ?_
    · rw [List.head?_append_of_ne_nil _ hdigits.1] at h
      exact absurd h hhead
    · rintro _ ⟨⟩
      exact isDigits_toDigits 0
  rw [if_neg hwhole, if_neg hwhole]
  by_cases hinside : 0 < (digits.length : Int) + k ∧ (digits.length : Int) + k ≤ 16
  · rw [if_pos hinside, if_pos hinside, List.append_assoc]
    refine Written.plain (htake _ (by omega)) (fun h => ?_) ?_
    · rw [List.head?_take, if_neg (by omega)] at h
      exact absurd h hhead
    · rintro _ ⟨⟩
      exact hdrop _ (by omega)
  rw [if_neg hinside, if_neg hinside]
  by_cases hbehind : -(zeroRoom : Int) < digits.length + k ∧ (digits.length : Int) + k ≤ 0
  · rw [if_pos hbehind, if_pos hbehind]
    refine Written.plain (isDigits_toDigits 0) (fun _ => rfl) ?_
    rintro _ ⟨⟩
    exact isDigits_replicate_append _ hdigits
  rw [if_neg hbehind, if_neg hbehind]
  have hexponent := exponentWritten_toString (digits.length + k - 1)
  have hfirst := htake 1 Nat.one_pos
  have hnot : (digits.take 1).head? = some '0' → digits.take 1 = ['0'] := fun h => by
    rw [List.head?_take, if_neg Nat.one_ne_zero] at h
    exact absurd h hhead
  by_cases hone : digits.length = 1
  · rw [if_pos hone, if_pos hone, List.append_assoc, List.take_of_length_le hone.le] at *
    exact Written.mk hfirst hnot nofun hexponent
  · rw [if_neg hone, if_neg hone, List.append_assoc, List.append_assoc, List.append_assoc]
    refine Written.mk hfirst hnot ?_ hexponent
    rintro _ ⟨⟩
    exact hdrop 1 (by omega)

/-- A number that is not written as an integer is read as a binary64 number. -/
theorem value_of_isSome {x : Numeral} (hform : x.fraction.isSome ∨ x.exponent.isSome)
    (h : x.toBinary64?.isSome = true) : ∃ y, x.value = .ok (.float y) := by
  obtain ⟨y, hy⟩ := Option.isSome_iff_exists.mp h
  have hnone : ¬(x.fraction.isNone = true ∧ x.exponent.isNone = true) := by
    rintro ⟨hfraction, hexponent⟩
    rw [Option.isNone_iff_eq_none] at hfraction hexponent
    simp [hfraction, hexponent] at hform
  refine ⟨y, ?_⟩
  rw [value, if_neg fun hint => hnone ⟨hint.1, hint.2.1⟩,
    if_neg fun hint => hnone ⟨hint.1, hint.2.1⟩, hy]

theorem ofDecimal_form :
    (ofDecimal zeroRoom negative n k).fraction.isSome ∨
      (ofDecimal zeroRoom negative n k).exponent.isSome := by
  rw [ofDecimal]
  split
  · exact .inl rfl
  split
  · exact .inl rfl
  split
  · exact .inl rfl
  · exact .inr rfl

end Numeral

end WorkBridge.Json

namespace WorkBridge.Binary64

open Json Json.Numeral

variable {x : Binary64}

/-- What is written for a number. -/
def numeral (x : Binary64) : Numeral :=
  if x.isZero then ⟨x.isNegative, ['0'], some ['0'], none⟩
  else ofDecimal 5 x.isNegative (shortest x.scaled).1 (shortest x.scaled).2

theorem toList_text (x : Binary64) :
    x.text.toList = signText x.isNegative ++ if x.isZero then ['0', '.', '0']
      else decimalText 5 (shortest x.scaled).1 (shortest x.scaled).2 := by
  have hsign : (if x.isNegative then "-" else "" : String).toList = signText x.isNegative := by
    cases x.isNegative <;> rfl
  rw [text, textWithin]
  split
  · rw [String.toList_append, hsign]
    rfl
  · rw [String.toList_append, hsign, String.toList_ofList]
    rfl

theorem numeral_written (h : x.isFinite = true) : x.numeral.Written x.text.toList := by
  rw [toList_text, numeral]
  cases hzero : x.isZero with
  | true =>
    refine Written.plain (isDigits_toDigits 0) (fun _ => rfl) ?_
    rintro _ ⟨⟩
    exact isDigits_toDigits 0
  | false => exact ofDecimal_written (shortest_pos (scaled_fits h hzero)) _

/-- The three largest numbers are in range as they are written. -/
theorem largest_isSome : ∀ negative, ∀ j < 3,
    (ofDecimal 5 negative (shortest ⟨2 ^ 53 - 1 - j, 971⟩).1
      (shortest ⟨2 ^ 53 - 1 - j, 971⟩).2).toBinary64?.isSome = true := by
  decide +kernel

theorem numeral_value (h : x.isFinite = true) : ∃ y, x.numeral.value = .ok (.float y) := by
  rw [numeral]
  cases hzero : x.isZero with
  | true =>
    exact value_of_isSome (.inl rfl)
      (isSome_of_short rfl (isDigits_toDigits 0) (show 1 ≤ 16 by decide))
  | false =>
    have hfits := scaled_fits h hzero
    refine value_of_isSome ofDecimal_form ?_
    generalize x.scaled = s at hfits
    by_cases htop : s.exponent = 971 ∧ 2 ^ 53 ≤ s.mantissa + 3
    · obtain ⟨m, e⟩ := s
      obtain ⟨rfl, hlarge⟩ : e = 971 ∧ 2 ^ 53 ≤ m + 3 := htop
      have hsmall : m < 2 ^ 53 := hfits.small
      obtain ⟨j, hj, rfl⟩ : ∃ j < 3, m = 2 ^ 53 - 1 - j := ⟨2 ^ 53 - 1 - m, by omega, by omega⟩
      exact largest_isSome _ j hj
    · exact ofDecimal_isSome (shortest_grid hfits)
        (shortest_le_ceiling hfits fun he => by
          by_contra hlarge
          exact htop ⟨he, Nat.not_lt.mp hlarge⟩)

end WorkBridge.Binary64
