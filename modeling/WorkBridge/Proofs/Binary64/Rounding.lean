import Mathlib
import WorkBridge.Binary64

/-!
How much a number may grow when it is rounded.

A number read from a decimal goes through at most three roundings: that of its significand, that of
a power of ten and that of their product.  Each of them makes a normal number larger by a factor
`slack` at most, so a decimal that stays below `ceiling` is never too large (`ofDecimal?_isSome`).
-/

namespace WorkBridge.Binary64

open Float.Model UnpackedFloat

/-! ### Mantissas -/

variable {m n : Nat} {e : Int} {s : Sign}

/-- The mantissa `m` without its last `n` bits, and what is remembered of them. -/
def shifted (m n : Nat) : ExtendedMantissa :=
  n.repeat ExtendedMantissa.shiftRightOne ⟨m, false, false⟩

theorem shifted_succ (m n : Nat) : shifted m (n + 1) = (shifted m n).shiftRightOne := rfl

theorem mantissa_shifted (m n : Nat) : (shifted m n).mantissa = m / 2 ^ n := by
  induction n with
  | zero => exact (Nat.div_one m).symm
  | succ n ih =>
    rw [shifted_succ, Nat.pow_succ, ← Nat.div_div_eq_div_mul, ← ih]
    rfl

/-- The round bit says that at least half of a unit is left out. -/
theorem half_le_of_roundBit (h : (shifted m n).roundBit = true) : 2 ^ n ≤ 2 * (m % 2 ^ n) := by
  cases n with
  | zero => cases h
  | succ n =>
    have hodd : m / 2 ^ n % 2 = 1 := by
      have hbit : ((shifted m n).mantissa % 2 != 0) = true := h
      rw [mantissa_shifted] at hbit
      simpa using hbit
    rw [Nat.mod_pow_succ, hodd, Nat.pow_succ]
    omega

theorem le_roundedMantissa (x : ExtendedMantissa) : x.mantissa ≤ x.roundedMantissa := by
  obtain ⟨m, round, sticky⟩ := x
  cases round <;> cases sticky <;>
    simp [ExtendedMantissa.roundedMantissa, ExtendedMantissa.accuracy, Accuracy.roundToNearestEven]

theorem roundedMantissa_le (x : ExtendedMantissa) :
    x.roundedMantissa ≤ x.mantissa + if x.roundBit then 1 else 0 := by
  obtain ⟨m, round, sticky⟩ := x
  have hparity : m % 2 ≤ 1 := by omega
  cases round <;> cases sticky <;>
    simp [ExtendedMantissa.roundedMantissa, ExtendedMantissa.accuracy,
      Accuracy.roundToNearestEven, hparity]

/-- A rounded mantissa of 53 bits is larger by less than one in `2 ^ 53`. -/
theorem rounded_mul_le (h : 2 ^ (52 + n) ≤ m) :
    (shifted m n).roundedMantissa * 2 ^ n * 2 ^ 53 ≤ (2 ^ 53 + 1) * m := by
  have hrounded := roundedMantissa_le (shifted m n)
  have hdiv : m / 2 ^ n * 2 ^ n + m % 2 ^ n = m := Nat.div_add_mod' m (2 ^ n)
  rw [mantissa_shifted] at hrounded
  by_cases hbit : (shifted m n).roundBit = true
  · have hhalf := half_le_of_roundBit hbit
    have hscaled : (shifted m n).roundedMantissa * 2 ^ n ≤ m / 2 ^ n * 2 ^ n + 2 ^ n := by
      rw [hbit, if_pos rfl] at hrounded
      rw [← Nat.succ_mul]
      exact Nat.mul_le_mul_right _ hrounded
    rw [Nat.pow_add] at h
    omega
  · have hscaled : (shifted m n).roundedMantissa * 2 ^ n ≤ m / 2 ^ n * 2 ^ n := by
      rw [if_neg hbit] at hrounded
      exact Nat.mul_le_mul_right _ hrounded
    omega

theorem roundedMantissa_bounds (hlow : 2 ^ (52 + n) ≤ m) (hhigh : m < 2 ^ (53 + n)) :
    2 ^ 52 ≤ (shifted m n).roundedMantissa ∧ (shifted m n).roundedMantissa ≤ 2 ^ 53 := by
  have hle := le_roundedMantissa (shifted m n)
  have hge := roundedMantissa_le (shifted m n)
  rw [mantissa_shifted] at hle hge
  have hquotient : 2 ^ 52 ≤ m / 2 ^ n :=
    (Nat.le_div_iff_mul_le (Nat.two_pow_pos n)).mpr (by rwa [← Nat.pow_add])
  have hquotient' : m / 2 ^ n < 2 ^ 53 :=
    (Nat.div_lt_iff_lt_mul (Nat.two_pow_pos n)).mpr (by rwa [← Nat.pow_add])
  split at hge <;> omega

/-! ### Normal numbers -/

theorem log2_eq (hlow : 2 ^ n ≤ m) (hhigh : m < 2 ^ (n + 1)) : m.log2 = n := by
  have hne : m ≠ 0 := Nat.ne_of_gt (Nat.lt_of_lt_of_le (Nat.two_pow_pos n) hlow)
  exact Nat.le_antisymm (Nat.lt_succ_iff.mp ((Nat.log2_lt hne).mpr hhigh))
    ((Nat.le_log2 hne).mpr hlow)

/-- As long as the exponent is not too small, the bits beyond the fifty-third go. -/
theorem shiftToTargetExponent_exact (hlow : 2 ^ (52 + n) ≤ m) (hhigh : m < 2 ^ (53 + n))
    (he : -1074 ≤ e) :
    shiftToTargetExponent .binary64 m e .exact = (shifted m n, e + n) := by
  have hlog : m.log2 = 52 + n := log2_eq hlow (by rwa [show 52 + n + 1 = 53 + n by omega])
  have htarget : Format.binary64.targetExponent (totalExponent m e) = e + n := by
    show max ((m.log2 : Int) + 1 + e - (53 : Nat)) (3 - 2 ^ (11 - 1) - (53 : Nat)) = _
    omega
  have hshift : (e + n - e).toNat = n := by omega
  rw [shiftToTargetExponent, htarget, shiftToExponent, hshift]
  rfl

/-- A long mantissa is rounded to one of full length. -/
theorem roundWithAccuracy_full (hm : 2 ^ 52 ≤ m) (he : -1074 ≤ e) :
    ∃ (m' n' : Nat) (h : 0 < m'),
      roundWithAccuracy .binary64 s m e .exact = .finite s m' (e + n') h ∧
        2 ^ 52 ≤ m' ∧ m' < 2 ^ 53 ∧ m' * 2 ^ n' * 2 ^ 53 ≤ (2 ^ 53 + 1) * m := by
  obtain ⟨n, hn⟩ : ∃ n, m.log2 = 52 + n :=
    Nat.exists_eq_add_of_le ((Nat.le_log2 (by omega)).mpr hm)
  have hlow : 2 ^ (52 + n) ≤ m := by rw [← hn]; exact Nat.log2_self_le (by omega)
  have hhigh : m < 2 ^ (53 + n) := by
    rw [show 53 + n = m.log2 + 1 by omega]
    exact Nat.lt_log2_self
  obtain ⟨hfull, htop⟩ := roundedMantissa_bounds hlow hhigh
  have hgrowth := rounded_mul_le hlow
  generalize hr : (shifted m n).roundedMantissa = r at *
  -- Rounding up may leave a mantissa of one bit more, a power of two.
  obtain ⟨n', hlow', hhigh', hgrowth'⟩ : ∃ n', 2 ^ (52 + n') ≤ r ∧ r < 2 ^ (53 + n') ∧
      r / 2 ^ n' * 2 ^ (n + n') * 2 ^ 53 ≤ (2 ^ 53 + 1) * m := by
    rcases Nat.lt_or_ge r (2 ^ 53) with hlt | hge
    · exact ⟨0, hfull, hlt, by simpa using hgrowth⟩
    · obtain rfl : r = 2 ^ 53 := Nat.le_antisymm htop hge
      have hvalue : 2 ^ 53 / 2 ^ 1 * 2 ^ (n + 1) = 2 ^ 53 * 2 ^ n := by
        rw [Nat.add_comm n, Nat.pow_add, ← Nat.mul_assoc]
        rfl
      exact ⟨1, Nat.le_refl _, Nat.pow_lt_pow_right (by decide) (by decide), by rwa [hvalue]⟩
  have hquotient : 2 ^ 52 ≤ r / 2 ^ n' :=
    (Nat.le_div_iff_mul_le (Nat.two_pow_pos n')).mpr (by rwa [← Nat.pow_add])
  have hquotient' : r / 2 ^ n' < 2 ^ 53 :=
    (Nat.div_lt_iff_lt_mul (Nat.two_pow_pos n')).mpr (by rwa [← Nat.pow_add])
  refine ⟨r / 2 ^ n', n + n', by omega, ?_, hquotient, hquotient', hgrowth'⟩
  rw [roundWithAccuracy, shiftToTargetExponent_exact hlow hhigh he]
  simp only [hr, shiftToTargetExponent_exact hlow' hhigh' (show -1074 ≤ e + (n : Int) by omega),
    mantissa_shifted]
  rw [dif_neg (by omega)]
  simp only [Nat.cast_add, add_assoc]

/-- A number that fits is kept as it is. -/
theorem unpack_pack (hlow : 2 ^ 52 ≤ m) (hhigh : m < 2 ^ 53) (he : -1074 ≤ e) (he' : e ≤ 971)
    (h : 0 < m) :
    (Float.Model.pack (.finite .positive m e h)).unpack = .finite .positive m e h := by
  obtain ⟨b, hb⟩ : ∃ b : Nat, (b : Int) = e + 1075 := ⟨(e + 1075).toNat, by omega⟩
  have hlog : m.log2 = 52 := log2_eq hlow hhigh
  have hbiased : (e + Format.binary64.exponentBias + (52 : Nat)).toNat = b := by
    show (e + (1023 : Nat) + (52 : Nat)).toNat = b
    omega
  have hall : BitVec.ofNat 11 b ≠ -1#11 := fun heq => by
    have := congrArg BitVec.toNat heq
    simp at this
    omega
  have hzero : BitVec.ofNat 11 b ≠ 0#11 := fun heq => by
    have := congrArg BitVec.toNat heq
    simp at this
    omega
  have hmantissa : (1#1 ++ BitVec.ofNat 52 m).toNat = m := by
    rw [BitVec.toNat_append, ← Nat.shiftLeft_add_eq_or_of_lt (BitVec.ofNat 52 m).isLt,
      BitVec.toNat_ofNat, Nat.shiftLeft_eq]
    simp
    omega
  have hexponent :
      ((BitVec.ofNat 11 b).toNat : Int) - (Format.binary64.exponentBias + (52 : Nat)) = e := by
    show _ - (((1023 : Nat) : Int) + (52 : Nat)) = e
    rw [BitVec.toNat_ofNat]
    omega
  show UnpackedFloat.unpack .binary64 (UnpackedFloat.pack .binary64 _) = _
  rw [UnpackedFloat.pack]
  simp only [hlog, hbiased]
  rw [if_neg (by omega), if_pos (show 52 + 1 = Format.binary64.mantissaBits from rfl),
    UnpackedFloat.unpack]
  simp only [unpackMantissa_packComponents, unpackExponent_packComponents,
    unpackSign_packComponents]
  rw [if_neg hall, if_neg hzero]
  simp only [hmantissa, hexponent]
  rfl

/-! ### Growth -/

/-- What one rounding may multiply a number with. -/
def slack : ℚ := 1 + 1 / 2 ^ 53

/-- A normal number that is at most `v`, and whose products are normal as well. -/
def AtMost (x : Float) (v : ℚ) : Prop :=
  ∃ (m : Nat) (e : Int) (h : 0 < m), x.toModel.unpack = .finite .positive m e h ∧
    2 ^ 52 ≤ m ∧ -500 ≤ e ∧ (m : ℚ) * 2 ^ e ≤ v

theorem unpack_round (hm : 2 ^ 52 ≤ m) (he : -1074 ≤ e)
    (hv : slack * (m * 2 ^ e) < 2 ^ (1024 : Int)) :
    ∃ (m' : Nat) (e' : Int) (h : 0 < m'),
      (Float.Model.pack (roundWithAccuracy .binary64 .positive m e .exact)).unpack =
        .finite .positive m' e' h ∧
      2 ^ 52 ≤ m' ∧ e ≤ e' ∧ (m' : ℚ) * 2 ^ e' ≤ slack * (m * 2 ^ e) := by
  obtain ⟨m', n', h, hround, hlow, hhigh, hgrowth⟩ := roundWithAccuracy_full (s := .positive) hm he
  have hvalue : (m' : ℚ) * 2 ^ (e + n') ≤ slack * (m * 2 ^ e) := by
    have hcast : (m' : ℚ) * 2 ^ n' * 2 ^ 53 ≤ (2 ^ 53 + 1) * m := by exact_mod_cast hgrowth
    have hunit : (0 : ℚ) < 2 ^ e := by positivity
    have hsmall : (m' : ℚ) * 2 ^ n' ≤ slack * m := by
      rw [slack]
      linarith
    calc (m' : ℚ) * 2 ^ (e + n') = m' * 2 ^ n' * 2 ^ e := by
          rw [zpow_add₀ (by norm_num), zpow_natCast]; ring
      _ ≤ slack * m * 2 ^ e := mul_le_mul_of_nonneg_right hsmall hunit.le
      _ = slack * (m * 2 ^ e) := mul_assoc ..
  have htop : e + n' ≤ 971 := by
    by_contra hlt
    have hpower : (2 : ℚ) ^ (972 : Int) ≤ 2 ^ (e + n') :=
      zpow_le_zpow_right₀ (by norm_num) (by omega)
    have hfull : (2 : ℚ) ^ (52 : Int) ≤ m' := by exact_mod_cast hlow
    have hlimit : (2 : ℚ) ^ (1024 : Int) ≤ m' * 2 ^ (e + n') := by
      rw [show (1024 : Int) = 52 + 972 from rfl, zpow_add₀ (by norm_num)]
      exact mul_le_mul hfull hpower (by positivity) (by positivity)
    exact lt_irrefl _ (hlimit.trans_lt (hvalue.trans_lt hv))
  refine ⟨m', e + n', h, ?_, hlow, by omega, hvalue⟩
  rw [hround, unpack_pack hlow hhigh (by omega) htop]

theorem slack_pos : 0 < slack := by
  rw [slack]
  positivity

theorem slack_mul_lt {v : ℚ} (h : v ≤ 10 ^ 308) : slack * v < 2 ^ (1024 : Int) := by
  have hroom : (2 ^ 53 + 1) * 10 ^ 308 < 2 ^ 53 * 2 ^ 1024 := by decide +kernel
  have hcast : ((2 : ℚ) ^ 53 + 1) * 10 ^ 308 < 2 ^ 53 * 2 ^ 1024 := by exact_mod_cast hroom
  calc slack * v ≤ slack * 10 ^ 308 := mul_le_mul_of_nonneg_left h slack_pos.le
    _ = ((2 : ℚ) ^ 53 + 1) * 10 ^ 308 / 2 ^ 53 := by rw [slack]; field_simp
    _ < 2 ^ 1024 := by rwa [div_lt_iff₀' (by positivity)]

/-- The mantissa of a small integer is made longer before it is rounded. -/
theorem normalize_natCast (hn : n ≠ 0) :
    ∃ k : Nat, k ≤ 52 ∧ 2 ^ 52 ≤ n * 2 ^ k ∧
      UnpackedFloat.normalize .binary64 n 0 .positive =
        roundWithAccuracy .binary64 .positive (n * 2 ^ k) (-k) .exact := by
  refine ⟨52 - n.log2, Nat.sub_le .., ?_, ?_⟩
  · have hlog : 2 ^ n.log2 ≤ n := Nat.log2_self_le hn
    calc 2 ^ 52 ≤ 2 ^ (n.log2 + (52 - n.log2)) := Nat.pow_le_pow_right (by decide) (by omega)
      _ = 2 ^ n.log2 * 2 ^ (52 - n.log2) := Nat.pow_add ..
      _ ≤ n * 2 ^ (52 - n.log2) := Nat.mul_le_mul_right _ hlog
  · have hsign : compare (n : Int) 0 = .gt := Int.compare_eq_gt.mpr (by omega)
    have hshift : (-Format.binary64.targetExponent (totalExponent n 0)).toNat = 52 - n.log2 := by
      show (-max ((n.log2 : Int) + 1 + 0 - (53 : Nat)) (3 - 2 ^ (11 - 1) - (53 : Nat))).toNat = _
      omega
    rw [UnpackedFloat.normalize, hsign]
    simp only [Int.toNat_natCast, UnpackedFloat.round, decreaseExponent, zero_sub, hshift,
      Nat.shiftLeft_eq]

theorem toFloat_atMost {n : UInt64} (hn : n ≠ 0) : AtMost n.toFloat (slack * n.toNat) := by
  have hne : n.toNat ≠ 0 := fun h => hn (UInt64.toNat_inj.mp h)
  obtain ⟨k, hk, hfull, hnormal⟩ := normalize_natCast hne
  have hvalue : ((n.toNat * 2 ^ k : Nat) : ℚ) * 2 ^ (-(k : Int)) = n.toNat := by
    rw [zpow_neg, zpow_natCast, Nat.cast_mul, Nat.cast_pow, Nat.cast_ofNat,
      mul_inv_cancel_right₀ (by positivity)]
  obtain ⟨m, e, h, hunpack, hm, he, hle⟩ := unpack_round hfull (e := -k) (by omega) (by
    rw [hvalue]
    exact slack_mul_lt (by exact_mod_cast Nat.le_trans n.toNat_lt.le (by decide +kernel)))
  rw [hvalue] at hle
  refine ⟨m, e, h, ?_, hm, by omega, hle⟩
  rw [← hunpack, ← hnormal]
  rfl

/-- Whether a number is normal and at most `n`. -/
def isWithin (x : Float) (n : Nat) : Bool :=
  match x.toModel.unpack with
  | .finite .positive m e _ => 2 ^ 52 ≤ m ∧ -52 ≤ e ∧ m * 2 ^ (e + 52).toNat ≤ n * 2 ^ 52
  | _ => false

theorem atMost_of_isWithin {x : Float} (h : isWithin x n = true) : AtMost x n := by
  unfold isWithin at h
  split at h
  · rename_i m e hm hunpack
    obtain ⟨hfull, he, hle⟩ := of_decide_eq_true h
    refine ⟨m, e, hm, hunpack, hfull, by omega, ?_⟩
    have hcast : (m : ℚ) * 2 ^ (e + 52).toNat ≤ n * 2 ^ 52 := by exact_mod_cast hle
    rw [← zpow_natCast, Int.toNat_of_nonneg (by omega), zpow_add₀ (by norm_num), ← mul_assoc]
      at hcast
    exact le_of_mul_le_mul_right hcast (by positivity)
  · cases h

theorem powerOfTen_atMost {k : Nat} (hk : k ≤ 308) : AtMost (powerOfTen k) (slack * 10 ^ k) := by
  rcases Nat.lt_or_ge k 23 with hlt | hge
  · -- These are kept in a table.
    have htable : ∀ k < 23, isWithin (powerOfTen k) (10 ^ k) = true := by decide +kernel
    obtain ⟨m, e, h, hunpack, hm, he, hle⟩ := atMost_of_isWithin (htable k hlt)
    refine ⟨m, e, h, hunpack, hm, he, hle.trans ?_⟩
    rw [Nat.cast_pow, Nat.cast_ofNat]
    exact le_mul_of_one_le_left (by positivity) (by rw [slack]; linarith)
  · have hvalue : ((2 ^ 53 * 10 ^ k : Nat) : ℚ) * 2 ^ (-53 + 0 : Int) = 10 ^ k := by
      rw [Nat.cast_mul, mul_right_comm]
      norm_num
    obtain ⟨m, e, h, hunpack, hm, he, hle⟩ := unpack_round (m := 2 ^ 53 * 10 ^ k) (e := -53 + 0)
      (Nat.le_trans (by decide) (Nat.le_mul_of_pos_right _ (by positivity))) (by decide) (by
        rw [hvalue]
        exact slack_mul_lt (pow_le_pow_right₀ (by norm_num) hk))
    rw [hvalue] at hle
    refine ⟨m, e, h, ?_, hm, by omega, hle⟩
    rw [← hunpack]
    have hslow : powerOfTen k = .ofModel (.ofScientific 1 k) := by
      rw [powerOfTen, Float.ofScientific, dif_neg (by omega)]
      rfl
    have hproduct : UnpackedFloat.ofScientific .binary64 1 k =
        roundWithAccuracy .binary64 .positive (2 ^ 53 * 10 ^ k) (-53 + 0) .exact := by
      have hbits : (2 : Int) ^ Format.binary64.exponentBits = 2048 := rfl
      rw [UnpackedFloat.ofScientific, dif_neg Nat.one_ne_zero, hbits, if_neg (by omega),
        if_neg (by omega), if_pos (by omega)]
      rfl
    rw [hslow]
    show (Float.Model.pack (UnpackedFloat.ofScientific .binary64 1 k)).unpack = _
    rw [hproduct]

/-- A product of normal numbers is finite as long as rounding cannot get it out of range. -/
theorem isInf_mul {x y : Float} {v w : ℚ} (hx : AtMost x v) (hy : AtMost y w)
    (h : slack * (v * w) < 2 ^ (1024 : Int)) : (x * y).isInf = false := by
  obtain ⟨m, e, hm, hunpack, hfull, he, hle⟩ := hx
  obtain ⟨m', e', hm', hunpack', hfull', he', hle'⟩ := hy
  have hvalue : ((m * m' : Nat) : ℚ) * 2 ^ (e + e') ≤ v * w := by
    calc ((m * m' : Nat) : ℚ) * 2 ^ (e + e') = m * 2 ^ e * (m' * 2 ^ e') := by
          rw [Nat.cast_mul, zpow_add₀ (by norm_num)]; ring
      _ ≤ v * w := mul_le_mul hle hle' (by positivity) (le_trans (by positivity) hle)
  obtain ⟨_, _, _, hproduct, -⟩ :=
    unpack_round (m := m * m') (e := e + e') (Nat.le_trans hfull (Nat.le_mul_of_pos_right m hm'))
      (by omega) ((mul_le_mul_of_nonneg_left hvalue slack_pos.le).trans_lt h)
  have hmodel : (x * y).toModel =
      .pack (roundWithAccuracy .binary64 .positive (m * m') (e + e') .exact) := by
    show Float.Model.pack (UnpackedFloat.mul .binary64 x.toModel.unpack y.toModel.unpack) = _
    rw [hunpack, hunpack']
    rfl
  rw [Float.isInf, Float.Model.isInf, hmodel, hproduct]
  rfl

theorem isInf_zero_mul {y : Float} {w : ℚ} (hy : AtMost y w) :
    ((0 : UInt64).toFloat * y).isInf = false := by
  obtain ⟨m, e, h, hunpack, -⟩ := hy
  have hzero : (0 : UInt64).toFloat.toModel.unpack = .zero .positive := rfl
  show (Float.Model.pack (UnpackedFloat.mul .binary64 _ y.toModel.unpack)).unpack.isInf = _
  rw [hzero, hunpack]
  show (Float.Model.pack (.zero .positive)).unpack.isInf = false
  decide +kernel

/-! ### Decimals -/

/-- The largest number that three roundings cannot get out of range, up to a few units. -/
@[irreducible]
def ceiling : Nat := (2 ^ 54 - 7) * 2 ^ 970

theorem cast_mul_pow (m n : Nat) : ((m * 2 ^ n : Nat) : ℚ) = m * 2 ^ n := by
  rw [Nat.cast_mul, Nat.cast_pow, Nat.cast_ofNat]

theorem ceiling_eq : (ceiling : ℚ) = (2 ^ 54 - 7) * 2 ^ 970 := by
  have hcast : ((2 ^ 54 - 7 : Nat) : ℚ) = 2 ^ 54 - 7 := by norm_num
  rw [← hcast]
  unfold ceiling
  exact cast_mul_pow _ _

theorem ceiling_lt : ceiling < 10 ^ 309 := by decide +kernel

theorem slack_pow_mul_ceiling : slack * (slack * (slack * ceiling)) < 2 ^ (1024 : Int) := by
  have hroom : (2 ^ 53 + 1) ^ 3 * ceiling < 2 ^ 1024 * (2 ^ 53) ^ 3 := by decide +kernel
  have hcast : ((2 : ℚ) ^ 53 + 1) ^ 3 * ceiling < 2 ^ 1024 * (2 ^ 53) ^ 3 := by exact_mod_cast hroom
  calc slack * (slack * (slack * ceiling)) = ((2 : ℚ) ^ 53 + 1) ^ 3 * ceiling / (2 ^ 53) ^ 3 := by
        rw [slack]; field_simp
    _ < 2 ^ 1024 := by rwa [div_lt_iff₀ (by positivity)]

/-- A decimal below the ceiling is a number. -/
theorem ofDecimal?_isSome {negative : Bool} (hn : n < UInt64.size)
    (h : ∀ k : Nat, e = k → n * 10 ^ k ≤ ceiling) : (ofDecimal? negative n e).isSome = true := by
  unfold ofDecimal?
  rw [Option.isSome_map]
  cases e with
  | negSucc k => rfl
  | ofNat k =>
    dsimp only
    by_cases hzero : n = 0
    · subst hzero
      split
      · rename_i hk
        rw [if_neg (by simpa using isInf_zero_mul (powerOfTen_atMost hk))]
        rfl
      · decide +kernel
    · have hsize : n * 10 ^ k ≤ ceiling := h k rfl
      have hk : k ≤ 308 := by
        by_contra hlt
        have hpower : 10 ^ 309 ≤ 10 ^ k := pow_le_pow_right₀ (by decide) (by omega)
        have hone : 10 ^ k ≤ n * 10 ^ k := Nat.le_mul_of_pos_left _ (Nat.pos_of_ne_zero hzero)
        exact absurd (hpower.trans (hone.trans hsize)) (Nat.not_le.mpr ceiling_lt)
      have htoNat : n.toUInt64.toNat = n := Nat.mod_eq_of_lt hn
      have hne : n.toUInt64 ≠ 0 := fun h => hzero (by rw [← htoNat, h]; rfl)
      have hproduct : slack * (slack * n * (slack * 10 ^ k)) < 2 ^ (1024 : Int) := by
        have hcast : (n : ℚ) * 10 ^ k ≤ ceiling := by exact_mod_cast hsize
        have hpos := slack_pos
        calc slack * (slack * n * (slack * 10 ^ k))
            = slack * (slack * (slack * (n * 10 ^ k))) := by ring
          _ ≤ slack * (slack * (slack * ceiling)) := by gcongr
          _ < 2 ^ (1024 : Int) := slack_pow_mul_ceiling
      have hfinite := isInf_mul (toFloat_atMost hne) (powerOfTen_atMost hk) (by rwa [htoNat])
      rw [if_pos hk, if_neg (by simpa using hfinite)]
      rfl

end WorkBridge.Binary64
