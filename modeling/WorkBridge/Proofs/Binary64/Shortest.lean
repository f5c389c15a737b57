import WorkBridge.Binary64.Shortest
import WorkBridge.Proofs.Binary64.Rounding

/-!
How large the decimal of a number can be.

A decimal that reads back as a number lies in the interval of the reals that round to it.  For all
but the three largest numbers that interval ends below `ceiling`, so `shortest` stays below it as
well (`shortest_le_ceiling`).
-/

namespace WorkBridge.Binary64

variable {s : Scaled} {n c : Nat} {k a b : Int}

/-- A power with a positive exponent over one with a negative exponent. -/
theorem zpow_eq_div {x : ℚ} (hx : x ≠ 0) (a : Int) : x ^ a = x ^ a.toNat / x ^ (-a).toNat := by
  rw [eq_div_iff (pow_ne_zero _ hx), ← zpow_natCast, ← zpow_natCast, ← zpow_add₀ hx]
  congr 1
  omega

theorem ratio_eq (n : Nat) (a b : Int) :
    ((ratio n a b).1 : ℚ) / (ratio n a b).2 = n * 2 ^ a / 10 ^ b := by
  simp only [ratio, Nat.shiftLeft_eq, Nat.pow_eq]
  push_cast
  rw [zpow_eq_div (two_ne_zero) a, zpow_eq_div (x := 10) (by norm_num) b]
  field_simp

theorem ratio_snd_pos (n : Nat) (a b : Int) : 0 < (ratio n a b).2 := by
  show 0 < Nat.pow 10 b.toNat <<< (-a).toNat
  rw [Nat.shiftLeft_eq]
  exact Nat.mul_pos (Nat.pow_pos (show 0 < 10 by decide)) (Nat.two_pow_pos _)

/-- What reads back is not larger than the upper end of the interval. -/
theorem le_of_readsBack (h : readsBack s c k = true) :
    (c : ℚ) * 10 ^ k ≤ (2 * s.mantissa + 1) * 2 ^ (s.exponent - 1) := by
  have hupper : c * (ratio 1 (s.exponent - 2) k).2 ≤
      (4 * s.mantissa + 2) * (ratio 1 (s.exponent - 2) k).1 := by
    simp only [readsBack] at h
    split at h
    · exact (of_decide_eq_true h).2
    · exact (of_decide_eq_true h).2.le
  have hden : (0 : ℚ) < (ratio 1 (s.exponent - 2) k).2 := by exact_mod_cast ratio_snd_pos ..
  have hratio := ratio_eq 1 (s.exponent - 2) k
  rw [Nat.cast_one, one_mul] at hratio
  have hcast : (c : ℚ) * (ratio 1 (s.exponent - 2) k).2 ≤
      (4 * s.mantissa + 2) * (ratio 1 (s.exponent - 2) k).1 := by exact_mod_cast hupper
  have hten : (0 : ℚ) < 10 ^ k := zpow_pos (by norm_num) k
  rw [← le_div_iff₀ hden, mul_div_assoc, hratio, mul_div_assoc', le_div_iff₀ hten] at hcast
  calc (c : ℚ) * 10 ^ k ≤ (4 * s.mantissa + 2) * 2 ^ (s.exponent - 2) := hcast
    _ = (2 * s.mantissa + 1) * 2 ^ (s.exponent - 1) := by
      rw [show s.exponent - 1 = s.exponent - 2 + 1 by omega, zpow_add_one₀ two_ne_zero]
      ring

theorem onGrid?_spec (h : onGrid? s k = some c) : readsBack s c k = true ∧ 0 < c := by
  simp only [onGrid?] at h
  split at h
  · rename_i hboth
    obtain ⟨⟨hbelow, hpos⟩, habove⟩ := hboth
    split at h
    · cases h; exact ⟨hbelow, hpos⟩
    · split at h
      · cases h; exact ⟨habove, Nat.succ_pos _⟩
      · cases h
        split
        · exact ⟨hbelow, hpos⟩
        · exact ⟨habove, Nat.succ_pos _⟩
  · split at h
    · rename_i hbelow
      cases h
      exact hbelow
    · split at h
      · rename_i habove
        cases h
        exact ⟨habove, Nat.succ_pos _⟩
      · cases h

/-- Either a grid has a hit, or all that was tried is passed. -/
theorem coarsest_cases (s : Scaled) (n : Nat) (k : Int) :
    (∃ c j, coarsest s n k = (c, j) ∧ k - n ≤ j ∧ j ≤ k ∧ readsBack s c j = true ∧ 0 < c) ∨
      coarsest s n k = (s.mantissa, k - n) := by
  induction n generalizing k with
  | zero => exact .inr (by rw [coarsest, Nat.cast_zero, sub_zero])
  | succ n ih =>
    rw [coarsest]
    cases hgrid : onGrid? s k with
    | some c =>
      obtain ⟨hback, hpos⟩ := onGrid?_spec hgrid
      exact .inl ⟨c, k, rfl, by omega, Int.le_refl k, hback, hpos⟩
    | none =>
      rcases ih (k - 1) with ⟨c, j, hcoarsest, hlow, hhigh, hback, hpos⟩ | hcoarsest
      · exact .inl ⟨c, j, hcoarsest, by omega, by omega, hback, hpos⟩
      · refine .inr (hcoarsest.trans ?_)
        rw [Nat.cast_succ]
        congr 1
        omega

/-- What the mantissa and the exponent of a finite number are. -/
structure Scaled.Fits (s : Scaled) : Prop where
  pos : 0 < s.mantissa
  small : s.mantissa < 2 ^ 53
  low : -1074 ≤ s.exponent
  high : s.exponent ≤ 971

theorem scaled_fits {x : Binary64} (hfinite : x.isFinite = true) (hzero : x.isZero = false) :
    x.scaled.Fits := by
  have hexponent : x.exponentBits ≠ 2047 := of_decide_eq_true hfinite
  have hbits : x.bits.toNat % 2 ^ 63 ≠ 0 := of_decide_eq_false hzero
  have hquotient : x.exponentBits = x.bits.toNat / 2 ^ 52 % 2048 := by
    rw [exponentBits, Nat.shiftRight_eq_div_pow]
  have hrest : x.fractionBits = x.bits.toNat % 2 ^ 52 := rfl
  have hhidden : hiddenBit = 2 ^ 52 := rfl
  unfold scaled
  split <;> constructor <;> (dsimp only; omega)

/-- The coarsest grid that is tried. -/
def firstGrid (s : Scaled) : Int := ((s.mantissa.log2 : Int) + s.exponent) * 30103 / 100000 + 2

theorem shortest_eq (s : Scaled) : shortest s = coarsest s 24 (firstGrid s) := rfl

section

variable (hs : s.Fits)

include hs

theorem firstGrid_bounds : -322 ≤ firstGrid s ∧ firstGrid s ≤ 309 := by
  rw [firstGrid]
  have hlog : s.mantissa.log2 < 53 := (Nat.log2_lt hs.pos.ne').mpr hs.small
  have hlow := hs.low
  have hhigh := hs.high
  omega

theorem shortest_pos : 0 < (shortest s).1 := by
  rcases coarsest_cases s 24 (firstGrid s) with ⟨c, j, hcoarsest, -, -, -, hpos⟩ | hcoarsest
  · rw [shortest_eq, hcoarsest]
    exact hpos
  · rw [shortest_eq, hcoarsest]
    exact hs.pos

theorem shortest_grid : -346 ≤ (shortest s).2 ∧ (shortest s).2 ≤ 309 := by
  have hgrid := firstGrid_bounds hs
  rcases coarsest_cases s 24 (firstGrid s) with ⟨c, j, hcoarsest, hlow, hhigh, -⟩ | hcoarsest
  · rw [shortest_eq, hcoarsest]
    dsimp only
    omega
  · rw [shortest_eq, hcoarsest]
    dsimp only
    omega

/-- The interval of a number that is not one of the largest ends below the ceiling. -/
theorem upper_le_ceiling (htop : s.exponent = 971 → s.mantissa + 3 < 2 ^ 53) :
    (2 * s.mantissa + 1 : ℚ) * 2 ^ (s.exponent - 1) ≤ ceiling := by
  rw [ceiling_eq, ← zpow_natCast]
  by_cases hexponent : s.exponent = 971
  · have hmantissa : (2 * s.mantissa + 1 : ℚ) ≤ 2 ^ 54 - 7 := by
      have := htop hexponent
      have hcast : ((2 * s.mantissa + 8 : Nat) : ℚ) ≤ (2 ^ 54 : Nat) := by
        exact_mod_cast (by omega : 2 * s.mantissa + 8 ≤ 2 ^ 54)
      push_cast at hcast
      linarith
    rw [hexponent]
    exact mul_le_mul_of_nonneg_right hmantissa (zpow_nonneg (by norm_num) _)
  · have hmantissa : (2 * s.mantissa + 1 : ℚ) ≤ 2 ^ 54 := by
      have := hs.small
      exact_mod_cast (by omega : 2 * s.mantissa + 1 ≤ 2 ^ 54)
    have hpower : (2 : ℚ) ^ (s.exponent - 1) ≤ 2 ^ (969 : Int) := by
      have := hs.high
      exact zpow_le_zpow_right₀ (by norm_num) (by omega)
    calc (2 * s.mantissa + 1 : ℚ) * 2 ^ (s.exponent - 1) ≤ 2 ^ 54 * 2 ^ (969 : Int) :=
          mul_le_mul hmantissa hpower (by positivity) (by positivity)
      _ ≤ (2 ^ 54 - 7) * 2 * 2 ^ (969 : Int) :=
          mul_le_mul_of_nonneg_right (by norm_num) (by positivity)
      _ = (2 ^ 54 - 7) * 2 ^ ((970 : Nat) : Int) := by
        rw [show ((970 : Nat) : Int) = 969 + 1 from rfl, zpow_add_one₀ two_ne_zero]
        ring

/-- The shortest decimal of a number that is not one of the largest stays below the ceiling. -/
theorem shortest_le_ceiling (htop : s.exponent = 971 → s.mantissa + 3 < 2 ^ 53) :
    ((shortest s).1 : ℚ) * 10 ^ (shortest s).2 ≤ ceiling := by
  have hgrid := firstGrid_bounds hs
  rcases coarsest_cases s 24 (firstGrid s) with ⟨c, j, hcoarsest, -, -, hback, -⟩ | hcoarsest
  · rw [shortest_eq, hcoarsest]
    exact (le_of_readsBack hback).trans (upper_le_ceiling hs htop)
  · rw [shortest_eq, hcoarsest]
    dsimp only
    have hmantissa : (s.mantissa : ℚ) ≤ 2 ^ 53 := by exact_mod_cast hs.small.le
    have hpower : (10 : ℚ) ^ (firstGrid s - (24 : Nat)) ≤ 10 ^ ((285 : Nat) : Int) :=
      zpow_le_zpow_right₀ (by norm_num) (by omega)
    have hroom : 2 ^ 53 * 10 ^ 285 ≤ ceiling := by decide +kernel
    have hcast : ((2 ^ 53 * 10 ^ 285 : Nat) : ℚ) ≤ ceiling := Nat.cast_le.mpr hroom
    rw [Nat.cast_mul, Nat.cast_pow, Nat.cast_pow] at hcast
    rw [zpow_natCast] at hpower
    exact (mul_le_mul hmantissa hpower (by positivity) (by positivity)).trans hcast

end

end WorkBridge.Binary64
