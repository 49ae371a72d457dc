import LoraEval.Core.Single

namespace LoraEval.Core

/-- A rounding that keeps zero and the bounds of the unit interval. -/
structure Rounding (round : ℚ → ℚ) : Prop where
  zero : round 0 = 0
  nonneg : ∀ q, 0 ≤ q → 0 ≤ round q
  le_one : ∀ q, q ≤ 1 → round q ≤ 1

def double (q : ℚ) : ℚ :=
  nearestEven (q / 2 ^ (Int.log 2 |q| - 52)) * 2 ^ (Int.log 2 |q| - 52)

theorem nearestEven_nonneg (nonneg : 0 ≤ q) : 0 ≤ nearestEven q := by
  have floor := Int.floor_nonneg.mpr nonneg
  unfold nearestEven
  split_ifs <;> omega

theorem nearestEven_le {q : ℚ} {n : ℤ} (bound : q ≤ n) : nearestEven q ≤ n := by
  have floor : ⌊q⌋ ≤ n := Int.floor_le_iff.mpr (by linarith)
  unfold nearestEven
  split_ifs with below tie
  · exact floor
  · exact floor
  · by_contra! more
    have equal : ⌊q⌋ = n := by omega
    rw [equal] at below
    linarith

theorem double_le_one {q : ℚ} (bound : q ≤ 1) : double q ≤ 1 := by
  have positive : (0 : ℚ) < 2 ^ (Int.log 2 |q| - 52) := zpow_pos (by norm_num) _
  rw [double]
  rcases le_or_gt q 0 with negative | above
  · have quotient : q / 2 ^ (Int.log 2 |q| - 52) ≤ (0 : ℤ) := by
      rw [Int.cast_zero]
      exact div_nonpos_of_nonpos_of_nonneg negative positive.le
    have low : (nearestEven (q / 2 ^ (Int.log 2 |q| - 52)) : ℚ) ≤ 0 := by
      exact_mod_cast nearestEven_le quotient
    exact (mul_nonpos_of_nonpos_of_nonneg low positive.le).trans zero_le_one
  · have exponent : Int.log 2 |q| ≤ 0 := by
      rw [abs_of_pos above]
      exact (Int.log_mono_right above bound).trans_eq (Int.log_one_right 2)
    -- One is a whole number of steps below its own binade.
    obtain ⟨steps, same⟩ : ∃ steps : ℕ, (52 - Int.log 2 |q| : ℤ) = steps := Int.eq_ofNat_of_zero_le (by omega)
    have unit : ((2 ^ steps : ℤ) : ℚ) * 2 ^ (Int.log 2 |q| - 52) = 1 := by
      rw [show Int.log 2 |q| - 52 = -(steps : ℤ) by omega]
      push_cast
      rw [zpow_neg, zpow_natCast, mul_inv_cancel₀ (by positivity)]
    have quotient : q / 2 ^ (Int.log 2 |q| - 52) ≤ (2 ^ steps : ℤ) := by
      rw [div_le_iff₀ positive, unit]
      exact bound
    have high : (nearestEven (q / 2 ^ (Int.log 2 |q| - 52)) : ℚ) ≤ (2 ^ steps : ℤ) := by
      exact_mod_cast nearestEven_le quotient
    calc _ ≤ ((2 ^ steps : ℤ) : ℚ) * 2 ^ (Int.log 2 |q| - 52) := mul_le_mul_of_nonneg_right high positive.le
      _ = 1 := unit

theorem double_rounding : Rounding double := by
  refine ⟨by simp [double, nearestEven], ?_, fun q => double_le_one⟩
  intro q nonneg
  have positive : (0 : ℚ) < 2 ^ (Int.log 2 |q| - 52) := zpow_pos (by norm_num) _
  have low : (0 : ℚ) ≤ nearestEven (q / 2 ^ (Int.log 2 |q| - 52)) := by
    exact_mod_cast nearestEven_nonneg (div_nonneg nonneg positive.le)
  exact mul_nonneg low positive.le

end LoraEval.Core
