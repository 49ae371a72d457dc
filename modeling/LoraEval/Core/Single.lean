import Mathlib.Data.Int.Log
import Mathlib.Data.Rat.Floor
import Mathlib.Tactic.FieldSimp
import Mathlib.Tactic.Linarith
import Mathlib.Tactic.Positivity
import Mathlib.Tactic.Ring

/-! Single-precision arithmetic over the rationals. An operation computes exactly
and then rounds to 24 significant bits; the range of exponents is not bounded. -/

namespace LoraEval.Core

/-- The nearest integer, ties to even. -/
def nearestEven (q : ℚ) : ℤ :=
  if q - ⌊q⌋ < 1 / 2 then ⌊q⌋
  else if q - ⌊q⌋ = 1 / 2 ∧ ⌊q⌋ % 2 = 0 then ⌊q⌋
  else ⌊q⌋ + 1

/-- The distance of two neighbouring single-precision numbers around `q`. -/
def spacing (q : ℚ) : ℚ := 2 ^ (Int.log 2 |q| - 23)

def single (q : ℚ) : ℚ := nearestEven (q / spacing q) * spacing q

theorem nearestEven_intCast (n : ℤ) : nearestEven n = n := by simp [nearestEven]

theorem nearestEven_error (q : ℚ) : |nearestEven q - q| ≤ 1 / 2 := by
  have low := Int.floor_le q
  have high := Int.lt_floor_add_one q
  unfold nearestEven
  split_ifs with below tie
  · rw [abs_le]
    constructor <;> linarith
  · rw [abs_le]
    constructor <;> linarith [tie.1]
  · push_cast
    rw [abs_le]
    constructor <;> linarith

theorem spacing_pos (q : ℚ) : 0 < spacing q := zpow_pos (by norm_num) _

theorem single_of_multiple (n : ℤ) (multiple : q = n * spacing q) : single q = q := by
  have quotient : q / spacing q = n := by
    rw [div_eq_iff (spacing_pos q).ne']
    exact multiple
  rw [single, quotient, nearestEven_intCast]
  exact multiple.symm

theorem single_natCast {n : ℕ} (small : n < 2 ^ 24) : single n = n := by
  have places : Nat.log 2 n ≤ 23 := by
    have := Nat.log_lt_of_lt_pow' (by decide) small
    omega
  apply single_of_multiple (n * 2 ^ (23 - Nat.log 2 n) : ℕ)
  have spaced : spacing n = 2 ^ ((Nat.log 2 n : ℤ) - 23) := by
    rw [spacing, Nat.abs_cast, Int.log_natCast]
  have cancel : (2 : ℚ) ^ (23 - Nat.log 2 n) * 2 ^ ((Nat.log 2 n : ℤ) - 23) = 1 := by
    rw [← zpow_natCast, ← zpow_add₀ (by norm_num), Nat.cast_sub places]
    norm_num
  push_cast
  rw [spaced, mul_assoc, cancel, mul_one]

theorem single_eq_natCast {q : ℚ} {n : ℕ} (whole : q = n) (small : n < 2 ^ 24) : single q = n := by
  rw [whole, single_natCast small]

/-- The relative error of a rounding is at most half a unit in the last place. -/
theorem single_error (q : ℚ) : |single q - q| ≤ |q| / 2 ^ 24 := by
  by_cases zero : q = 0
  · simp [zero, single, nearestEven]
  have positive := spacing_pos q
  have exponent : spacing q * 2 ^ 23 ≤ |q| := by
    have held := Int.zpow_log_le_self (b := 2) (r := |q|) (by decide) (abs_pos.mpr zero)
    have split : spacing q * 2 ^ 23 = 2 ^ Int.log 2 |q| := by
      rw [spacing, ← zpow_natCast, ← zpow_add₀ (by norm_num)]
      norm_num
    rw [split]
    exact_mod_cast held
  have scaled : single q - q = (nearestEven (q / spacing q) - q / spacing q) * spacing q := by
    rw [single, sub_mul, div_mul_cancel₀ _ positive.ne']
  rw [scaled, abs_mul, abs_of_pos positive]
  have half := mul_le_mul_of_nonneg_right (nearestEven_error (q / spacing q)) positive.le
  linarith

theorem single_scale (k : ℤ) (q : ℚ) : single (2 ^ k * q) = 2 ^ k * single q := by
  by_cases zero : q = 0
  · simp [zero, single, nearestEven]
  have power : (0 : ℚ) < 2 ^ k := zpow_pos (by norm_num) k
  have magnitude : 0 < |q| := abs_pos.mpr zero
  have exponent : Int.log 2 |2 ^ k * q| = k + Int.log 2 |q| := by
    apply eq_of_forall_le_iff
    intro x
    have shifted : (2 : ℚ) ^ x ≤ 2 ^ k * |q| ↔ (2 : ℚ) ^ (x - k) ≤ |q| := by
      rw [zpow_sub₀ (by norm_num), div_le_iff₀' power]
    have left := Int.zpow_le_iff_le_log (b := 2) (x := x) (by decide) (mul_pos power magnitude)
    have right := Int.zpow_le_iff_le_log (b := 2) (x := x - k) (by decide) magnitude
    rw [abs_mul, abs_of_pos power, ← left, Nat.cast_ofNat, shifted]
    rw [Nat.cast_ofNat] at right
    rw [right]
    omega
  have spaced : spacing (2 ^ k * q) = 2 ^ k * spacing q := by
    rw [spacing, spacing, exponent, ← zpow_add₀ (by norm_num)]
    congr 1
    ring
  rw [single, spaced, mul_div_mul_left _ _ power.ne', single]
  ring

end LoraEval.Core
