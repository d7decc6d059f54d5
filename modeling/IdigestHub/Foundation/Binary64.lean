import Mathlib.Data.Int.Log
import Mathlib.Data.Rat.Floor
import Mathlib.Tactic.Linarith
import Mathlib.Tactic.Positivity

/-! The nearest double of a rational number. There is no largest exponent here: nothing is near an infinity. -/

set_option autoImplicit false

namespace Foundation.Binary64

/-- The nearest integer; of two that are as near, the even one. -/
def roundEven (x : ℚ) : ℤ :=
  if x - ⌊x⌋ < 1 / 2 then ⌊x⌋
  else if 1 / 2 < x - ⌊x⌋ then ⌊x⌋ + 1
  else if ⌊x⌋ % 2 = 0 then ⌊x⌋ else ⌊x⌋ + 1

/-- The exponent of the last bit of a double near `x`, which has 53 bits or is subnormal. -/
def exponent (x : ℚ) : ℤ := max (Int.log 2 |x| - 52) (-1074)

def round (x : ℚ) : ℚ := roundEven (x / 2 ^ exponent x) * 2 ^ exponent x

variable {x y : ℚ} {n : ℤ}

section Integers

theorem floor_le_roundEven (x : ℚ) : ⌊x⌋ ≤ roundEven x := by
  unfold roundEven
  split_ifs <;> omega

theorem roundEven_le (x : ℚ) : roundEven x ≤ ⌊x⌋ + 1 := by
  unfold roundEven
  split_ifs <;> omega

theorem abs_roundEven_sub_le (x : ℚ) : |(roundEven x : ℚ) - x| ≤ 1 / 2 := by
  have low := Int.floor_le x
  have high := Int.lt_floor_add_one x
  unfold roundEven
  rw [abs_le]
  split_ifs <;> push_cast <;> constructor <;> linarith

theorem roundEven_mono (le : x ≤ y) : roundEven x ≤ roundEven y := by
  rcases (Int.floor_mono le).lt_or_eq with less | same
  · exact (roundEven_le x).trans (Int.add_one_le_iff.mpr less |>.trans (floor_le_roundEven y))
  · -- between the same two integers the fractions decide
    unfold roundEven
    rw [same]
    split_ifs <;> first | omega | linarith

theorem roundEven_of_near (near : |x - n| < 1 / 2) : roundEven x = n := by
  have half := abs_roundEven_sub_le x
  have close : |((roundEven x - n : ℤ) : ℚ)| < 1 := by
    calc |((roundEven x - n : ℤ) : ℚ)| = |(roundEven x - x) + (x - n)| := by push_cast; ring_nf
      _ ≤ |(roundEven x : ℚ) - x| + |x - n| := abs_add_le ..
      _ < 1 := by linarith
  have zero : roundEven x - n = 0 := Int.abs_lt_one_iff.mp (by exact_mod_cast close)
  omega

@[simp] theorem roundEven_intCast (n : ℤ) : roundEven n = n := roundEven_of_near (by norm_num)

end Integers

section Doubles

theorem unit_pos (e : ℤ) : (0 : ℚ) < 2 ^ e := zpow_pos two_pos e

/-- The error is at most half of the last bit. -/
theorem abs_round_sub_le (x : ℚ) : |round x - x| ≤ 2 ^ exponent x / 2 := by
  have unit := unit_pos (exponent x)
  have scaled : round x - x = (roundEven (x / 2 ^ exponent x) - x / 2 ^ exponent x) * 2 ^ exponent x := by
    rw [round, sub_mul, div_mul_cancel₀ _ unit.ne']
  rw [scaled, abs_mul, abs_of_pos unit]
  calc _ ≤ 1 / 2 * (2 : ℚ) ^ exponent x := mul_le_mul_of_nonneg_right (abs_roundEven_sub_le _) unit.le
    _ = 2 ^ exponent x / 2 := by ring

theorem exponent_le {k : ℤ} (normal : -1021 ≤ k) (small : |x| < 2 ^ k) (nonzero : x ≠ 0) : exponent x ≤ k - 53 := by
  have below : Int.log 2 |x| < k := (Int.lt_zpow_iff_log_lt Nat.one_lt_two (abs_pos.mpr nonzero)).mp (by exact_mod_cast small)
  unfold exponent
  omega

@[simp] theorem round_zero : round 0 = 0 := by simp [round, roundEven]

theorem abs_round_sub_le_of_lt {k : ℤ} (normal : -1021 ≤ k) (small : |x| < 2 ^ k) : |round x - x| ≤ 2 ^ (k - 54) := by
  rcases eq_or_ne x 0 with rfl | nonzero
  · simpa using (unit_pos (k - 54)).le
  · calc |round x - x| ≤ 2 ^ exponent x / 2 := abs_round_sub_le x
      _ ≤ 2 ^ (k - 53) / 2 := by gcongr; exacts [one_le_two, exponent_le normal small nonzero]
      _ = 2 ^ (k - 54) := by rw [show k - 53 = k - 54 + 1 by ring, zpow_add_one₀ two_ne_zero, mul_div_cancel_right₀ _ two_ne_zero]

theorem multiple_of_le {e k : ℤ} (le : e ≤ k) (n : ℤ) : (n * 2 ^ k : ℚ) = ((n * 2 ^ (k - e).toNat : ℤ) : ℚ) * 2 ^ e := by
  push_cast
  rw [mul_assoc, ← zpow_natCast, Int.toNat_of_nonneg (by omega), ← zpow_add₀ two_ne_zero, sub_add_cancel]

theorem round_le {k : ℤ} (coarse : exponent x ≤ k) (le : x ≤ n * 2 ^ k) : round x ≤ n * 2 ^ k := by
  have unit := unit_pos (exponent x)
  rw [multiple_of_le coarse] at le ⊢
  refine mul_le_mul_of_nonneg_right ?_ unit.le
  have rounded := roundEven_mono ((div_le_iff₀ unit).mpr le)
  rw [roundEven_intCast] at rounded
  exact_mod_cast rounded

theorem le_round {k : ℤ} (coarse : exponent x ≤ k) (le : n * 2 ^ k ≤ x) : n * 2 ^ k ≤ round x := by
  have unit := unit_pos (exponent x)
  rw [multiple_of_le coarse] at le ⊢
  refine mul_le_mul_of_nonneg_right ?_ unit.le
  have rounded := roundEven_mono ((le_div_iff₀ unit).mpr le)
  rw [roundEven_intCast] at rounded
  exact_mod_cast rounded

theorem exponent_neg (x : ℚ) : exponent (-x) = exponent x := by rw [exponent, abs_neg, exponent]

theorem pow_between (first : 0 < x) (last : 0 < y) (finer : exponent x < exponent y) :
    ∃ k, exponent x ≤ k ∧ exponent y ≤ k ∧ x ≤ 2 ^ k ∧ 2 ^ k ≤ y := by
  unfold exponent at finer ⊢
  rw [abs_of_pos first, abs_of_pos last] at finer ⊢
  have sizes : Int.log 2 x < Int.log 2 y := by omega
  have above : (2 : ℚ) ^ Int.log 2 y ≤ y := by exact_mod_cast Int.zpow_log_le_self Nat.one_lt_two last
  have below : x < (2 : ℚ) ^ Int.log 2 y := by exact_mod_cast (Int.lt_zpow_iff_log_lt Nat.one_lt_two first).mpr sizes
  exact ⟨Int.log 2 y, by omega, by omega, below.le, above⟩

/-- A multiple of a power of two between two numbers stays between them. -/
theorem round_le_round {k : ℤ} (at_x : exponent x ≤ k) (at_y : exponent y ≤ k) (below : x ≤ n * 2 ^ k) (above : n * 2 ^ k ≤ y) :
    round x ≤ round y := (round_le at_x below).trans (le_round at_y above)

theorem round_mono_of_exponent (same : exponent x = exponent y) (le : x ≤ y) : round x ≤ round y := by
  have unit := unit_pos (exponent y)
  rw [round, round, same]
  refine mul_le_mul_of_nonneg_right ?_ unit.le
  exact_mod_cast roundEven_mono (div_le_div_of_nonneg_right le unit.le)

theorem round_mono : Monotone round := by
  intro x y le
  rcases lt_or_ge 0 x with positive | nonpos
  · have last := positive.trans_le le
    rcases lt_trichotomy (exponent x) (exponent y) with finer | same | coarser
    · obtain ⟨k, at_x, at_y, below, above⟩ := pow_between positive last finer
      exact round_le_round (n := 1) at_x at_y (by simpa using below) (by simpa using above)
    · exact round_mono_of_exponent same le
    · obtain ⟨k, _, _, below, above⟩ := pow_between last positive coarser
      rw [le.antisymm (below.trans above)]
  · rcases lt_or_ge y 0 with negative | nonneg
    · -- the mirror images are in the other order
      have first := neg_pos.mpr (le.trans_lt negative)
      have last := neg_pos.mpr negative
      rcases lt_trichotomy (exponent (-y)) (exponent (-x)) with finer | same | coarser
      · obtain ⟨k, at_y, at_x, below, above⟩ := pow_between last first finer
        rw [exponent_neg] at at_x at_y
        refine round_le_round (n := -1) at_x at_y ?_ ?_ <;> push_cast <;> linarith
      · rw [exponent_neg, exponent_neg] at same
        exact round_mono_of_exponent same.symm le
      · obtain ⟨k, _, _, below, above⟩ := pow_between first last coarser
        rw [le.antisymm (by linarith)]
    · exact round_le_round (n := 0) (le_max_left ..) (le_max_right ..) (by simpa using nonpos) (by simpa using nonneg)

end Doubles

end Foundation.Binary64
