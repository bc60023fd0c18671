import Mathlib.Algebra.Order.Field.Power
import Mathlib.Data.Rat.Floor
import Mathlib.Tactic.FieldSimp
import Mathlib.Tactic.Linarith
import Mathlib.Tactic.Positivity
import MonitoringUpkeep.Number.Binary64

/-!
# Rounding to the format

A positive rational lies between two powers of two, and its last bit in the format is worth the lower one
of them, divided by the fifty-second power of two. The nearest number of the format is off by half of that
at most, so a rational well inside the range of the format is rounded to a finite number close to it.
-/

namespace MonitoringUpkeep

namespace Rounding

theorem pow2_eq (e : Int) : pow2 e = (2 : ℚ) ^ e := by
  by_cases natural : 0 ≤ e
  · obtain ⟨n, rfl⟩ := Int.eq_ofNat_of_zero_le natural
    simp [pow2]
  · obtain ⟨n, rfl⟩ := Int.exists_eq_neg_ofNat (Int.le_of_lt (Int.not_le.mp natural))
    rw [pow2, if_neg natural]
    simp [Rat.mkRat_eq_div]

/-- The nearest integer is off by one half at most. -/
theorem abs_halfEven_sub_le (q : ℚ) : |(halfEven q : ℚ) - q| ≤ 1 / 2 := by
  have low : (q.floor : ℚ) ≤ q := Rat.floor_le q
  have high : q < q.floor + 1 := by exact_mod_cast Rat.lt_floor_add_one q
  have half : mkRat 1 2 = 1 / 2 := Rat.mkRat_eq_div 1 2
  rw [abs_le]
  simp only [halfEven, half]
  split_ifs <;> push_cast <;> constructor <;> linarith

/-- A positive natural number lies between the power of two of its logarithm and the next one. -/
theorem log2_spec {n : Nat} (positive : n ≠ 0) :
    (2 : ℚ) ^ (n.log2 : ℤ) ≤ n ∧ (n : ℚ) < (2 : ℚ) ^ (n.log2 + 1 : ℤ) := by
  constructor
  · exact_mod_cast Nat.log2_self_le positive
  · exact_mod_cast Nat.lt_log2_self

/-- A positive rational lies between the power of two of its exponent and the next one. -/
theorem floorLog2_spec {q : ℚ} (positive : 0 < q) :
    (2 : ℚ) ^ floorLog2 q ≤ q ∧ q < (2 : ℚ) ^ (floorLog2 q + 1) := by
  have top : 0 < q.num := Rat.num_pos.mpr positive
  have whole : q = q.num.natAbs / q.den := by
    rw [Nat.cast_natAbs, abs_of_pos top, Rat.num_div_den]
  obtain ⟨low, high⟩ := log2_spec (Int.natAbs_ne_zero.mpr top.ne')
  obtain ⟨low', high'⟩ := log2_spec q.den_ne_zero
  have above : q < (2 : ℚ) ^ ((q.num.natAbs.log2 : ℤ) - q.den.log2 + 1) :=
    calc q = q.num.natAbs / q.den := whole
      _ < (2 : ℚ) ^ (q.num.natAbs.log2 + 1 : ℤ) / (2 : ℚ) ^ (q.den.log2 : ℤ) :=
        div_lt_div₀ high low' (by positivity) (by positivity)
      _ = (2 : ℚ) ^ ((q.num.natAbs.log2 : ℤ) - q.den.log2 + 1) := by
        rw [← zpow_sub₀ two_ne_zero, sub_add_eq_add_sub]
  have below : (2 : ℚ) ^ ((q.num.natAbs.log2 : ℤ) - q.den.log2 - 1) ≤ q :=
    calc (2 : ℚ) ^ ((q.num.natAbs.log2 : ℤ) - q.den.log2 - 1)
        = (2 : ℚ) ^ (q.num.natAbs.log2 : ℤ) / (2 : ℚ) ^ (q.den.log2 + 1 : ℤ) := by
          rw [← zpow_sub₀ two_ne_zero, sub_sub]
      _ ≤ q.num.natAbs / q.den :=
        div_le_div₀ (by positivity) low (by exact_mod_cast q.den_pos) high'.le
      _ = q := whole.symm
  simp only [floorLog2, pow2_eq]
  split_ifs with less
  · exact ⟨below, by simpa using less⟩
  · exact ⟨not_lt.mp less, above⟩

/-- A rational with room for all bits of the format is rounded by half of the last of them at most. -/
theorem abs_nearest_sub_le {q : ℚ} (normal : (2 : ℚ) ^ (-1022 : ℤ) ≤ q) :
    |nearest q - q| ≤ q / 2 ^ 53 := by
  have positive : 0 < q := lt_of_lt_of_le (by positivity) normal
  obtain ⟨low, high⟩ := floorLog2_spec positive
  have room : -1022 < floorLog2 q + 1 :=
    (zpow_lt_zpow_iff_right₀ one_lt_two).mp (normal.trans_lt high)
  have bit : lastBit q = floorLog2 q - 52 := max_eq_left (by omega)
  have unit : (2 : ℚ) ^ (floorLog2 q - 52) * 2 ^ 52 ≤ q := by
    rw [zpow_sub₀ two_ne_zero]
    exact (div_mul_cancel₀ _ (by positivity)).trans_le low
  have known : nearest q =
      halfEven (q / (2 : ℚ) ^ (floorLog2 q - 52)) * (2 : ℚ) ^ (floorLog2 q - 52) := by
    simp only [nearest, if_neg positive.ne', if_neg positive.not_gt, bit, pow2_eq]
  have above : (0 : ℚ) < (2 : ℚ) ^ (floorLog2 q - 52) := by positivity
  rw [known]
  generalize (2 : ℚ) ^ (floorLog2 q - 52) = u at unit above
  have scaled : (halfEven (q / u) : ℚ) * u - q = (halfEven (q / u) - q / u) * u := by
    field_simp
  calc |(halfEven (q / u) : ℚ) * u - q| = |(halfEven (q / u) : ℚ) - q / u| * u := by
        rw [scaled, abs_mul, abs_of_pos above]
    _ ≤ 1 / 2 * u := mul_le_mul_of_nonneg_right (abs_halfEven_sub_le _) above.le
    _ ≤ q / 2 ^ 53 := by
      rw [le_div_iff₀ (by positivity)]
      linarith

end Rounding

namespace Binary64
open Rounding

/-- A rational well inside the range of the format is rounded to a finite number close to it. -/
theorem exists_ofRat {q : ℚ} (normal : (2 : ℚ) ^ (-1022 : ℤ) ≤ q) (small : q < 2 ^ 1023) :
    ∃ p, ofRat q = .finite p ∧ |p - q| ≤ q / 2 ^ 53 := by
  have positive : 0 < q := lt_of_lt_of_le (by positivity) normal
  have near := abs_nearest_sub_le normal
  obtain ⟨least, most⟩ := abs_le.mp near
  have slack : q / 2 ^ 53 ≤ q := div_le_self positive.le (by norm_num)
  obtain ⟨half, range, below⟩ : ∃ half : ℚ, limit = 2 * half ∧ q < half := by
    refine ⟨2 ^ 1023, ?_, small⟩
    rw [limit, pow2_eq, ← pow_succ', ← zpow_natCast]
    rfl
  have high : ¬ limit ≤ nearest q := by
    rw [range]
    linarith
  have low : ¬ nearest q ≤ -limit := by
    rw [range]
    linarith
  exact ⟨nearest q, by rw [ofRat, if_neg high, if_neg low], near⟩

end Binary64

end MonitoringUpkeep
