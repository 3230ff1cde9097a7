import Mathlib.Algebra.Order.Field.Power
import Mathlib.Data.Int.Log
import Mathlib.Data.Rat.Floor
import Mathlib.Tactic.Positivity
import StoryGraph.Number.Binary64

/-!
# Rounding to the binary format

The number nearest to a quotient depends on the value of the quotient alone, and
a quotient that is a number of the format is that number.
-/

namespace StoryGraph.Binary64

/-! ## The binary logarithm of a quotient -/

/-- A quotient reaches a power of two when it does so in whole numbers. -/
theorem reaches_iff {numerator denominator : Nat} (hpositive : 0 < denominator)
    (exponent : Int) :
    (if 0 ≤ exponent then denominator * Nat.pow 2 exponent.toNat ≤ numerator
      else denominator ≤ numerator * Nat.pow 2 (-exponent).toNat) ↔
      (2 : ℚ) ^ exponent ≤ numerator / denominator := by
  have hdenominator : (0 : ℚ) < denominator := by exact_mod_cast hpositive
  rw [le_div_iff₀ hdenominator]
  split
  · next hexponent =>
    obtain ⟨power, rfl⟩ := Int.eq_ofNat_of_zero_le hexponent
    rw [Int.toNat_natCast, zpow_natCast, mul_comm]
    exact_mod_cast Iff.rfl
  · next hexponent =>
    obtain ⟨power, hpower⟩ :=
      Int.eq_ofNat_of_zero_le (show 0 ≤ -exponent by omega)
    have hneg : exponent = -(power : Int) := by omega
    have hscale : (0 : ℚ) < 2 ^ power := by positivity
    rw [hpower, Int.toNat_natCast, hneg, zpow_neg, zpow_natCast,
      inv_mul_le_iff₀ hscale, mul_comm]
    exact_mod_cast Iff.rfl

theorem log_eq_of_bounds {value : ℚ} {exponent : Int}
    (hlow : (2 : ℚ) ^ exponent ≤ value)
    (hhigh : value < (2 : ℚ) ^ (exponent + 1)) :
    Int.log 2 value = exponent := by
  have hpositive : 0 < value := lt_of_lt_of_le (by positivity) hlow
  have hle :=
    (Int.zpow_le_iff_le_log Nat.one_lt_two hpositive).mp
      (by exact_mod_cast hlow)
  have hlt :=
    (Int.lt_zpow_iff_log_lt Nat.one_lt_two hpositive).mp
      (by exact_mod_cast hhigh)
  omega

/-- The value of a quotient is less than twice, and more than half the quotient
of the leading powers of two. -/
theorem quotient_bounds {numerator denominator : Nat}
    (hnumerator : 0 < numerator) (hdenominator : 0 < denominator) :
    (2 : ℚ) ^ ((numerator.log2 : Int) - denominator.log2 - 1) ≤
      numerator / denominator ∧
      (numerator : ℚ) / denominator <
        2 ^ ((numerator.log2 : Int) - denominator.log2 + 1) := by
  have hlow : (2 : ℚ) ^ numerator.log2 ≤ numerator := by
    exact_mod_cast Nat.log2_self_le (Nat.ne_of_gt hnumerator)
  have hhigh : (numerator : ℚ) < 2 ^ (numerator.log2 + 1) := by
    exact_mod_cast Nat.lt_log2_self
  have hbelow : (2 : ℚ) ^ denominator.log2 ≤ denominator := by
    exact_mod_cast Nat.log2_self_le (Nat.ne_of_gt hdenominator)
  have habove : (denominator : ℚ) ≤ 2 ^ (denominator.log2 + 1) := by
    exact_mod_cast Nat.lt_log2_self.le
  have hpositive : (0 : ℚ) < denominator := by exact_mod_cast hdenominator
  constructor
  · rw [le_div_iff₀ hpositive]
    calc (2 : ℚ) ^ ((numerator.log2 : Int) - denominator.log2 - 1) * denominator
        ≤ 2 ^ ((numerator.log2 : Int) - denominator.log2 - 1) *
          2 ^ (denominator.log2 + 1) := by
            gcongr
      _ = 2 ^ numerator.log2 := by
          rw [← zpow_natCast, ← zpow_natCast, ← zpow_add₀ two_ne_zero]
          congr 1
          push_cast
          ring
      _ ≤ numerator := hlow
  · rw [div_lt_iff₀ hpositive]
    calc (numerator : ℚ) < 2 ^ (numerator.log2 + 1) := hhigh
      _ = 2 ^ ((numerator.log2 : Int) - denominator.log2 + 1) *
          2 ^ denominator.log2 := by
            rw [← zpow_natCast, ← zpow_natCast, ← zpow_add₀ two_ne_zero]
            congr 1
            push_cast
            ring
      _ ≤ 2 ^ ((numerator.log2 : Int) - denominator.log2 + 1) *
          denominator := by gcongr

theorem quotientLog2_eq_log {numerator denominator : Nat}
    (hnumerator : 0 < numerator) (hdenominator : 0 < denominator) :
    quotientLog2 numerator denominator =
      Int.log 2 ((numerator : ℚ) / denominator) := by
  obtain ⟨hlow, hhigh⟩ := quotient_bounds hnumerator hdenominator
  have hreaches :=
    @reaches_iff numerator _ hdenominator (numerator.log2 - denominator.log2)
  simp only [quotientLog2]
  generalize (numerator.log2 : Int) - denominator.log2 = estimate at *
  by_cases hle : (2 : ℚ) ^ estimate ≤ numerator / denominator
  · rw [if_pos (hreaches.mpr hle)]
    exact (log_eq_of_bounds hle hhigh).symm
  · rw [if_neg fun hreached => hle (hreaches.mp hreached)]
    refine (log_eq_of_bounds hlow ?_).symm
    rw [sub_add_cancel]
    exact not_le.mp hle

theorem quotientLog2_mul {numerator denominator factor : Nat}
    (hnumerator : 0 < numerator) (hdenominator : 0 < denominator)
    (hfactor : 0 < factor) :
    quotientLog2 (numerator * factor) (denominator * factor) =
      quotientLog2 numerator denominator := by
  rw [quotientLog2_eq_log (Nat.mul_pos hnumerator hfactor)
    (Nat.mul_pos hdenominator hfactor),
    quotientLog2_eq_log hnumerator hdenominator]
  have hne : (factor : ℚ) ≠ 0 := by exact_mod_cast Nat.ne_of_gt hfactor
  push_cast
  rw [mul_div_mul_right _ _ hne]

/-! ## The nearest number -/

theorem roundQuotient_mul {factor : Nat} (hfactor : 0 < factor)
    (numerator denominator : Nat) :
    roundQuotient (numerator * factor) (denominator * factor) =
      roundQuotient numerator denominator := by
  have hless :
      ∀ first second : Nat, first * factor < second * factor ↔ first < second :=
    fun _ _ => Nat.mul_lt_mul_right hfactor
  simp only [roundQuotient, Nat.mul_div_mul_right _ _ hfactor,
    Nat.mul_mod_mul_right, ← Nat.mul_assoc, hless]

theorem roundQuotient_of_exact {denominator : Nat} (hpositive : 0 < denominator)
    (number : Nat) :
    roundQuotient (number * denominator) denominator = number := by
  simp [roundQuotient, Nat.mul_div_cancel _ hpositive, hpositive]

theorem ofQuotient_mul (negative : Bool) {factor : Nat} (hfactor : 0 < factor)
    (numerator : Nat) {denominator : Nat} (hpositive : 0 < denominator) :
    ofQuotient negative (numerator * factor) (denominator * factor) =
      ofQuotient negative numerator denominator := by
  rcases Nat.eq_zero_or_pos numerator with rfl | hnumerator
  · simp [ofQuotient]
  · have hzero : (numerator * factor = 0) = (numerator = 0) := by
      simp [Nat.ne_of_gt hfactor]
    have hscaled (power : Nat) : denominator * factor * Nat.pow 2 power =
        denominator * Nat.pow 2 power * factor := Nat.mul_right_comm _ _ _
    have hscaledUp (power : Nat) : numerator * factor * Nat.pow 2 power =
        numerator * Nat.pow 2 power * factor := Nat.mul_right_comm _ _ _
    simp only [ofQuotient, hzero, quotientLog2_mul hnumerator hpositive hfactor,
      hscaled, hscaledUp, roundQuotient_mul hfactor]

/-- Equal quotients have the same nearest number. -/
theorem ofQuotient_congr (negative : Bool)
    {numerator denominator otherNumerator otherDenominator : Nat}
    (hpositive : 0 < denominator) (hother : 0 < otherDenominator)
    (hequal : numerator * otherDenominator = otherNumerator * denominator) :
    ofQuotient negative numerator denominator =
      ofQuotient negative otherNumerator otherDenominator := by
  rw [← ofQuotient_mul negative hother numerator hpositive, hequal,
    Nat.mul_comm denominator,
    ofQuotient_mul negative hpositive otherNumerator hother]

/-! ## Numbers of the format -/

theorem denominator_positive (mantissa : Nat) (exponent : Int) :
    0 < (magnitude mantissa exponent).2 := by
  unfold magnitude
  split
  · exact Nat.one_pos
  · exact Nat.pow_pos (by decide)

theorem numerator_positive {mantissa : Nat} (hpositive : 0 < mantissa)
    (exponent : Int) : 0 < (magnitude mantissa exponent).1 := by
  unfold magnitude
  split
  · exact Nat.mul_pos hpositive (Nat.pow_pos (by decide))
  · exact hpositive

theorem magnitude_value (mantissa : Nat) (exponent : Int) :
    ((magnitude mantissa exponent).1 : ℚ) / (magnitude mantissa exponent).2 =
      mantissa * 2 ^ exponent := by
  unfold magnitude
  split
  · next hexponent =>
    obtain ⟨power, rfl⟩ := Int.eq_ofNat_of_zero_le hexponent
    simp
  · next hexponent =>
    obtain ⟨power, hpower⟩ :=
      Int.eq_ofNat_of_zero_le (show 0 ≤ -exponent by omega)
    have hneg : exponent = -(power : Int) := by omega
    rw [hpower, Int.toNat_natCast, hneg, zpow_neg, zpow_natCast, div_eq_mul_inv]
    simp

theorem quotientLog2_magnitude {mantissa : Nat} (hpositive : 0 < mantissa)
    (exponent : Int) :
    quotientLog2 (magnitude mantissa exponent).1
      (magnitude mantissa exponent).2 =
      mantissa.log2 + exponent := by
  have hlow : (2 : ℚ) ^ mantissa.log2 ≤ mantissa := by
    exact_mod_cast Nat.log2_self_le (Nat.ne_of_gt hpositive)
  have hhigh : (mantissa : ℚ) < 2 ^ (mantissa.log2 + 1) := by
    exact_mod_cast Nat.lt_log2_self
  rw [quotientLog2_eq_log (numerator_positive hpositive _)
    (denominator_positive _ _), magnitude_value]
  apply log_eq_of_bounds
  · rw [zpow_add₀ two_ne_zero, zpow_natCast]
    gcongr
  · rw [add_right_comm, zpow_add₀ two_ne_zero, ← Nat.cast_succ, zpow_natCast]
    gcongr

/-- A number of the format is the nearest one to its own value. -/
theorem ofQuotient_magnitude (negative : Bool) {mantissa : Nat} {exponent : Int}
    (canonical : CanonicalScale mantissa exponent) :
    ofQuotient negative (magnitude mantissa exponent).1
      (magnitude mantissa exponent).2 =
      .finite negative mantissa exponent canonical := by
  have hscale := canonical
  obtain ⟨hleast, -, hbound, hshort⟩ := hscale
  rcases Nat.eq_zero_or_pos mantissa with rfl | hpositive
  · obtain rfl := hshort (by decide)
    rfl
  · have hexponent : max (-1074) (quotientLog2 (magnitude mantissa exponent).1
        (magnitude mantissa exponent).2 - 52) = exponent := by
      have hlog : mantissa.log2 < 53 :=
        (Nat.log2_lt (Nat.ne_of_gt hpositive)).mpr hbound
      have hlong : mantissa.log2 < 52 → exponent = -1074 := fun hless =>
        hshort ((Nat.log2_lt (Nat.ne_of_gt hpositive)).mp hless)
      rw [quotientLog2_magnitude hpositive]
      omega
    have hnumerator : (magnitude mantissa exponent).1 ≠ 0 :=
      Nat.ne_of_gt (numerator_positive hpositive exponent)
    have hmantissa :
        (if 0 ≤ exponent then
          roundQuotient (magnitude mantissa exponent).1
          ((magnitude mantissa exponent).2 * Nat.pow 2 exponent.toNat)
            else
              roundQuotient ((magnitude mantissa exponent).1 *
                Nat.pow 2 (-exponent).toNat) (magnitude mantissa exponent).2) =
                  mantissa := by
      unfold magnitude
      split
      · rw [Nat.one_mul]
        exact roundQuotient_of_exact (Nat.pow_pos (by decide)) mantissa
      · exact roundQuotient_of_exact (Nat.pow_pos (by decide)) mantissa
    simp only [ofQuotient, if_neg hnumerator, hexponent, hmantissa,
      dif_pos canonical]

end StoryGraph.Binary64
