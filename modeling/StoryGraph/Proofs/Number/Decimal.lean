import Mathlib.Tactic.Ring
import StoryGraph.Number.Decimal
import StoryGraph.Proofs.Number.Rounding

/-!
# Reading decimals back

The binary number that a decimal is read as depends on the value of the decimal
alone, so zeros may be appended to its digits.  The shortest decimal of a binary
number is read as that number: the search only answers what it has read back,
and the magnitude written out in full, which stands in when the search finds
nothing, is far from both bounds on the exponent.
-/

namespace StoryGraph

theorem decimalLength_le_iff {number length : Nat} (hpositive : 0 < length) :
    decimalLength number ≤ length ↔ number < 10 ^ length :=
  Nat.length_toDigits_le_iff (by decide) hpositive

theorem decimalLength_mul_ten {number : Nat} (hpositive : 0 < number) :
    decimalLength (number * 10) = decimalLength number + 1 := by
  rw [decimalLength, Nat.toDigits_of_base_le (by decide) (by omega),
    Nat.mul_div_cancel _ (by decide), List.length_append, List.length_singleton,
    decimalLength]

theorem decimalLength_mul_pow {number : Nat} (hpositive : 0 < number)
    (zeros : Nat) :
    decimalLength (number * 10 ^ zeros) = decimalLength number + zeros := by
  induction zeros with
  | zero => rw [Nat.pow_zero, Nat.mul_one, Nat.add_zero]
  | succ zeros ih =>
    rw [Nat.pow_succ, ← Nat.mul_assoc,
      decimalLength_mul_ten (Nat.mul_pos hpositive (Nat.pow_pos (by decide))),
      ih, Nat.add_assoc]

/-- A nearest number has the sign that is asked for. -/
theorem Binary64.ofQuotient_of_positive {numerator denominator mantissa : Nat}
    {exponent : Int} {canonical : CanonicalScale mantissa exponent}
    (hnearest : ofQuotient false numerator denominator =
      .finite false mantissa exponent canonical) (negative : Bool) :
    ofQuotient negative numerator denominator =
      .finite negative mantissa exponent canonical := by
  simp only [ofQuotient] at hnearest ⊢
  split_ifs at hnearest ⊢ <;> cases hnearest <;> rfl

namespace Decimal

/-- The decimal exponent of a decimal, by which the reader sorts out numbers
that are too large or too small. -/
def place (decimal : Decimal) : Int :=
  decimal.exponent + decimalLength decimal.digits

theorem toBinary64_eq (negative : Bool) (decimal : Decimal) :
    decimal.toBinary64 negative =
      if decimal.digits = 0 ∨ decimal.place < -exponentBound then
        .signedZero negative
      else if exponentBound < decimal.place then .infinity negative
      else .ofQuotient negative (decimal.digits * 10 ^ decimal.exponent.toNat)
        (10 ^ (-decimal.exponent).toNat) := by
  simp only [toBinary64, place, Bool.or_eq_true, decide_eq_true_eq]
  refine if_congr Iff.rfl rfl (if_congr Iff.rfl rfl ?_)
  split
  · next hwhole =>
    rw [Int.toNat_of_nonpos (Int.neg_nonpos_of_nonneg hwhole)]
    rfl
  · next hfraction =>
    rw [Int.toNat_of_nonpos (Int.le_of_lt (Int.lt_of_not_ge hfraction)),
      Nat.pow_zero, Nat.mul_one]
    rfl

/-- Zeros behind the digits count in the exponent as well. -/
theorem toBinary64_zeros (negative : Bool) (digits zeros : Nat)
    (exponent : Int) :
    toBinary64 negative ⟨digits * 10 ^ zeros, exponent⟩ =
      toBinary64 negative ⟨digits, exponent + zeros⟩ := by
  rcases Nat.eq_zero_or_pos digits with rfl | hpositive
  · simp [toBinary64_eq]
  · have hplace : place ⟨digits * 10 ^ zeros, exponent⟩ =
        place ⟨digits, exponent + zeros⟩ := by
      simp only [place, decimalLength_mul_pow hpositive]
      omega
    have hzero : (digits * 10 ^ zeros = 0) = (digits = 0) := by simp
    have hpowers : zeros + exponent.toNat + (-(exponent + zeros)).toNat =
        (exponent + zeros).toNat + (-exponent).toNat := by omega
    have hequal :
        digits * 10 ^ zeros * 10 ^ exponent.toNat *
          10 ^ (-(exponent + zeros)).toNat = digits *
            10 ^ (exponent + zeros).toNat * 10 ^ (-exponent).toNat := by
      simp only [Nat.mul_assoc, ← Nat.pow_add]
      rw [hpowers]
    simp only [toBinary64_eq, hplace, hzero]
    rw [Binary64.ofQuotient_congr negative (Nat.pow_pos (by decide))
      (Nat.pow_pos (by decide)) hequal]

theorem toBinary64_of_positive {decimal : Decimal} {mantissa : Nat}
    {exponent : Int} {canonical : CanonicalScale mantissa exponent}
    (hread : decimal.toBinary64 false =
      .finite false mantissa exponent canonical) (negative : Bool) :
    decimal.toBinary64 negative =
      .finite negative mantissa exponent canonical := by
  rw [toBinary64_eq] at hread ⊢
  split_ifs at hread ⊢
  · cases hread
    rfl
  · exact Binary64.ofQuotient_of_positive hread negative

/-! ## Normal form -/

theorem toBinary64_normalize (negative : Bool) (decimal : Decimal) :
    decimal.normalize.toBinary64 negative = decimal.toBinary64 negative := by
  fun_induction normalize decimal with
  | case1 decimal hzero => simp [toBinary64_eq, hzero]
  | case2 decimal hzero hround ih =>
    have hdigits : decimal.digits / 10 * 10 ^ 1 = decimal.digits := by omega
    have hzeros :=
      toBinary64_zeros negative (decimal.digits / 10) 1 decimal.exponent
    rw [hdigits] at hzeros
    exact ih.trans hzeros.symm
  | case3 => rfl

/-- Zero has a single normal form. -/
theorem exponent_normalize {decimal : Decimal}
    (hzero : decimal.normalize.digits = 0) :
    decimal.normalize.exponent = 0 := by
  fun_induction normalize decimal with
  | case1 => rfl
  | case2 decimal _ _ ih => exact ih hzero
  | case3 decimal hdigits => exact absurd hzero hdigits

/-! ## The shortest decimal -/

theorem ten_pow_le_five_pow {power more : Nat} (hpower : power ≤ 2 * more) :
    10 ^ power ≤ 5 ^ (more + power) := by
  calc 10 ^ power
      = 2 ^ power * 5 ^ power := Nat.mul_pow 2 5 _
    _ ≤ 2 ^ (2 * more) * 5 ^ power :=
      Nat.mul_le_mul_right _ (Nat.pow_le_pow_right (by decide) hpower)
    _ = (2 ^ 2) ^ more * 5 ^ power := by rw [Nat.pow_mul]
    _ ≤ 5 ^ more * 5 ^ power :=
      Nat.mul_le_mul_right _ (Nat.pow_le_pow_left (by decide) more)
    _ = 5 ^ (more + power) := (Nat.pow_add _ _ _).symm

/-- The digits of a magnitude that is written out in full lie well within the
bounds of the reader. -/
theorem place_exact {mantissa : Nat} {exponent : Int} (hpositive : 0 < mantissa)
    (canonical : CanonicalScale mantissa exponent) :
    -exponentBound ≤ (exact mantissa exponent).place ∧
      (exact mantissa exponent).place ≤ exponentBound := by
  obtain ⟨hleast, hgreatest, hbound, -⟩ := canonical
  unfold exact place exponentBound
  split
  · next hwhole =>
    have hdigits : mantissa * 2 ^ exponent.toNat < 10 ^ 400 := by
      calc mantissa * 2 ^ exponent.toNat
          < 0x20000000000000 * 2 ^ exponent.toNat :=
            Nat.mul_lt_mul_of_pos_right hbound (Nat.pow_pos (by decide))
        _ ≤ 0x20000000000000 * 2 ^ 971 :=
            Nat.mul_le_mul_left _ (Nat.pow_le_pow_right (by decide) (by omega))
        _ ≤ 10 ^ 400 := by decide +kernel
    have hlength : decimalLength (mantissa * Nat.pow 2 exponent.toNat) ≤ 400 :=
      (decimalLength_le_iff (by decide)).mpr hdigits
    simp only
    omega
  · next hfraction =>
    obtain ⟨power, rfl⟩ : ∃ power : Nat, exponent = -(power : Int) :=
      ⟨(-exponent).toNat, by omega⟩
    have hpower : power ≤ 1074 := by omega
    rw [neg_neg, Int.toNat_natCast]
    have hmost : mantissa * 5 ^ power < 10 ^ (16 + power) := by
      calc mantissa * 5 ^ power
          < 0x20000000000000 * 5 ^ power :=
            Nat.mul_lt_mul_of_pos_right hbound (Nat.pow_pos (by decide))
        _ ≤ 10 ^ 16 * 10 ^ power :=
            Nat.mul_le_mul (by decide) (Nat.pow_le_pow_left (by decide) _)
        _ = 10 ^ (16 + power) := (Nat.pow_add _ _ _).symm
    have hmore : decimalLength (mantissa * Nat.pow 5 power) ≤ 16 + power :=
      (decimalLength_le_iff (by omega)).mpr hmost
    have hless : power ≤ decimalLength (mantissa * Nat.pow 5 power) + 400 := by
      by_contra hshort
      obtain ⟨rest, rfl⟩ : ∃ rest, power = 400 + (rest + 1) :=
        ⟨power - 401, by omega⟩
      have hfew :=
        (@decimalLength_le_iff (mantissa * Nat.pow 5 (400 + (rest + 1))) _
          (Nat.succ_pos rest)).mp (by omega)
      have hmany : 10 ^ (rest + 1) ≤ mantissa * 5 ^ (400 + (rest + 1)) := by
        calc 10 ^ (rest + 1)
            ≤ 5 ^ (400 + (rest + 1)) := ten_pow_le_five_pow (by omega)
          _ ≤ mantissa * 5 ^ (400 + (rest + 1)) :=
            Nat.le_mul_of_pos_left _ hpositive
      exact absurd hfew (Nat.not_lt.mpr hmany)
    simp only
    omega

theorem toBinary64_exact (negative : Bool) {mantissa : Nat} {exponent : Int}
    (canonical : CanonicalScale mantissa exponent) :
    (exact mantissa exponent).toBinary64 negative =
      .finite negative mantissa exponent canonical := by
  rcases Nat.eq_zero_or_pos mantissa with rfl | hpositive
  · obtain rfl := canonical.2.2.2 (by decide)
    have hzero : (exact 0 (-1074)).digits = 0 := Nat.zero_mul _
    rw [toBinary64_eq, if_pos (.inl hzero)]
    rfl
  · obtain ⟨hlow, hhigh⟩ := place_exact hpositive canonical
    have hdigits : (exact mantissa exponent).digits ≠ 0 := by
      unfold exact
      split
      · exact Nat.mul_ne_zero (Nat.ne_of_gt hpositive)
          (Nat.ne_of_gt (Nat.pow_pos (by decide)))
      · exact Nat.mul_ne_zero (Nat.ne_of_gt hpositive)
          (Nat.ne_of_gt (Nat.pow_pos (by decide)))
    rw [toBinary64_eq, if_neg (by omega), if_neg (by omega),
      ← Binary64.ofQuotient_magnitude negative canonical]
    apply Binary64.ofQuotient_congr negative (Nat.pow_pos (by decide))
      (Binary64.denominator_positive _ _)
    unfold exact Binary64.magnitude
    split
    · simp
    · next hfraction =>
      have hwhole : exponent.toNat = 0 := by omega
      have htens : (5 * 2) ^ (-exponent).toNat =
          5 ^ (-exponent).toNat * 2 ^ (-exponent).toNat :=
        Nat.mul_pow 5 2 _
      simp only [hwhole, Nat.pow_zero, Nat.mul_one, Nat.pow_eq, Nat.mul_assoc,
        ← htens]

/-- The shortest decimal of a number is read as the number. -/
theorem toBinary64_shortest (negative : Bool) {mantissa : Nat} {exponent : Int}
    (canonical : CanonicalScale mantissa exponent) :
    (shortest mantissa exponent canonical).toBinary64 negative =
      .finite negative mantissa exponent canonical := by
  rw [shortest, toBinary64_normalize]
  cases hfound : (List.range digitLimit).findSome? fun (precision : Nat) =>
      (neighbours (Binary64.magnitude mantissa exponent).1
        (Binary64.magnitude mantissa exponent).2
        (quotientLog10 (Binary64.magnitude mantissa exponent).1
          (Binary64.magnitude mantissa exponent).2 - precision)).find?
            fun decimal =>
              toBinary64 false decimal =
                .finite false mantissa exponent canonical with
  | none => exact toBinary64_exact negative canonical
  | some decimal =>
    obtain ⟨precision, -, hsearch⟩ := List.exists_of_findSome?_eq_some hfound
    have hread := List.find?_some hsearch
    exact toBinary64_of_positive (of_decide_eq_true hread) negative

end Decimal

end StoryGraph
