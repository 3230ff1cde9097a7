import StoryGraph.Number.Numeral

/-!
# Digits of written numbers

The decimal digits of a number are read back as the number, with zeros in front
of them or not, and a group of digits ends where something else follows.
-/

namespace StoryGraph.Numeral

open Nat (toDigits ofDigitChars)

/-! ## Groups of digits -/

/-- The characters do not start with a digit. -/
def NoDigit (rest : List Char) : Prop :=
  ∀ character ∈ rest.head?, character.isDigit = false

section Groups

variable {digits rest : List Char}

theorem takeWhile_digits
    (hdigits : ∀ character ∈ digits, character.isDigit = true)
    (hrest : NoDigit rest) :
    (digits ++ rest).takeWhile Char.isDigit = digits := by
  rw [List.takeWhile_append_of_pos hdigits]
  cases rest with
  | nil => simp
  | cons character rest => simp [hrest character rfl]

theorem dropWhile_digits
    (hdigits : ∀ character ∈ digits, character.isDigit = true)
    (hrest : NoDigit rest) :
    (digits ++ rest).dropWhile Char.isDigit = rest := by
  rw [List.dropWhile_append_of_pos hdigits]
  cases rest with
  | nil => rfl
  | cons character rest => simp [hrest character rfl]

end Groups

theorem isDigit_toDigits (number : Nat) :
    ∀ character ∈ toDigits 10 number, character.isDigit = true :=
  fun _ => Nat.isDigit_of_mem_toDigits (by decide) (by decide)

/-- Zeros may stand in front of digits. -/
theorem isDigit_padded (zeros : Nat) {digits : List Char}
    (hdigits : ∀ character ∈ digits, character.isDigit = true) :
    ∀ character ∈ List.replicate zeros '0' ++ digits,
      character.isDigit = true := by
  intro character hmem
  rcases List.mem_append.mp hmem with hmem | hmem
  · rw [List.eq_of_mem_replicate hmem]
    rfl
  · exact hdigits character hmem

/-- The digits of a positive number do not start with a zero. -/
theorem toDigits_leading {number : Nat} (hpositive : 0 < number) :
    ∃ first more, toDigits 10 number = first :: more ∧ first ≠ '0' := by
  induction number using Nat.strongRecOn with
  | ind number ih =>
    rw [Nat.toDigits_eq_if (by decide)]
    split
    · exact ⟨number.digitChar, [], rfl, by simpa using Nat.ne_of_gt hpositive⟩
    · obtain ⟨first, more, hdigits, hfirst⟩ :=
        ih (number / 10) (by omega) (by omega)
      exact ⟨first, more ++ [(number % 10).digitChar], by rw [hdigits]; rfl,
        hfirst⟩

/-! ## The value of digits -/

/-- The number that a group of digits stands for. -/
theorem ofDigits_map (digits : List Char) :
    ofDigits (digits.map fun character => character.toNat - 0x30) =
      ofDigitChars 10 digits 0 := by
  rw [ofDigits, List.foldl_map, Nat.ofDigitChars_eq_foldl]
  rfl

theorem ofDigitChars_padded (zeros : Nat) (digits : List Char) :
    ofDigitChars 10 (List.replicate zeros '0' ++ digits) 0 =
      ofDigitChars 10 digits 0 := by
  rw [Nat.ofDigitChars_append, Nat.ofDigitChars_replicate_zero, Nat.mul_zero]

theorem withSign_natAbs (number : Int) :
    withSign (decide (number < 0)) number.natAbs = number := by
  unfold withSign
  split
  · next hnegative =>
    rw [decide_eq_true_eq] at hnegative
    omega
  · next hpositive =>
    rw [decide_eq_true_eq] at hpositive
    omega

/-! ## Numerals of any length -/

/-- A numeral of so many digits, which are all one. -/
def ones (count : Nat) : String := String.ofList (List.replicate count '1')

theorem ones_succ_ne_empty (count : Nat) : ones (count + 1) ≠ "" := by
  intro hempty
  have hlist := congrArg String.toList hempty
  simp [ones, List.replicate_succ] at hlist

theorem trimNumeral_ones (count : Nat) :
    Text.trimNumeral (ones count) = List.replicate count '1' := by
  have hblank : Text.isNumeralBlank '1' = false := by decide
  rw [Text.trimNumeral, ones, String.toList_ofList, Text.stripList]
  simp [hblank]

theorem sign_ones (count : Nat) :
    sign (List.replicate count '1') = (false, List.replicate count '1') := by
  cases count <;> rfl

theorem groupedDigits_ones (count : Nat) :
    groupedDigits (List.replicate count '1') =
      (List.replicate count 1, []) := by
  have hdigit : Text.digitValue? '1' = some 1 := by decide
  induction count with
  | zero => rfl
  | succ count ih =>
    cases count with
    | zero => decide
    | succ count =>
      rw [groupedDigits] at ih ⊢
      rw [List.replicate_succ, List.replicate_succ, digitRun, hdigit,
        ← List.replicate_succ, ih]
      · rfl
      · simp

theorem signedDigits?_ones (count : Nat) :
    signedDigits? groupedDigits (List.replicate (count + 1) '1') =
      some (false, List.replicate (count + 1) 1) := by
  rw [signedDigits?]
  simp only [sign_ones, groupedDigits_ones]
  rfl

/-- Without the bound, the numeral is that of an integer. -/
theorem integerOf?_ones (count : Nat) :
    integerOf? groupedDigits (Text.trimNumeral (ones (count + 1))) =
      some (ofDigits (List.replicate (count + 1) 1) : Nat) := by
  rw [integerOf?, trimNumeral_ones, signedDigits?_ones]
  rfl

/-- With too many digits, it is not read as an integer. -/
theorem integer?_ones {count : Nat} (hlong : digitBound ≤ count) :
    integer? (ones (count + 1)) = none := by
  rw [integer?, trimNumeral_ones, signedDigits?_ones]
  exact if_neg (by rw [List.length_replicate]; omega)

theorem float?_ones (count : Nat) :
    float? (ones (count + 1)) =
      some (Decimal.toBinary64 false
        ⟨ofDigits (List.replicate (count + 1) 1), 0⟩) := by
  have hword (word : String) (hfirst : word.toList.head? ≠ some '1') :
      (String.ofList ((List.replicate (count + 1) '1').map Char.toLower) ==
        word) =
        false := by
    rw [beq_eq_false_iff_ne]
    rintro rfl
    simp [List.replicate_succ] at hfirst
  simp only [float?, trimNumeral_ones, floatOf?, sign_ones,
    hword "inf" (by decide), hword "infinity" (by decide),
    hword "nan" (by decide), decimal?, groupedDigits_ones, exponent?]
  simp

end StoryGraph.Numeral
