import StoryGraph.Json.Reader
import StoryGraph.Number.Layout
import StoryGraph.Proofs.Number.Decimal
import StoryGraph.Proofs.Number.Digits

/-!
# Reading written numbers

A written number is read as it was, whatever layout it was written in: its
digits are read in groups before the point, behind it and in the exponent, and
each group ends where the digits end.  Floating point numbers always have a
point or an exponent, and so are not taken for integers.
-/

namespace StoryGraph.Json

open Nat (toDigits ofDigitChars)
open Numeral
  (NoDigit takeWhile_digits dropWhile_digits isDigit_toDigits toDigits_leading
    isDigit_padded ofDigitChars_padded withSign_natAbs)

/-- What may follow a written value: nothing, a comma, or the end of a list or
of an object. -/
inductive Closes : List Char → Prop where
  | nil : Closes []
  | comma (rest : List Char) : Closes (',' :: rest)
  | bracket (rest : List Char) : Closes (']' :: rest)
  | brace (rest : List Char) : Closes ('\x7d' :: rest)

theorem Closes.noDigit {rest : List Char}
    (hcloses : Closes rest) : NoDigit rest := by
  cases hcloses <;> simp [NoDigit, Char.isDigit]

/-- The number that a group of digits stands for. -/
theorem ofDigits_digitsOf (digits : List Char) :
    Numeral.ofDigits (digitsOf digits) = ofDigitChars 10 digits 0 :=
  Numeral.ofDigits_map digits

/-! ## Parts of a number -/

/-- Digits as they stand before the point: a single zero, or digits that do not
start with one. -/
inductive Leads : List Char → Prop where
  | zero : Leads ['0']
  | digits {first : Char} {more : List Char} (hfirst : first ≠ '0')
    (hdigits : ∀ character ∈ first :: more, character.isDigit = true) :
    Leads (first :: more)

theorem leads_toDigits (number : Nat) : Leads (toDigits 10 number) := by
  rcases Nat.eq_zero_or_pos number with rfl | hpositive
  · exact .zero
  · obtain ⟨first, more, hdigits, hfirst⟩ := toDigits_leading hpositive
    have hall := isDigit_toDigits number
    rw [hdigits] at hall ⊢
    exact .digits hfirst hall

theorem Leads.isDigit {digits : List Char} (hleads : Leads digits) :
    ∀ character ∈ digits, character.isDigit = true := by
  cases hleads with
  | zero => simp
  | digits _ hdigits => exact hdigits

theorem Leads.length_pos {digits : List Char}
    (hleads : Leads digits) : 0 < digits.length := by
  cases hleads <;> exact Nat.succ_pos _

theorem Leads.take {digits : List Char} (hleads : Leads digits) (count : Nat) :
    Leads (digits.take (count + 1)) := by
  cases hleads with
  | zero =>
    rw [List.take_succ_cons, List.take_nil]
    exact .zero
  | digits hfirst hdigits =>
    rw [List.take_succ_cons]
    refine .digits hfirst fun character hmem => hdigits character ?_
    rw [← List.take_succ_cons] at hmem
    exact List.mem_of_mem_take hmem

/-- Zeros may follow digits, unless these are a single zero. -/
theorem Leads.zeros {digits : List Char} (hleads : Leads digits) {count : Nat}
    (hzero : digits = ['0'] → count = 0) :
    Leads (digits ++ List.replicate count '0') := by
  cases hleads with
  | zero =>
    rw [hzero rfl]
    exact .zero
  | digits hfirst hdigits =>
    rw [List.cons_append]
    refine .digits hfirst fun character hmem => ?_
    rw [← List.cons_append] at hmem
    rcases List.mem_append.mp hmem with hmem | hmem
    · exact hdigits character hmem
    · rw [List.eq_of_mem_replicate hmem]
      rfl

theorem wholePart?_leads {whole rest : List Char} (hleads : Leads whole)
    (hrest : NoDigit rest) :
    wholePart? (whole ++ rest) = some (digitsOf whole, rest) := by
  cases hleads with
  | zero => rfl
  | @digits first more hfirst hdigits =>
    have htake := takeWhile_digits hdigits hrest
    have hdrop := dropWhile_digits hdigits hrest
    rw [List.cons_append] at htake hdrop ⊢
    rw [wholePart?, if_pos (hdigits first List.mem_cons_self), htake, hdrop]
    exact hfirst

theorem fraction_digits {digits rest : List Char} (hne : digits ≠ [])
    (hdigits : ∀ character ∈ digits, character.isDigit = true)
    (hrest : NoDigit rest) :
    fraction ('.' :: (digits ++ rest)) = (digitsOf digits, rest) := by
  cases digits with
  | nil => exact absurd rfl hne
  | cons first more =>
    have htake := takeWhile_digits hdigits hrest
    have hdrop := dropWhile_digits hdigits hrest
    rw [List.cons_append] at htake hdrop ⊢
    rw [fraction, if_pos (hdigits first List.mem_cons_self), htake, hdrop]

theorem fraction_of_no_point {rest : List Char}
    (hpoint : rest.head? ≠ some '.') : fraction rest = ([], rest) := by
  unfold fraction
  split
  · exact absurd rfl hpoint
  · rfl

theorem exponent?_digits (negative : Bool) {digits rest : List Char}
    (hne : digits ≠ [])
    (hdigits : ∀ character ∈ digits, character.isDigit = true)
    (hrest : NoDigit rest) :
    exponent? ('e' :: (if negative then '-' else '+') :: (digits ++ rest)) =
      some (Numeral.withSign negative (ofDigitChars 10 digits 0), rest) := by
  have hsign :
      Numeral.sign ((if negative then '-' else '+') :: (digits ++ rest)) =
        (negative, digits ++ rest) := by
    cases negative <;> rfl
  simp only [exponent?, hsign, takeWhile_digits hdigits hrest,
    dropWhile_digits hdigits hrest, ofDigits_digitsOf]
  simp [hne]

theorem Closes.exponent? {rest : List Char} (hcloses : Closes rest) :
    Json.exponent? rest = none := by
  cases hcloses <;> rfl

theorem Closes.no_point {rest : List Char}
    (hcloses : Closes rest) : rest.head? ≠ some '.' := by
  cases hcloses <;> simp

/-! ## Whole numbers -/

/-- The characters of a minus sign, if there is one. -/
def signCharacters (negative : Bool) : List Char :=
  if negative then ['-'] else []

theorem minus_leads (negative : Bool) {whole : List Char} (hleads : Leads whole)
    (rest : List Char) :
    minus (signCharacters negative ++ (whole ++ rest)) =
      (negative, whole ++ rest) := by
  cases negative with
  | true => rfl
  | false =>
    have hminus : ∀ after, whole ++ rest ≠ '-' :: after := by
      intro after heq
      cases hleads with
      | zero => cases heq
      | digits _ hdigits =>
        obtain ⟨rfl, -⟩ := List.cons.inj heq
        exact absurd (hdigits '-' List.mem_cons_self) (by decide)
    unfold minus
    split
    · next heq => exact absurd heq (hminus _)
    · rfl

/-- Digits alone are an integer. -/
theorem number?_integer (negative : Bool) {whole rest : List Char}
    (hleads : Leads whole) (hcloses : Closes rest) :
    number? (signCharacters negative ++ (whole ++ rest)) =
      some (.int (Numeral.withSign negative (ofDigitChars 10 whole 0)),
        rest) := by
  simp only [number?, minus_leads negative hleads,
    wholePart?_leads hleads hcloses.noDigit, Option.map_some,
    fraction_of_no_point hcloses.no_point, hcloses.exponent?, ofDigits_digitsOf]
  rfl

/-- Digits with a point among them. -/
theorem number?_point (negative : Bool) {whole digits rest : List Char}
    (hleads : Leads whole) (hne : digits ≠ [])
    (hdigits : ∀ character ∈ digits, character.isDigit = true)
    (hcloses : Closes rest) :
    number? (signCharacters negative ++ (whole ++ '.' :: (digits ++ rest))) =
      some (.float (Decimal.toBinary64 negative
        ⟨ofDigitChars 10 (whole ++ digits) 0, -(digits.length : Int)⟩),
          rest) := by
  have hpoint : NoDigit ('.' :: (digits ++ rest)) := by
    simp [NoDigit, Char.isDigit]
  have happend : digitsOf whole ++ digitsOf digits =
      digitsOf (whole ++ digits) := by
    simp [digitsOf]
  have hlength : (digitsOf digits).length = digits.length := List.length_map _
  have hsome : (digitsOf digits).isEmpty = false := by simp [digitsOf, hne]
  simp only [number?, minus_leads negative hleads,
    wholePart?_leads hleads hpoint, Option.map_some,
    fraction_digits hne hdigits hcloses.noDigit, hcloses.exponent?, happend,
    ofDigits_digitsOf, hlength, hsome]
  rfl

/-- Digits with an exponent behind them. -/
theorem number?_exponent (negative : Bool) {whole digits power rest : List Char}
    {exponent : Int} (hleads : Leads whole)
    (hdigits : ∀ character ∈ digits, character.isDigit = true)
    (hpower : exponent? ('e' :: (power ++ rest)) = some (exponent, rest)) :
    number? (signCharacters negative ++
        (whole ++ ((if digits = [] then [] else '.' :: digits) ++ 'e' ::
          (power ++ rest)))) =
      some (.float (Decimal.toBinary64 negative
        ⟨ofDigitChars 10 (whole ++ digits) 0, exponent - digits.length⟩),
          rest) := by
  have hmark : NoDigit ('e' :: (power ++ rest)) := by
    simp [NoDigit, Char.isDigit]
  have hafter :
      NoDigit ((if digits = [] then [] else '.' :: digits) ++ 'e' ::
        (power ++ rest)) := by
    split <;> simp [NoDigit, Char.isDigit]
  have hfraction : fraction ((if digits = [] then [] else '.' :: digits) ++
      'e' :: (power ++ rest)) = (digitsOf digits, 'e' :: (power ++ rest)) := by
    split
    · next hnone =>
      rw [hnone]
      exact fraction_of_no_point (by simp)
    · next hne => exact fraction_digits hne hdigits hmark
  have happend : digitsOf whole ++ digitsOf digits =
      digitsOf (whole ++ digits) := by
    simp [digitsOf]
  have hlength : (digitsOf digits).length = digits.length := List.length_map _
  simp only [number?, minus_leads negative hleads,
    wholePart?_leads hleads hafter, Option.map_some, hfraction, hpower, happend,
    ofDigits_digitsOf, hlength]

/-! ## Written numbers -/

theorem number?_integerText (number : Int) {rest : List Char}
    (hcloses : Closes rest) :
    number? ((Layout.integerText number).toList ++ rest) =
      some (.int number, rest) := by
  have htext : (Layout.integerText number).toList =
      signCharacters (decide (number < 0)) ++ toDigits 10 number.natAbs := by
    by_cases hnegative : number < 0 <;>
      simp [Layout.integerText, Layout.digitText, signCharacters, hnegative]
  rw [htext, List.append_assoc, number?_integer _ (leads_toDigits _) hcloses,
    Nat.ofDigitChars_ten_toDigits, withSign_natAbs]

theorem exponent?_exponentText (width : Nat) (exponent : Int) {rest : List Char}
    (hcloses : Closes rest) :
    exponent? ('e' :: ((Layout.exponentText width exponent).toList ++ rest)) =
      some (exponent, rest) := by
  have hdigits :
      ∀ character ∈
        List.replicate (width - (toDigits 10 exponent.natAbs).length) '0' ++
          toDigits 10 exponent.natAbs, character.isDigit = true :=
    isDigit_padded _ (isDigit_toDigits _)
  have hread :=
    exponent?_digits (decide (exponent < 0))
      (by simp [Nat.toDigits_ne_nil]) hdigits hcloses.noDigit
  rw [ofDigitChars_padded, Nat.ofDigitChars_ten_toDigits,
    withSign_natAbs] at hread
  simpa [Layout.exponentText] using hread

section Decimals

variable (negative : Bool) {digits rest : List Char} {exponent : Int}

theorem number?_scientificText (width : Nat) (hleads : Leads digits)
    (hcloses : Closes rest) :
    number? (signCharacters negative ++
        ((Layout.scientificText width digits exponent).toList ++ rest)) =
      some (.float (Decimal.toBinary64 negative
        ⟨ofDigitChars 10 digits 0, exponent - (digits.length - 1 : Nat)⟩),
          rest) := by
  obtain ⟨first, more, rfl, hfirst, hmore⟩ : ∃ first more,
    digits = first :: more ∧
      Leads [first] ∧ ∀ character ∈ more, character.isDigit = true := by
    cases hleads with
    | zero => exact ⟨'0', [], rfl, .zero, by simp⟩
    | @digits first more hfirst hdigits =>
      refine ⟨first, more, rfl, .digits hfirst ?_, ?_⟩
      · simpa using hdigits first List.mem_cons_self
      · exact fun character hmem =>
          hdigits character (List.mem_cons_of_mem _ hmem)
  have htext :
      (Layout.scientificText width (first :: more) exponent).toList ++ rest =
        [first] ++ ((if more = [] then [] else '.' :: more) ++ 'e' ::
          ((Layout.exponentText width exponent).toList ++ rest)) := by
    cases more <;> simp [Layout.scientificText]
  rw [htext, number?_exponent negative hfirst hmore
    (exponent?_exponentText width exponent hcloses)]
  rfl

/-- All digits stand behind the point. -/
theorem number?_positionalText_of_neg (hleads : Leads digits)
    (hexponent : exponent < 0) (hcloses : Closes rest) :
    number? (signCharacters negative ++
      ((Layout.positionalText digits exponent).toList ++ rest)) =
      some (.float (Decimal.toBinary64 negative
        ⟨ofDigitChars 10 digits 0, exponent - (digits.length - 1 : Nat)⟩),
          rest) := by
  have htext :
      (Layout.positionalText digits exponent).toList ++ rest = ['0'] ++ '.' ::
        ((List.replicate (-exponent - 1).toNat '0' ++ digits) ++ rest) := by
    simp [Layout.positionalText, hexponent]
  have hall : ∀ character ∈ List.replicate (-exponent - 1).toNat '0' ++ digits,
      character.isDigit = true := isDigit_padded _ hleads.isDigit
  have hne : List.replicate (-exponent - 1).toNat '0' ++ digits ≠ [] :=
    List.append_ne_nil_of_right_ne_nil
      _ (List.ne_nil_of_length_pos hleads.length_pos)
  have hplaces :
      -((List.replicate (-exponent - 1).toNat '0' ++ digits).length : Int) =
        exponent - (digits.length - 1 : Nat) := by
    have hlength := hleads.length_pos
    rw [List.length_append, List.length_replicate]
    omega
  have hvalue :
      ofDigitChars 10
        (['0'] ++ (List.replicate (-exponent - 1).toNat '0' ++ digits)) 0 =
          ofDigitChars 10 digits 0 := by
    rw [← ofDigitChars_padded (-exponent - 1).toNat digits]
    exact ofDigitChars_padded 1 _
  rw [htext, number?_point negative .zero hne hall hcloses, hplaces, hvalue]

/-- The point stands between two digits. -/
theorem number?_positionalText_of_lt {whole : Nat} (hleads : Leads digits)
    (hinside : whole + 1 < digits.length) (hcloses : Closes rest) :
    number? (signCharacters negative ++
      ((Layout.positionalText digits whole).toList ++ rest)) =
      some (.float (Decimal.toBinary64 negative
        ⟨ofDigitChars 10 digits 0, whole - (digits.length - 1 : Nat)⟩),
          rest) := by
  have hexponent : ¬ (whole : Int) < 0 := by omega
  have hsome : (digits.drop (whole + 1)).isEmpty = false := by
    simpa using hinside
  have hpadding : whole + 1 - digits.length = 0 := by omega
  have htext : (Layout.positionalText digits whole).toList ++ rest =
      digits.take (whole + 1) ++ '.' :: (digits.drop (whole + 1) ++ rest) := by
    simp [Layout.positionalText, hexponent, hsome, hpadding]
  have hplaces : -((digits.drop (whole + 1)).length : Int) =
      whole - (digits.length - 1 : Nat) := by
    rw [List.length_drop]
    omega
  rw [htext, number?_point negative (hleads.take whole) (by simpa using hsome)
    (fun character hmem => hleads.isDigit character (List.mem_of_mem_drop hmem))
    hcloses,
    List.take_append_drop, hplaces]

/-- The point stands behind all digits, perhaps after further zeros. -/
theorem number?_positionalText_of_ge {whole : Nat} (hleads : Leads digits)
    (hzero : digits = ['0'] → whole = 0) (hbehind : digits.length ≤ whole + 1)
    (hcloses : Closes rest) :
    number? (signCharacters negative ++
      ((Layout.positionalText digits whole).toList ++ rest)) =
      some (.float (Decimal.toBinary64 negative
        ⟨ofDigitChars 10 digits 0, whole - (digits.length - 1 : Nat)⟩),
          rest) := by
  have hexponent : ¬ (whole : Int) < 0 := by omega
  have hnone : (digits.drop (whole + 1)).isEmpty = true := by
    simpa using hbehind
  have htext :
      (Layout.positionalText digits whole).toList ++ rest =
        (digits ++ List.replicate (whole + 1 - digits.length) '0') ++ '.' ::
          (['0'] ++ rest) := by
    simp [Layout.positionalText, hexponent, hnone,
      List.take_of_length_le hbehind]
  have hwhole :
      Leads (digits ++ List.replicate (whole + 1 - digits.length) '0') := by
    apply hleads.zeros
    intro hdigits
    simp [hdigits, hzero hdigits]
  have hzeros : List.replicate (whole + 1 - digits.length) '0' ++ ['0'] =
      List.replicate (whole + 1 - digits.length + 1) '0' :=
    List.replicate_succ'.symm
  have hvalue :
      ofDigitChars 10
        ((digits ++ List.replicate (whole + 1 - digits.length) '0') ++ ['0'])
        0 = ofDigitChars 10 digits 0 *
          10 ^ (whole + 1 - digits.length + 1) := by
    rw [List.append_assoc, hzeros, Nat.ofDigitChars_append,
      Nat.ofDigitChars_replicate_zero, Nat.mul_comm]
  have hplaces :
      -((['0'] : List Char).length : Int) +
        (whole + 1 - digits.length + 1 : Nat) =
          whole - (digits.length - 1 : Nat) := by
    have hlength := hleads.length_pos
    rw [List.length_singleton]
    omega
  rw [htext, number?_point negative hwhole (by simp) (by simp) hcloses, hvalue,
    Decimal.toBinary64_zeros, hplaces]

theorem number?_positionalText (hleads : Leads digits)
    (hzero : digits = ['0'] → exponent = 0) (hcloses : Closes rest) :
    number? (signCharacters negative ++
      ((Layout.positionalText digits exponent).toList ++ rest)) =
      some (.float (Decimal.toBinary64 negative
        ⟨ofDigitChars 10 digits 0, exponent - (digits.length - 1 : Nat)⟩),
          rest) := by
  rcases Int.lt_or_le exponent 0 with hnegative | hnonnegative
  · exact number?_positionalText_of_neg negative hleads hnegative hcloses
  · obtain ⟨whole, rfl⟩ := Int.eq_ofNat_of_zero_le hnonnegative
    rcases Nat.lt_or_ge (whole + 1) digits.length with hinside | hbehind
    · exact number?_positionalText_of_lt negative hleads hinside hcloses
    · exact number?_positionalText_of_ge negative hleads
        (fun hdigits => Int.ofNat_eq_zero.mp (hzero hdigits)) hbehind hcloses

end Decimals

theorem number?_decimalText (layout : Layout) (negative : Bool)
    {decimal : Decimal} (hzero : decimal.digits = 0 → decimal.exponent = 0)
    {rest : List Char} (hcloses : Closes rest) :
    number? (signCharacters negative ++
      ((layout.decimalText decimal).toList ++ rest)) =
      some (.float (decimal.toBinary64 negative), rest) := by
  have hleads := leads_toDigits decimal.digits
  have hplaces :
      decimal.exponent + ((toDigits 10 decimal.digits).length : Int) - 1 -
        ((toDigits 10 decimal.digits).length - 1 : Nat) = decimal.exponent := by
    have hlength := hleads.length_pos
    omega
  have hsingle : toDigits 10 decimal.digits = ['0'] →
      decimal.exponent +
        ((toDigits 10 decimal.digits).length : Int) - 1 = 0 := by
    intro hdigits
    have hdecimal : decimal.digits = 0 := by
      rw [← @Nat.ofDigitChars_ten_toDigits decimal.digits, hdigits]
      rfl
    rw [hdigits, hzero hdecimal]
    rfl
  simp only [Layout.decimalText]
  split
  · rw [number?_positionalText negative hleads hsingle hcloses, hplaces,
      Nat.ofDigitChars_ten_toDigits]
  · rw [number?_scientificText negative _ hleads hcloses, hplaces,
      Nat.ofDigitChars_ten_toDigits]

/-- A finite number is read as it was written. -/
theorem number?_text (layout : Layout) {number : Binary64}
    (hfinite : number.isFinite = true) {rest : List Char}
    (hcloses : Closes rest) :
    number? ((layout.text number).toList ++ rest) =
      some (.float number, rest) := by
  cases number with
  | nan => cases hfinite
  | infinity => cases hfinite
  | finite negative mantissa exponent canonical =>
    have htext :
        (layout.text (.finite negative mantissa exponent canonical)).toList =
          signCharacters negative ++
            (layout.decimalText
              (Decimal.shortest mantissa exponent canonical)).toList := by
      cases negative <;> simp [Layout.text, signCharacters]
    have hzero : (Decimal.shortest mantissa exponent canonical).digits =
        0 → (Decimal.shortest mantissa exponent canonical).exponent = 0 :=
      Decimal.exponent_normalize
    rw [htext, List.append_assoc,
      number?_decimalText layout negative hzero hcloses,
      Decimal.toBinary64_shortest]

end StoryGraph.Json
