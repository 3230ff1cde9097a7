import StoryGraph.Proofs.Number.Digits
import StoryGraph.Timestamp

/-!
# Timestamps that are written and read

A timestamp is written in the calendar form, in which every number has its fixed
width.  So the parts of the text are read one after the other, and give the same
moment again.
-/

namespace StoryGraph.Timestamp

open Numeral (NoDigit takeWhile_digits dropWhile_digits)

/-! ## Numbers of a fixed width -/

/-- The last digit stands behind the digits of a tenth. -/
theorem toList_padded_succ {width : Nat} (hwidth : 0 < width) (number : Nat) :
    (padded (width + 1) number).toList =
      (padded width (number / 10)).toList ++ [(number % 10).digitChar] := by
  simp only [padded, String.toList_ofList]
  rw [Nat.toDigits_eq_if (n := number) (by decide)]
  split
  · next hdigit =>
    obtain ⟨less, rfl⟩ : ∃ less, width = less + 1 := ⟨width - 1, by omega⟩
    rw [Nat.div_eq_of_lt hdigit, Nat.mod_eq_of_lt hdigit, Nat.toDigits_zero]
    simp [List.replicate_succ']
  · rw [List.length_append, List.length_singleton, Nat.add_sub_add_right,
      List.append_assoc]

theorem toList_padded_two {number : Nat} (hnumber : number < 100) :
    (padded 2 number).toList =
      [(number / 10).digitChar, (number % 10).digitChar] := by
  rw [toList_padded_succ Nat.one_pos, padded,
    Nat.toDigits_of_lt_base (by omega)]
  simp

theorem toList_padded_four (number : Nat) :
    (padded 4 number).toList =
      (padded 2 (number / 100)).toList ++ (padded 2 (number % 100)).toList := by
  rw [toList_padded_succ (by decide), toList_padded_succ (by decide),
    Nat.div_div_eq_div_mul, toList_padded_two (Nat.mod_lt number (by decide)),
    List.append_assoc]
  have htens : number / 10 % 10 = number % 100 / 10 := by omega
  have hunits : number % 10 = number % 100 % 10 := by omega
  rw [htens, hunits]
  rfl

theorem twoDigits?_padded {number : Nat} (hnumber : number < 100)
    (rest : List Char) :
    twoDigits? ((padded 2 number).toList ++ rest) = some (number, rest) := by
  have hdigit :
      ∀ digit < 10, Text.latinDigitValue? digit.digitChar = some digit := by
    decide
  have hvalue : 10 * (number / 10) + number % 10 = number := by omega
  rw [toList_padded_two hnumber]
  simp only [List.cons_append, List.nil_append, twoDigits?,
    hdigit (number / 10) (by omega), hdigit (number % 10) (by omega), hvalue]

theorem markedDigits?_padded (mark : Char) {number : Nat}
    (hnumber : number < 100) (rest : List Char) :
    markedDigits? mark (mark :: ((padded 2 number).toList ++ rest)) =
      some (number, rest) := by
  rw [markedDigits?, beq_self_eq_true, if_pos rfl, twoDigits?_padded hnumber]

/-! ## Parts of the text -/

/-- The characters of the fraction of a second. -/
def fractionCharacters (microsecond : Nat) : List Char :=
  if microsecond = 0 then [] else '.' :: (padded 6 microsecond).toList

theorem length_padded_six {number : Nat} (hbound : number < 1000000) :
    (padded 6 number).toList.length = 6 := by
  have hlength : (Nat.toDigits 10 number).length ≤ 6 :=
    (Nat.length_toDigits_le_iff (by decide) (by decide)).mpr hbound
  simp only [padded, String.toList_ofList, List.length_append,
    List.length_replicate]
  omega

theorem microseconds_padded {microsecond : Nat}
    (hbound : microsecond < 1000000) :
    microseconds (padded 6 microsecond).toList = microsecond := by
  have hlength := length_padded_six hbound
  simp only [microseconds, List.take_of_length_le (Nat.le_of_eq hlength),
    hlength, Nat.sub_self, List.replicate_zero, List.append_nil,
    Numeral.ofDigits_map]
  simp only [padded, String.toList_ofList, Numeral.ofDigitChars_padded,
    Nat.ofDigitChars_ten_toDigits]

theorem readZone?_zoneText {offset : Option Int}
    (hoffset : ∀ minutes ∈ offset, minutes.natAbs < 1440) :
    readZone? (zoneText offset).toList = some offset := by
  cases offset with
  | none => rfl
  | some offset =>
    have hbound : offset.natAbs < 1440 := hoffset offset rfl
    by_cases hzero : offset = 0
    · rw [hzero]
      rfl
    · have htext :
          (zoneText (some offset)).toList = (if offset < 0 then '-' else '+') ::
            ((padded 2 (offset.natAbs / 60)).toList ++ ':' ::
              ((padded 2 (offset.natAbs % 60)).toList ++ [])) := by
        rw [zoneText, if_neg hzero]
        split <;> simp
      have hsign : readZoneSign? (if offset < 0 then '-' else '+') =
          some (decide (offset < 0)) := by
        split <;> simp_all [readZoneSign?]
      have hhours : offset.natAbs / 60 < 24 := by omega
      have hminutes : offset.natAbs % 60 < 60 := Nat.mod_lt _ (by decide)
      have htotal :
          60 * (offset.natAbs / 60) + offset.natAbs % 60 = offset.natAbs :=
        Nat.div_add_mod _ _
      rw [htext, readZone?]
      · simp only [hsign, Option.bind_some,
          twoDigits?_padded (show offset.natAbs / 60 < 100 by omega),
          twoDigits?_padded (show offset.natAbs % 60 < 100 by omega), hhours,
          hminutes, decide_true,
          Bool.and_self, if_true, htotal, Numeral.withSign_natAbs]
      all_goals
        intro _ hnil
        simp at hnil

/-- A zone does not go on with the digits of a second. -/
theorem zoneText_cases (offset : Option Int) :
    (zoneText offset).toList = [] ∨ ∃ mark rest,
      (zoneText offset).toList = mark :: rest ∧
      mark.isDigit = false ∧ mark ≠ '.' ∧ mark ≠ ',' := by
  cases offset with
  | none => exact .inl rfl
  | some offset =>
    right
    by_cases hzero : offset = 0
    · rw [hzero]
      exact ⟨'Z', [], rfl, by decide, by decide, by decide⟩
    · rw [zoneText, if_neg hzero]
      by_cases hnegative : offset < 0
      · rw [if_pos hnegative]
        exact ⟨'-', _, by simp only [String.toList_append]; rfl,
          by decide, by decide, by decide⟩
      · rw [if_neg hnegative]
        exact ⟨'+', _, by simp only [String.toList_append]; rfl,
          by decide, by decide, by decide⟩

theorem noDigit_zoneText (offset : Option Int) :
    NoDigit (zoneText offset).toList := by
  intro character hmem
  rcases zoneText_cases offset with hnone | ⟨mark, rest, hmark, hdigit, -⟩
  · rw [hnone] at hmem
    cases hmem
  · rw [hmark] at hmem
    cases hmem
    exact hdigit

theorem readSeconds?_padded {second microsecond : Nat} (hsecond : second < 60)
    (hbound : microsecond < 1000000) (offset : Option Int) :
    readSeconds? (':' :: ((padded 2 second).toList ++
      (fractionCharacters microsecond ++ (zoneText offset).toList))) =
        some ((second, microsecond), (zoneText offset).toList) := by
  rw [readSeconds?, twoDigits?_padded (by omega), Option.bind_some]
  by_cases hzero : microsecond = 0
  · rcases zoneText_cases offset with
      hnone | ⟨mark, rest, hmark, -, hpoint, hcomma⟩
    · simp [fractionCharacters, hzero, hnone]
    · simp [fractionCharacters, hzero, hmark, hpoint, hcomma]
  · have hdigits :
        ∀ character ∈ (padded 6 microsecond).toList,
          character.isDigit = true := by
      rw [padded, String.toList_ofList]
      exact Numeral.isDigit_padded _ (Numeral.isDigit_toDigits _)
    have hsome : (padded 6 microsecond).toList.isEmpty = false := by
      rw [List.isEmpty_eq_false_iff, ← List.length_pos_iff,
        length_padded_six hbound]
      decide
    simp only [fractionCharacters, if_neg hzero, List.cons_append,
      takeWhile_digits hdigits (noDigit_zoneText offset),
      dropWhile_digits hdigits (noDigit_zoneText offset), hsome,
      microseconds_padded hbound]
    rfl

theorem readClock?_padded {hour minute second microsecond : Nat}
    (hhour : hour < 24) (hminute : minute < 60) (hsecond : second < 60)
    (hbound : microsecond < 1000000) {offset : Option Int}
    (hoffset : ∀ minutes ∈ offset, minutes.natAbs < 1440) :
    readClock? ((padded 2 hour).toList ++ ':' :: ((padded 2 minute).toList ++
      ':' :: ((padded 2 second).toList ++
        (fractionCharacters microsecond ++ (zoneText offset).toList)))) =
      some ((hour, minute), (second, microsecond), offset) := by
  rw [readClock?, twoDigits?_padded (by omega), Option.bind_some]
  simp only
  rw [markedDigits?_padded ':' (by omega), Option.bind_some]
  simp only
  rw [readSeconds?_padded hsecond hbound, Option.bind_some]
  simp only
  rw [readZone?_zoneText hoffset]
  rfl

/-! ## The whole text -/

theorem toList_toText (timestamp : Timestamp) :
    timestamp.toText.toList =
      (padded 2 (timestamp.moment.year / 100)).toList ++
        ((padded 2 (timestamp.moment.year % 100)).toList ++
          '-' :: ((padded 2 timestamp.moment.month).toList ++
            '-' :: ((padded 2 timestamp.moment.day).toList ++
              'T' :: ((padded 2 timestamp.moment.hour).toList ++
                ':' :: ((padded 2 timestamp.moment.minute).toList ++
                  ':' :: ((padded 2 timestamp.moment.second).toList ++
                    (fractionCharacters timestamp.moment.microsecond ++
                      (zoneText timestamp.moment.offset).toList))))))) := by
  have hfraction : (if timestamp.moment.microsecond = 0 then ""
      else "." ++ padded 6 timestamp.moment.microsecond).toList =
        fractionCharacters timestamp.moment.microsecond := by
    unfold fractionCharacters
    split <;> simp
  simp [toText, hfraction, toList_padded_four]

theorem readCalendar?_toText (timestamp : Timestamp) :
    readCalendar? timestamp.toText.toList = some timestamp.moment := by
  have hvalid := timestamp.valid
  rw [Moment.isValid, Bool.and_eq_true, Bool.and_eq_true] at hvalid
  obtain ⟨⟨hparts, -⟩, hyear⟩ := hvalid
  have hbounds := hparts
  simp only [Moment.hasParts, Bool.and_eq_true, decide_eq_true_eq,
    Option.all_eq_true] at hbounds
  obtain ⟨⟨⟨⟨⟨⟨⟨⟨-, hmonth⟩, -⟩, hday⟩, hhour⟩, hminute⟩, hsecond⟩,
    hmicrosecond⟩, hoffset⟩ :=
      hbounds
  have hdays :
      daysInMonth timestamp.moment.year timestamp.moment.month ≤ 31 := by
    unfold daysInMonth
    split
    · split <;> decide
    · split <;> decide
  have hcentury :
      100 * (timestamp.moment.year / 100) + timestamp.moment.year % 100 =
        timestamp.moment.year :=
    Nat.div_add_mod _ _
  rw [decide_eq_true_eq] at hyear
  rw [toList_toText, readCalendar?, twoDigits?_padded (by omega),
    Option.bind_some]
  simp only
  rw [twoDigits?_padded (by omega), Option.bind_some]
  simp only
  rw [markedDigits?_padded '-' (by omega), Option.bind_some]
  simp only
  rw [markedDigits?_padded '-' (by omega), Option.bind_some]
  simp only [readClock?_padded hhour hminute hsecond hmicrosecond hoffset,
    hcentury]
  exact Option.filter_eq_some_iff.mpr ⟨rfl, hparts⟩

theorem ofReading_of_ofMoment? {moment : Moment} {timestamp : Timestamp}
    (hmoment : ofMoment? moment = some timestamp) :
    ofReading (some moment) = .accepted timestamp := by
  unfold ofReading
  simp only [hmoment]

/-- A timestamp is read as it was written. -/
theorem check_toText (timestamp : Timestamp) :
    check (.str timestamp.toText) = .accepted timestamp := by
  have hmoment : ofMoment? timestamp.moment = some timestamp :=
    dif_pos timestamp.valid
  rw [check, ofText, readCalendar?_toText, Option.some_or,
    ofReading_of_ofMoment? hmoment]

end StoryGraph.Timestamp
