import StoryGraph.Proofs.Number.Digits
import StoryGraph.Version.Basic

/-!
# Versions that are written and read

The normal spelling of a version is read part by part: epoch, release,
pre-release, post-release, development release.  What follows a part never goes
on with its digits, and no mark of a part is taken for that of another one, so
each part is read as it was written.
-/

namespace StoryGraph.Version

open Nat (toDigits)
open Numeral (NoDigit takeWhile_digits dropWhile_digits isDigit_toDigits)

/-! ## Numbers -/

theorem toDigits_eq_cons (number : Nat) :
    ∃ first more, toDigits 10 number = first :: more ∧
      first.isDigit = true := by
  cases hdigits : toDigits 10 number with
  | nil => exact absurd hdigits Nat.toDigits_ne_nil
  | cons first more =>
    exact ⟨first, more, rfl,
      isDigit_toDigits number first (hdigits ▸ List.mem_cons_self)⟩

theorem digits_toDigits (number : Nat) {rest : List Char}
    (hrest : NoDigit rest) :
    digits (toDigits 10 number ++ rest) = (toDigits 10 number, rest) := by
  rw [digits, takeWhile_digits (isDigit_toDigits number) hrest,
    dropWhile_digits (isDigit_toDigits number) hrest]

theorem numberOf_toDigits (number : Nat) :
    numberOf (toDigits 10 number) = number := by
  rw [numberOf, Numeral.ofDigits_map, Nat.ofDigitChars_ten_toDigits]

theorem ne_of_isDigit {character other : Char}
    (hdigit : character.isDigit = true)
    (hother : other.isDigit = false) : other ≠ character := by
  rintro rfl
  rw [hdigit] at hother
  cases hother

theorem dropSeparator_toDigits (number : Nat) (rest : List Char) :
    dropSeparator (toDigits 10 number ++ rest) =
      toDigits 10 number ++ rest := by
  obtain ⟨first, more, hdigits, hfirst⟩ := toDigits_eq_cons number
  have hhyphen := ne_of_isDigit hfirst (show '-'.isDigit = false by decide)
  have hunderscore := ne_of_isDigit hfirst (show '_'.isDigit = false by decide)
  have hpoint := ne_of_isDigit hfirst (show '.'.isDigit = false by decide)
  simp [hdigits, dropSeparator, hhyphen.symm, hunderscore.symm, hpoint.symm]

/-- A marked number is read when its word is. -/
theorem readMarked?_toDigits {α : Type} {words : List (String × α)}
    {meaning : α} {characters rest : List Char} {number : Nat}
    (hword : readWord? words (dropSeparator characters) =
      some (meaning, toDigits 10 number ++ rest)) (hrest : NoDigit rest) :
    readMarked? words characters = some ((meaning, number), rest) := by
  simp only [readMarked?, hword, Option.map_some, dropSeparator_toDigits,
    digits_toDigits number hrest, numberOf_toDigits]

/-! ## Suffixes -/

def preCharacters : Option (Phase × Nat) → List Char
  | some (phase, number) => phase.word.toList ++ toDigits 10 number
  | none => []

def postCharacters : Option Nat → List Char
  | some number => ".post".toList ++ toDigits 10 number
  | none => []

def devCharacters : Option Nat → List Char
  | some number => ".dev".toList ++ toDigits 10 number
  | none => []

/-- What may follow the numbers of a release: it does not go on with digits,
with a point and digits, or with the mark of an epoch. -/
structure EndsRelease (rest : List Char) : Prop where
  noDigit : NoDigit rest
  noMinor : ∀ after, rest = '.' :: after → NoDigit after
  noEpoch : ∀ after, rest ≠ '!' :: after

theorem noDigit_nil : NoDigit [] := fun _ hmem => nomatch hmem

theorem noDigit_cons {character : Char} (hcharacter : character.isDigit = false)
    (rest : List Char) : NoDigit (character :: rest) := by
  rintro _ ⟨⟩
  exact hcharacter

theorem endsRelease_nil : EndsRelease [] where
  noDigit := noDigit_nil
  noMinor := fun _ hpoint => nomatch hpoint
  noEpoch := fun _ hmark => nomatch hmark

/-- A point and a word end a release. -/
theorem endsRelease_point {letter : Char} (hletter : letter.isDigit = false)
    (rest : List Char) : EndsRelease ('.' :: letter :: rest) where
  noDigit := noDigit_cons (by decide) _
  noMinor := by
    rintro _ ⟨⟩
    exact noDigit_cons hletter rest
  noEpoch := by rintro _ ⟨⟩

theorem endsRelease_devCharacters (dev : Option Nat) :
    EndsRelease (devCharacters dev) := by
  cases dev with
  | none => exact endsRelease_nil
  | some number => exact endsRelease_point (by decide) _

theorem endsRelease_postCharacters (post dev : Option Nat) :
    EndsRelease (postCharacters post ++ devCharacters dev) := by
  cases post with
  | none => exact endsRelease_devCharacters dev
  | some number => exact endsRelease_point (by decide) _

theorem endsRelease_preCharacters (pre : Option (Phase × Nat))
    (post dev : Option Nat) :
    EndsRelease (preCharacters pre ++
      (postCharacters post ++ devCharacters dev)) := by
  cases pre with
  | none => exact endsRelease_postCharacters post dev
  | some part =>
    obtain ⟨phase, number⟩ := part
    cases phase <;>
      exact ⟨noDigit_cons (by decide) _, by rintro _ ⟨⟩, by rintro _ ⟨⟩⟩

/-- No word of a pre-release is the beginning of `post` or of `dev`. -/
theorem readPre_preCharacters (pre : Option (Phase × Nat))
    (post dev : Option Nat) :
    readPre (preCharacters pre ++ (postCharacters post ++ devCharacters dev)) =
      (pre, postCharacters post ++ devCharacters dev) := by
  have hrest := (endsRelease_postCharacters post dev).noDigit
  cases pre with
  | none =>
    have hnone :
        readMarked? phaseWords (postCharacters post ++ devCharacters dev) =
          none := by
      cases post with
      | some number =>
        simp [readMarked?, readWord?, afterWord?, phaseWords, postCharacters,
          dropSeparator]
      | none =>
        cases dev <;>
          simp [readMarked?, readWord?, afterWord?, phaseWords, postCharacters,
            devCharacters, dropSeparator]
    rw [preCharacters, List.nil_append, readPre, hnone]
  | some part =>
    obtain ⟨phase, number⟩ := part
    obtain ⟨first, more, hdigits, hfirst⟩ := toDigits_eq_cons number
    -- A longer word would go on with a letter where the number begins.
    have hl := ne_of_isDigit hfirst (show 'l'.isDigit = false by decide)
    have he := ne_of_isDigit hfirst (show 'e'.isDigit = false by decide)
    have hword :
        readWord? phaseWords
          (dropSeparator (preCharacters (some (phase, number)) ++
            (postCharacters post ++ devCharacters dev))) =
              some (phase, toDigits 10 number ++
                (postCharacters post ++ devCharacters dev)) := by
      cases phase <;>
        simp [readWord?, afterWord?, phaseWords, preCharacters, Phase.word,
          dropSeparator, hdigits, hl, he] <;> rfl
    rw [readPre, readMarked?_toDigits hword hrest]

theorem readPost_postCharacters (post dev : Option Nat) :
    readPost (postCharacters post ++ devCharacters dev) =
      (post, devCharacters dev) := by
  cases post with
  | none =>
    cases dev <;>
      simp [readPost, readMarked?, readWord?, afterWord?, postWords,
        postCharacters, devCharacters, dropSeparator]
  | some number =>
    have hword :
        readWord? postWords
          (dropSeparator (postCharacters (some number) ++ devCharacters dev)) =
            some ((), toDigits 10 number ++ devCharacters dev) := by
      simp [readWord?, afterWord?, postWords, postCharacters, dropSeparator]
      rfl
    have hmarked :=
      readMarked?_toDigits hword (endsRelease_devCharacters dev).noDigit
    simp only [readPost, hmarked]
    rfl

theorem readDev_devCharacters (dev : Option Nat) :
    readDev (devCharacters dev) = (dev, []) := by
  cases dev with
  | none =>
    simp [readDev, readMarked?, readWord?, afterWord?, devWords, devCharacters,
      dropSeparator]
  | some number =>
    have hword :
        readWord? devWords (dropSeparator (devCharacters (some number))) =
          some ((), toDigits 10 number ++ []) := by
      simp [readWord?, afterWord?, devWords, devCharacters, dropSeparator]
      rfl
    rw [readDev, readMarked?_toDigits hword noDigit_nil]

theorem readSuffixes?_characters (version : Version)
    (pre : Option (Phase × Nat)) (post dev : Option Nat) :
    readSuffixes? version
        (preCharacters pre ++ (postCharacters post ++ devCharacters dev)) =
      some { version with pre, post, dev, label := none } := by
  simp only [readSuffixes?, readPre_preCharacters, readPost_postCharacters,
    readDev_devCharacters]
  rfl

/-! ## Epoch and release -/

def epochCharacters (epoch : Nat) : List Char :=
  if epoch = 0 then [] else toDigits 10 epoch ++ ['!']

def minorCharacters (minors : List Nat) : List Char :=
  minors.flatMap fun number => '.' :: toDigits 10 number

/-- A release goes on with a point or ends, but never with a digit. -/
theorem noDigit_minorCharacters (minors : List Nat) {rest : List Char}
    (hrest : NoDigit rest) : NoDigit (minorCharacters minors ++ rest) := by
  cases minors with
  | nil => exact hrest
  | cons number minors => exact noDigit_cons (by decide) _

theorem length_le_minorCharacters (minors : List Nat) :
    minors.length ≤ (minorCharacters minors).length := by
  induction minors with
  | nil => exact Nat.zero_le _
  | cons number minors ih =>
    rw [minorCharacters, List.flatMap_cons, List.length_append,
      ← minorCharacters, List.length_cons, List.length_cons]
    omega

theorem digits_of_noDigit {rest : List Char}
    (hrest : NoDigit rest) : digits rest = ([], rest) := by
  cases rest with
  | nil => rfl
  | cons character rest => simp [digits, hrest character rfl]

theorem readMinors_of_endsRelease (fuel : Nat) {rest : List Char}
    (hrest : EndsRelease rest) : readMinors fuel rest = ([], rest) := by
  fun_cases readMinors fuel rest with
  | case1 => rfl
  | case2 => rfl
  | case3 fuel after number left hdigits hsome =>
    rw [digits_of_noDigit (hrest.noMinor after rfl)] at hsome
    exact absurd (Prod.mk.inj hsome).1.symm hdigits
  | case4 => rfl

theorem readMinors_minorCharacters {minors : List Nat} {fuel : Nat}
    {rest : List Char} (hfuel : minors.length ≤ fuel)
    (hrest : EndsRelease rest) :
    readMinors fuel (minorCharacters minors ++ rest) = (minors, rest) := by
  induction minors generalizing fuel with
  | nil => exact readMinors_of_endsRelease fuel hrest
  | cons number minors ih =>
    obtain ⟨fuel, rfl⟩ : ∃ less, fuel = less + 1 :=
      ⟨fuel - 1, by simp at hfuel; omega⟩
    have hlater := ih (Nat.le_of_succ_le_succ hfuel)
    have hnumber :=
      digits_toDigits number (noDigit_minorCharacters minors hrest.noDigit)
    have hstart : minorCharacters (number :: minors) ++ rest =
        '.' :: (toDigits 10 number ++ (minorCharacters minors ++ rest)) := by
      simp [minorCharacters]
    rw [hstart, readMinors, hnumber]
    split
    · next hnil => exact absurd (Prod.mk.inj hnil).1 Nat.toDigits_ne_nil
    · next hdigits =>
      cases hdigits
      simp only [hlater, numberOf_toDigits]

/-- The release after its first number, whatever the fuel for it is. -/
theorem readMinors_length {minors : List Nat} {rest : List Char}
    (hrest : EndsRelease rest) :
    readMinors (minorCharacters minors ++ rest).length
      (minorCharacters minors ++ rest) =
      (minors, rest) := by
  refine readMinors_minorCharacters ?_ hrest
  rw [List.length_append]
  exact Nat.le_add_right_of_le (length_le_minorCharacters minors)

/-- No number begins with the letter for version. -/
theorem toDigits_append_ne (number : Nat) (rest after : List Char) :
    toDigits 10 number ++ rest ≠ 'v' :: after := by
  obtain ⟨first, more, hdigits, hfirst⟩ := toDigits_eq_cons number
  rw [hdigits]
  rintro ⟨⟩
  cases hfirst

theorem readBase?_release (major : Nat) (minors : List Nat) {rest : List Char}
    (hrest : EndsRelease rest) :
    readBase? (toDigits 10 major ++ (minorCharacters minors ++ rest)) =
      some (⟨0, major, minors, none, none, none, none⟩, rest) := by
  have hmajor :=
    digits_toDigits major (noDigit_minorCharacters minors hrest.noDigit)
  rw [readBase?, hmajor]
  · split
    · next hnil => exact absurd (Prod.mk.inj hnil).1 Nat.toDigits_ne_nil
    · next hdigits =>
      cases hdigits
      split
      · next hmark =>
        cases minors with
        | nil => exact absurd hmark (hrest.noEpoch _)
        | cons number minors => cases hmark
      · simp only [readMinors_length hrest, numberOf_toDigits]
  · exact toDigits_append_ne major _

theorem readBase?_epoch (epoch major : Nat) (minors : List Nat)
    {rest : List Char} (hrest : EndsRelease rest) :
    readBase? (toDigits 10 epoch ++ '!' ::
        (toDigits 10 major ++ (minorCharacters minors ++ rest))) =
      some (⟨epoch, major, minors, none, none, none, none⟩, rest) := by
  have hepoch :=
    digits_toDigits epoch (noDigit_cons (show '!'.isDigit = false by decide)
      (toDigits 10 major ++ (minorCharacters minors ++ rest)))
  have hmajor :=
    digits_toDigits major (noDigit_minorCharacters minors hrest.noDigit)
  rw [readBase?, hepoch]
  · split
    · next hnil => exact absurd (Prod.mk.inj hnil).1 Nat.toDigits_ne_nil
    · next hdigits =>
      cases hdigits
      simp only [hmajor]
      split
      · next hnil => exact absurd (Prod.mk.inj hnil).1 Nat.toDigits_ne_nil
      · next hdigits =>
        cases hdigits
        simp only [readMinors_length hrest, numberOf_toDigits]
  · exact toDigits_append_ne epoch _

theorem readBase?_characters (epoch major : Nat) (minors : List Nat)
    {rest : List Char} (hrest : EndsRelease rest) :
    readBase? (epochCharacters epoch ++
        (toDigits 10 major ++ (minorCharacters minors ++ rest))) =
      some (⟨epoch, major, minors, none, none, none, none⟩, rest) := by
  rw [epochCharacters]
  split
  · next hzero =>
    rw [hzero]
    exact readBase?_release major minors hrest
  · rw [List.append_assoc]
    exact readBase?_epoch epoch major minors hrest

/-! ## The normal spelling -/

theorem intercalate_point (major : List Char) (minors : List (List Char)) :
    ['.'].intercalate (major :: minors) = major ++
      minors.flatMap ('.' :: ·) := by
  induction minors generalizing major with
  | nil => simp [List.intercalate]
  | cons minor minors ih =>
    have hlater := ih minor
    rw [List.intercalate] at hlater ⊢
    rw [List.intersperse_cons_cons]
    simp [hlater]

theorem toList_release (version : Version) :
    (".".intercalate (version.release.map Layout.digitText)).toList =
      toDigits 10 version.major ++ minorCharacters version.minors := by
  have hdigits : (version.release.map Layout.digitText).map String.toList =
      toDigits 10 version.major :: version.minors.map (toDigits 10) := by
    simp [release, Layout.digitText]
  have hpoint : ".".toList = ['.'] := rfl
  rw [String.toList_intercalate, hdigits, hpoint, intercalate_point,
    List.flatMap_map]
  rfl

/-- The parts of a version without a label. -/
theorem toList_toText {version : Version} (hlabel : version.label = none) :
    version.toText.toList = epochCharacters version.epoch ++
      (toDigits 10 version.major ++ (minorCharacters version.minors ++
        (preCharacters version.pre ++
          (postCharacters version.post ++ devCharacters version.dev)))) := by
  have hepoch :
      (if version.epoch = 0 then "" else Layout.digitText version.epoch ++
        "!").toList = epochCharacters version.epoch := by
    rw [epochCharacters]
    split <;> simp [Layout.digitText]
  simp only [toText, String.toList_append, hepoch, toList_release, hlabel]
  cases version.pre <;> cases version.post <;> cases version.dev <;>
    simp [preCharacters, postCharacters, devCharacters, Layout.digitText]

/-- A spelling begins with a digit, of the epoch or of the release. -/
theorem toText_eq_cons {version : Version} (hlabel : version.label = none) :
    ∃ first more, version.toText.toList = first :: more ∧
      first.isDigit = true := by
  rw [toList_toText hlabel, epochCharacters]
  split
  · obtain ⟨first, more, hdigits, hfirst⟩ := toDigits_eq_cons version.major
    exact ⟨first, _, by rw [hdigits]; rfl, hfirst⟩
  · obtain ⟨first, more, hdigits, hfirst⟩ := toDigits_eq_cons version.epoch
    exact ⟨first, _, by rw [hdigits]; rfl, hfirst⟩

/-- The normal spelling of a version is read as the version. -/
theorem ofCharacters?_toText {version : Version}
    (hlabel : version.label = none) :
    ofCharacters? version.toText.toList = some version := by
  rw [toList_toText hlabel, ofCharacters?,
    readBase?_characters _ _ _ (endsRelease_preCharacters _ _ _),
    Option.bind_some]
  simp only [readSuffixes?_characters, ← hlabel]

/-! ## Plain characters -/

/-- Characters that stand for themselves in versions and in lists of clauses:
neither blanks nor capitals nor commas. -/
def isPlain (character : Char) : Bool :=
  !Text.isBlank character && character.toLower == character && character != ','

theorem isPlain_of_isDigit {character : Char}
    (hdigit : character.isDigit = true) : isPlain character = true := by
  obtain ⟨hleast, hgreatest⟩ := Char.isDigit_iff_toNat.mp hdigit
  have hblank : Text.isBlank character = false := by
    have hleast : 48 ≤ character.toNat := hleast
    have hgreatest : character.toNat ≤ 57 := hgreatest
    simp only [Text.isBlank, Text.isNumeralBlank, Bool.or_eq_false_iff,
      Bool.and_eq_false_iff, decide_eq_false_iff_not, beq_eq_false_iff_ne]
    omega
  have hsmall : character.toLower = character := by
    refine dif_neg fun hcapital => ?_
    have hletter : 'A'.toNat ≤ character.toNat :=
      UInt32.le_iff_toNat_le.mp hcapital.1
    exact absurd (Nat.le_trans hletter hgreatest) (by decide)
  have hcomma : character ≠ ',' := by
    rintro rfl
    cases hdigit
  simp [isPlain, hblank, hsmall, hcomma]

/-- A word and a number, as in every part of a spelling. -/
theorem isPlain_marked {word : List Char} (hword : word.all isPlain = true)
    (number : Nat) : (word ++ toDigits 10 number).all isPlain = true := by
  rw [List.all_append, hword, Bool.true_and, List.all_eq_true]
  exact fun character hmem =>
    isPlain_of_isDigit (isDigit_toDigits number character hmem)

theorem isPlain_toText {version : Version} (hlabel : version.label = none) :
    version.toText.toList.all isPlain = true := by
  have hnumber (number : Nat) : (toDigits 10 number).all isPlain = true :=
    @isPlain_marked [] rfl number
  have hepoch : (epochCharacters version.epoch).all isPlain = true := by
    rw [epochCharacters]
    split
    · rfl
    · rw [List.all_append, hnumber]
      decide
  have hminors : (minorCharacters version.minors).all isPlain = true := by
    rw [minorCharacters, List.all_flatMap, List.all_eq_true]
    exact fun number _ => @isPlain_marked ['.'] (by decide) number
  have hpre : (preCharacters version.pre).all isPlain = true := by
    match version.pre with
    | none => rfl
    | some (phase, number) =>
      exact isPlain_marked (by cases phase <;> decide) number
  have hpost : (postCharacters version.post).all isPlain = true := by
    cases version.post with
    | none => rfl
    | some number => exact isPlain_marked (by decide) number
  have hdev : (devCharacters version.dev).all isPlain = true := by
    cases version.dev with
    | none => rfl
    | some number => exact isPlain_marked (by decide) number
  simp only [toList_toText hlabel, List.all_append, hepoch, hnumber, hminors,
    hpre, hpost, hdev, Bool.and_self]

section Plain

variable {characters : List Char} (hplain : characters.all isPlain = true)

include hplain

theorem map_toLower_of_isPlain : characters.map Char.toLower = characters := by
  refine (List.map_congr_left fun character hmem => ?_).trans
    (List.map_id characters)
  have hcharacter := List.all_eq_true.mp hplain character hmem
  simp only [isPlain, Bool.and_eq_true, beq_iff_eq] at hcharacter
  exact hcharacter.1.2

theorem stripList_of_isPlain :
    Text.stripList Text.isBlank characters = characters := by
  have hnone (list : List Char) (hlist : list.all isPlain = true) :
      list.dropWhile Text.isBlank = list := by
    cases list with
    | nil => rfl
    | cons first rest =>
      have hfirst := List.all_eq_true.mp hlist first List.mem_cons_self
      simp only [isPlain, Bool.and_eq_true, Bool.not_eq_true'] at hfirst
      rw [List.dropWhile_cons, hfirst.1.1]
      rfl
  have hreverse : characters.reverse.all isPlain = true := by
    rwa [List.all_reverse]
  rw [Text.stripList, hnone characters hplain,
    hnone characters.reverse hreverse, List.reverse_reverse]

end Plain

end StoryGraph.Version
