import StoryGraph.Proofs.Version.Spelling
import StoryGraph.Version.Specifier

/-!
# Caret constraints

A caret constraint stands for a list of two clauses: from its base on, and
before the next major release.  The list is read again as it is written,
whatever parts the base has.  What satisfies it are the versions of the series
of the base, that is those with the same first number, from the base on, but
only if the base has no epoch: the next major release is written without one.
-/

namespace StoryGraph

namespace Version

/-! ## Series -/

/-- Order by what tells the series of a version: the epoch and the first
number. -/
def compareSeries (left right : Version) : Ordering :=
  (compare left.epoch right.epoch).then (compare left.major right.major)

/-- Versions with the same epoch and the same first number. -/
def SameSeries (left right : Version) : Prop :=
  left.epoch = right.epoch ∧ left.major = right.major

instance (left right : Version) : Decidable (left.SameSeries right) :=
  inferInstanceAs (Decidable (_ ∧ _))

theorem trimZeros_cons (number : Nat) (numbers : List Nat) :
    trimZeros (number :: numbers) =
      if trimZeros numbers = [] ∧ number = 0 then []
      else number :: trimZeros numbers := by
  rw [trimZeros, List.reverse_cons, List.dropWhile_append]
  by_cases hzeros : numbers.reverse.dropWhile (· == 0) = []
  · by_cases hzero : number = 0 <;> simp [trimZeros, hzeros, hzero]
  · simp [trimZeros, hzeros]

/-- Releases with different first numbers compare as these do, also where a zero
was left out. -/
theorem compareReleases_of_ne {left right : Version}
    (hne : left.major ≠ right.major) :
    compareLists compare (trimZeros left.release) (trimZeros right.release) =
      compare left.major right.major := by
  have hfirst : (compare left.major right.major).then
      (compareLists compare (trimZeros left.minors) (trimZeros right.minors)) =
        compare left.major right.major := by
    cases hmajor : compare left.major right.major with
    | eq => exact absurd (Nat.compare_eq_eq.mp hmajor) hne
    | lt => rfl
    | gt => rfl
  rw [release, release, trimZeros_cons left.major, trimZeros_cons right.major]
  split
  · next hleft =>
    rw [hleft.2, if_neg fun hright => hne (hleft.2.trans hright.2.symm)]
    exact (Nat.compare_eq_lt.mpr (by omega)).symm
  · split
    · next hright =>
      rw [hright.2]
      exact (Nat.compare_eq_gt.mpr (by omega)).symm
    · exact hfirst

/-- Versions of different series compare as their series do. -/
theorem compareVersions_of_series {left right : Version}
    (hseries : compareSeries left right ≠ .eq) :
    compareVersions left right = compareSeries left right := by
  rw [compareVersions, compareSeries]
  cases hepoch : compare left.epoch right.epoch with
  | lt => rfl
  | gt => rfl
  | eq =>
    have hne : left.major ≠ right.major := by
      intro heq
      rw [compareSeries, hepoch, heq, Nat.compare_eq_eq.mpr rfl] at hseries
      exact hseries rfl
    rw [compareReleases_of_ne hne]
    cases hmajor : compare left.major right.major with
    | eq => exact absurd (Nat.compare_eq_eq.mp hmajor) hne
    | lt => rfl
    | gt => rfl

/-! ## Comparison with a version -/

theorem compareLists_self {α : Type} {compare : α → α → Ordering}
    (hself : ∀ item, compare item item = .eq) (items : List α) :
    compareLists compare items items = .eq := by
  induction items with
  | nil => rfl
  | cons item items ih => rw [compareLists, hself, ih]; rfl

theorem isBefore_self {version : Version} (hlabel : version.label = none) :
    version.isBefore version = false := by
  have hreleases :
      compareLists compare (trimZeros version.release)
        (trimZeros version.release) = .eq :=
    compareLists_self (fun number => Nat.compare_eq_eq.mpr rfl) _
  simp [isBefore, compareVersions, hreleases, hlabel, compareLabels]

theorem compareLabels_none (label : Option (List Segment)) :
    compareLabels label none ≠ .lt := by
  cases label <;> simp [compareLabels]

/-- Labels do not count in a comparison with a version that has none. -/
theorem isBefore_unlabelled (version : Version) {base : Version}
    (hlabel : base.label = none) :
    version.unlabelled.isBefore base = version.isBefore base := by
  have hparts :
      ∀ part, compareVersions { version with label := part } base = .lt ↔
        compareVersions { version with label := none } base = .lt := by
    intro part
    simp only [compareVersions, hlabel, Ordering.then_eq_lt, compareLabels_none,
      and_false, or_false]
    exact Iff.rfl
  rw [isBefore, isBefore, Bool.eq_iff_iff, beq_iff_eq, beq_iff_eq]
  exact (hparts version.label).symm

theorem isBefore_of_series_lt {left right : Version}
    (hlt : compareSeries left right = .lt) : left.isBefore right = true := by
  rw [isBefore, compareVersions_of_series (by rw [hlt]; decide), hlt]
  rfl

theorem isBefore_of_series_gt {left right : Version}
    (hgt : compareSeries left right = .gt) : left.isBefore right = false := by
  rw [isBefore, compareVersions_of_series (by rw [hgt]; decide), hgt]
  rfl

/-! ## The next major release -/

/-- The major release after a version, written without an epoch. -/
def nextMajor (version : Version) : Version :=
  ⟨0, version.major + 1, [0], none, none, none, none⟩

/-- No version of a series comes before the first development release of its
first release. -/
theorem not_isBefore_earliest_nextMajor {version base : Version}
    (hseries : compareSeries version base.nextMajor = .eq) :
    version.isBefore (Clause.earliest base.nextMajor) = false := by
  have hmajor : version.major = base.major + 1 :=
    Nat.compare_eq_eq.mp (Ordering.then_eq_eq.mp hseries).2
  have hreleases : compareLists compare (trimZeros version.release)
      (trimZeros (Clause.earliest base.nextMajor).release) ≠ .lt := by
    have hbound : trimZeros (Clause.earliest base.nextMajor).release =
        [base.major + 1] := by
      change trimZeros [base.major + 1, 0] = _
      simp [trimZeros]
    rw [hbound, release, trimZeros_cons, if_neg (by omega), hmajor]
    cases trimZeros version.minors <;> simp [compareLists]
  -- All other parts of the bound are the least ones.
  have hleast (number : Nat) : compare number 0 ≠ .lt := by
    rw [ne_eq, Nat.compare_eq_lt]
    exact Nat.not_lt_zero number
  have hthen {first second : Ordering} (hfirst : first ≠ .lt)
      (hsecond : second ≠ .lt) : first.then second ≠ .lt := by
    rw [ne_eq, Ordering.then_eq_lt]
    exact fun hlt => hlt.elim hfirst fun hlast => hsecond hlast.2
  rw [isBefore, beq_eq_false_iff_ne]
  exact hthen (hleast _) (hthen hreleases (hthen (hleast _)
    (hthen (hleast _) (hthen (hleast _) (hthen (hleast _) (hthen (hleast _)
      (hthen (hleast _) (compareLabels_none _))))))))

/-- What comes before the next major release has no epoch. -/
theorem isBefore_earliest_nextMajor_iff {version base : Version} :
    version.isBefore (Clause.earliest base.nextMajor) = true ↔
      version.epoch = 0 ∧ version.major ≤ base.major := by
  have hseries : compareSeries version (Clause.earliest base.nextMajor) =
      (compare version.epoch 0).then (compare version.major (base.major + 1)) :=
    rfl
  have hlt : compareSeries version (Clause.earliest base.nextMajor) = .lt ↔
      version.epoch = 0 ∧ version.major ≤ base.major := by
    rw [hseries, Ordering.then_eq_lt, Nat.compare_eq_lt, Nat.compare_eq_eq,
      Nat.compare_eq_lt]
    omega
  cases hcompare : compareSeries version (Clause.earliest base.nextMajor) with
  | lt => simp [isBefore_of_series_lt hcompare, hlt.mp hcompare]
  | gt =>
    rw [isBefore_of_series_gt hcompare, ← hlt, hcompare]
    simp
  | eq =>
    rw [not_isBefore_earliest_nextMajor hcompare, ← hlt, hcompare]
    simp

end Version

open Version

/-! ## Lists of clauses -/

namespace Specifier

theorem splitCommas_append_comma {first : List Char}
    (hfirst : first.all isPlain = true) (rest : List Char) :
    splitCommas (first ++ ',' :: rest) = first :: splitCommas rest := by
  induction first with
  | nil => rfl
  | cons character first ih =>
    rw [List.all_cons, Bool.and_eq_true] at hfirst
    have hcomma : character ≠ ',' := by
      rintro rfl
      exact absurd hfirst.1 (by decide)
    rw [List.cons_append, splitCommas, ih hfirst.2]
    exact hcomma

theorem splitCommas_of_isPlain {characters : List Char}
    (hplain : characters.all isPlain = true) :
    splitCommas characters = [characters] := by
  induction characters with
  | nil => rfl
  | cons character rest ih =>
    rw [List.all_cons, Bool.and_eq_true] at hplain
    have hcomma : character ≠ ',' := by
      rintro rfl
      exact absurd hplain.1 (by decide)
    rw [splitCommas, ih hplain.2]
    exact hcomma

end Specifier

namespace Clause

theorem plainVersion?_toText {version : Version}
    (hlabel : version.label = none) :
    plainVersion? version.toText.toList = some version := by
  rw [plainVersion?, ofCharacters?_toText hlabel, Option.bind_some, hlabel]
  rfl

theorem parse?_atLeast {version : Version} (hlabel : version.label = none) :
    parse? ('>' :: '=' :: version.toText.toList) = some (.atLeast version) := by
  have hstrip := stripList_of_isPlain (isPlain_toText hlabel)
  simp only [parse?, List.drop_succ_cons, List.drop_zero, hstrip,
    plainVersion?_toText hlabel]
  rfl

theorem parse?_before {version : Version} (hlabel : version.label = none) :
    parse? ('<' :: version.toText.toList) = some (.before version) := by
  have hstrip := stripList_of_isPlain (isPlain_toText hlabel)
  have hread := plainVersion?_toText hlabel
  obtain ⟨first, more, htext, hfirst⟩ := toText_eq_cons hlabel
  have hequals : first ≠ '=' := (ne_of_isDigit hfirst (by decide)).symm
  rw [htext] at hstrip hread ⊢
  simp [parse?, hequals, hstrip, hread]

end Clause

namespace Specifier

/-- A caret constraint as a list of clauses. -/
def caretText (base : Version) : String :=
  ">=" ++ base.toText ++ ",<" ++ Layout.digitText (base.major + 1) ++ ".0"

theorem toText_nextMajor (base : Version) :
    base.nextMajor.toText = Layout.digitText (base.major + 1) ++ ".0" := by
  rw [← String.toList_inj, toList_toText rfl]
  simp [nextMajor, epochCharacters, minorCharacters, preCharacters,
    postCharacters, devCharacters, Layout.digitText]

theorem toList_caretText (base : Version) : (caretText base).toList =
    ('>' :: '=' :: base.toText.toList) ++ ',' :: '<' ::
      base.nextMajor.toText.toList := by
  rw [toText_nextMajor]
  simp [caretText]

theorem ofCaret?_eq_some {base : Version} (hlabel : base.label = none)
    (hend : Numeral.isSpellable (seriesEnd base) = true) :
    ofCaret? base = some ⟨[.atLeast base, .before base.nextMajor]⟩ := by
  simp only [ofCaret?, hlabel, hend]
  rfl

/-- The list is read as it is written. -/
theorem parse?_caretText {base : Version} (hlabel : base.label = none) :
    parse? (caretText base) =
      some ⟨[.atLeast base, .before base.nextMajor]⟩ := by
  have hleast : ('>' :: '=' :: base.toText.toList).all isPlain = true := by
    rw [List.all_cons, List.all_cons, isPlain_toText hlabel]
    decide
  have hbound : ('<' :: base.nextMajor.toText.toList).all isPlain = true := by
    rw [List.all_cons, isPlain_toText rfl]
    decide
  have hsmall : (caretText base).toList.map Char.toLower =
      (caretText base).toList := by
    rw [toList_caretText, List.map_append, map_toLower_of_isPlain hleast,
      List.map_cons, map_toLower_of_isPlain hbound]
    rfl
  have hclauses :
      splitCommas (caretText base).toList =
        ['>' :: '=' :: base.toText.toList,
          '<' :: base.nextMajor.toText.toList] := by
    rw [toList_caretText, splitCommas_append_comma hleast,
      splitCommas_of_isPlain hbound]
  simp only [parse?, clauseTexts, hsmall, hclauses, List.map_cons, List.map_nil,
    stripList_of_isPlain hleast,
    stripList_of_isPlain hbound, List.filter_cons, List.isEmpty_cons,
    Bool.not_false, if_true,
    List.filter_nil, List.mapM_cons, List.mapM_nil,
    Clause.parse?_atLeast hlabel,
    Clause.parse?_before (show base.nextMajor.label = none from rfl)]
  rfl

theorem read?_caret {text : String} {base : Version}
    (hbase : Version.parse? text = some base) :
    read? ("^" ++ text) = ofCaret? base := by
  have hmark : ("^" ++ text).toList = '^' :: text.toList := String.toList_append
  rw [read?, hmark]
  simp only [String.ofList_toList, hbase, Option.bind_some]

end Specifier

/-! ## What a caret constraint covers -/

/-- A version from the base on, and before the next major release, has the
series of the base, which then has no epoch. -/
theorem Version.not_isBefore_and_le_iff {version base : Version} :
    (version.isBefore base = false ∧ version.epoch = 0 ∧
      version.major ≤ base.major) ↔
      base.epoch = 0 ∧ version.SameSeries base ∧
        version.isBefore base = false := by
  constructor
  · rintro ⟨hfrom, hepoch, hmajor⟩
    have hnot : compareSeries version base ≠ .lt := by
      intro hlt
      rw [isBefore_of_series_lt hlt] at hfrom
      cases hfrom
    rw [compareSeries, ne_eq, Ordering.then_eq_lt, Nat.compare_eq_lt,
      Nat.compare_eq_eq, Nat.compare_eq_lt] at hnot
    have hbase : base.epoch = 0 := by omega
    exact ⟨hbase, ⟨by omega, by omega⟩, hfrom⟩
  · rintro ⟨hbase, ⟨hepoch, hmajor⟩, hfrom⟩
    exact ⟨hfrom, hepoch.trans hbase, Nat.le_of_eq hmajor⟩

section Caret

variable {text : String} {base : Version}
  (hbase : Version.parse? text = some base)

include hbase

/-- A constraint whose base has no epoch covers the series of the base from the
base on; one whose base has an epoch covers nothing. -/
theorem supportOf_caret {candidate : String} {version : Version}
    (hlabel : base.label = none)
    (hend : Numeral.isSpellable (Specifier.seriesEnd base) = true)
    (hversion : Version.parse? candidate = some version) :
    supportOf candidate ("^" ++ text) =
      if base.epoch = 0 ∧ version.SameSeries base ∧
        version.isBefore base = false then
        .satisfied
      else .unsatisfied := by
  have hadmits :
      (Specifier.mk [.atLeast base, .before base.nextMajor]).admits version =
        true ↔ base.epoch = 0 ∧ version.SameSeries base ∧
          version.isBefore base = false := by
    simp only [Specifier.admits, List.all_cons, List.all_nil, Bool.and_true,
      Bool.and_eq_true, Clause.admits, isBefore_unlabelled version hlabel,
      Bool.not_eq_true', isBefore_earliest_nextMajor_iff]
    exact not_isBefore_and_le_iff
  rw [supportOf, hversion, Specifier.read?_caret hbase,
    Specifier.ofCaret?_eq_some hlabel hend]
  simp only [Specifier.verdict, hadmits]
  rfl

/-- A constraint whose series has an end without a numeral fails for every
version. -/
theorem supportOf_caret_of_not_isSpellable {candidate : String}
    {version : Version}
    (hend : Numeral.isSpellable (Specifier.seriesEnd base) = false)
    (hversion : Version.parse? candidate = some version) :
    supportOf candidate ("^" ++ text) = .faulty .unspellable := by
  have hmark : ("^" ++ text).toList = '^' :: text.toList := String.toList_append
  have hnone : Specifier.ofCaret? base = none := by
    simp [Specifier.ofCaret?, hend]
  rw [supportOf, hversion, Specifier.read?_caret hbase, hnone]
  simp only [Specifier.fault?, hmark, String.ofList_toList, hbase, hend]
  rfl

/-- A caret constraint is read as the list of clauses that it stands for.  It
covers its own base, and all of the series from the base on, if and only if the
base has no epoch.  It never covers what comes before the base, a later series
of the same epoch, or a later epoch.  All this holds if the end of the series
has a numeral; otherwise the constraint fails for every version. -/
theorem caret_covers_series (hlabel : base.label = none) :
    (Numeral.isSpellable (Specifier.seriesEnd base) = true →
      Specifier.read? ("^" ++ text) =
        Specifier.parse? (Specifier.caretText base) ∧
      (supportOf text ("^" ++ text) = .satisfied ↔ base.epoch = 0) ∧
      ∀ candidate version, Version.parse? candidate = some version →
        (version.SameSeries base → version.isBefore base = false →
          (supportOf candidate ("^" ++ text) = .satisfied ↔ base.epoch = 0)) ∧
        (version.isBefore base = true ∨
            version.epoch = base.epoch ∧ base.major < version.major ∨
            base.epoch < version.epoch →
          supportOf candidate ("^" ++ text) = .unsatisfied)) ∧
    (Numeral.isSpellable (Specifier.seriesEnd base) = false →
      ∀ candidate version, Version.parse? candidate = some version →
        supportOf candidate ("^" ++ text) = .faulty .unspellable) := by
  refine ⟨fun hend => ⟨?read, ?self, ?others⟩, fun hend candidate version =>
    supportOf_caret_of_not_isSpellable hbase hend⟩
  case read =>
    rw [Specifier.read?_caret hbase, Specifier.parse?_caretText hlabel,
      Specifier.ofCaret?_eq_some hlabel hend]
  case self =>
    rw [supportOf_caret hbase hlabel hend hbase]
    simp [SameSeries, isBefore_self hlabel]
  case others =>
    intro candidate version hversion
    rw [supportOf_caret hbase hlabel hend hversion]
    constructor
    · intro hseries hfrom
      simp [hseries, hfrom]
    · intro hoff
      refine if_neg ?_
      rintro ⟨-, ⟨hepoch, hmajor⟩, hfrom⟩
      rcases hoff with hbefore | ⟨-, hlater⟩ | hlater
      · rw [hfrom] at hbefore
        cases hbefore
      · omega
      · omega

end Caret

/-- A base in another spelling, with all parts but an epoch and a label, and a
later version of its series. -/
theorem candidate_release_covered :
    Version.parse? " V1.02_RC-3.post04.dev " =
        some ⟨0, 1, [2], some (.candidate, 3), some 4, some 0, none⟩ ∧
      Specifier.caretText ⟨0, 1, [2], some (.candidate, 3), some 4, some 0,
        none⟩ =
        ">=1.2rc3.post4.dev0,<2.0" ∧
      supportOf " V1.02_RC-3.post04.dev " "^ V1.02_RC-3.post04.dev " =
        .satisfied ∧
      supportOf "1.2" "^ V1.02_RC-3.post04.dev " = .satisfied ∧
      supportOf "2.0.dev1" "^ V1.02_RC-3.post04.dev " = .unsatisfied := by
  have hbase : Version.parse? " V1.02_RC-3.post04.dev " =
      some ⟨0, 1, [2], some (.candidate, 3), some 4, some 0, none⟩ := by
    decide +kernel
  obtain ⟨-, hself, hothers⟩ :=
    (caret_covers_series hbase rfl).1 (by decide +kernel)
  refine ⟨hbase, by decide +kernel, hself.mpr rfl, ?_, ?_⟩
  · exact ((hothers "1.2" ⟨0, 1, [2], none, none, none, none⟩
      (by decide +kernel)).1
      (by decide) (by decide +kernel)).mpr rfl
  · exact (hothers "2.0.dev1" ⟨0, 2, [0], none, none, some 1, none⟩
      (by decide +kernel)).2
      (.inr (.inl (by decide)))

/-- A base with an epoch is not covered by its own constraint. -/
theorem caret_not_always_covers : ¬ ∀ (text : String) (base : Version),
    Version.parse? text = some base → base.label = none →
      supportOf text ("^" ++ text) = .satisfied := by
  intro hcovers
  have hcovered :=
    hcovers "1!2.0" ⟨1, 2, [0], none, none, none, none⟩ (by decide +kernel) rfl
  exact absurd hcovered (by decide +kernel)

end StoryGraph
