import StoryGraph.Text.Latin
import StoryGraph.Version.Basic

/-!
# Version specifiers

A specifier is a list of clauses that a version has to satisfy.  A caret
constraint stands for the versions from its base up to the next major release.
A clause without a base to compare with leaves the whole specifier without an
answer, whatever its other clauses say, and so does a number of too many digits.

`supportOf` embeds `is_supported_version`.
-/

namespace StoryGraph

/-- One condition on a version. -/
inductive Clause where
  | compatible (version : Version)
  /-- Compatible with a text that has the form of a version but is none. -/
  | baseless
  | equal (version : Version)
  | different (version : Version)
  /-- The release starts with the numbers of this one. -/
  | within (version : Version)
  | outside (version : Version)
  | atMost (version : Version)
  | atLeast (version : Version)
  | before (version : Version)
  | after (version : Version)
  /-- The normal spelling is this text. -/
  | spelled (text : String)
  deriving DecidableEq

namespace Clause

/-- The numbers of a release, filled up with zeros to a length. -/
def padded (length : Nat) (release : List Nat) : List Nat :=
  (release ++ List.replicate (length - release.length) 0).take length

/-- Whether a version has this epoch and its release starts with these
numbers. -/
def startsWith (epoch : Nat) (numbers : List Nat) (version : Version) : Bool :=
  version.epoch == epoch && padded numbers.length version.release == numbers

/-- Equality with the label left out unless the clause has one. -/
def agrees (version candidate : Version) : Bool :=
  if version.label.isNone then candidate.unlabelled.isSame version
  else candidate.isSame version

/-- Whether a version is a post-release of this very version, which may itself
be a pre-release. -/
def isPostReleaseOf (version candidate : Version) : Bool :=
  candidate.post.isSome && version.post.isNone && version.dev.isNone &&
    candidate.pre == version.pre && candidate.base.isSame version.base

/-- The first of all versions that count towards this one: its earliest
development release, or the version itself when that is not final. -/
def earliest (version : Version) : Version :=
  if version.isPrerelease then version
  else { version with dev := some 0, label := none }

/-- A version before another also precedes its development releases, and a
version after another is not one of its post-releases. -/
def admits (candidate : Version) : Clause → Bool
  | compatible version =>
    !candidate.unlabelled.isBefore version &&
      startsWith version.epoch version.release.dropLast candidate
  | baseless => false
  | equal version => agrees version candidate
  | different version => !agrees version candidate
  | within version => startsWith version.epoch version.release candidate
  | outside version => !startsWith version.epoch version.release candidate
  | atMost version => !version.isBefore candidate.unlabelled
  | atLeast version => !candidate.unlabelled.isBefore version
  | before version => candidate.isBefore (earliest version)
  | after version =>
    version.isBefore candidate.unlabelled && !isPostReleaseOf version candidate
  | spelled text => Text.lowerLatin candidate.toText == Text.lowerLatin text

/-- A version without local label. -/
def plainVersion? (characters : List Char) : Option Version :=
  (Version.ofCharacters? characters).bind fun version =>
    if version.label.isNone then some version else none

/-- The release before a trailing wildcard. -/
def wildcard? (characters : List Char) : Option Version :=
  match Version.readBase? characters with
  | some (version, ['.', '*']) => some version
  | _ => none

/-- The version of an equality, or the release of a wildcard. -/
def equality? (exact wild : Version → Clause)
    (characters : List Char) : Option Clause :=
  match wildcard? characters with
  | some version => some (wild version)
  | none => (Version.ofCharacters? characters).map exact

/-- The clause of compatible releases, whose base has two numbers at least.  In
its words letters are taken for Latin ones, which does not make it a version. -/
def compatible? (characters : List Char) : Option Clause :=
  let folded := characters.map Text.foldLatin
  (plainVersion? folded).bind fun version =>
    if version.minors.isEmpty then none
    else some (if folded = characters then .compatible version else .baseless)

/-- Reads a clause from small letters without outer blanks. -/
def parse? (characters : List Char) : Option Clause :=
  let operand :=
    fun (count : Nat) => Text.stripList Text.isBlank (characters.drop count)
  match characters with
  | '=' :: '=' :: '=' :: _ =>
    let text := operand 3
    if text.any fun character => Text.isBlank character || character == ';' ||
      character == ')'
    then none
    else some (.spelled (String.ofList text))
  | '~' :: '=' :: _ => compatible? (operand 2)
  | '=' :: '=' :: _ => equality? .equal .within (operand 2)
  | '!' :: '=' :: _ => equality? .different .outside (operand 2)
  | '<' :: '=' :: _ => (plainVersion? (operand 2)).map .atMost
  | '>' :: '=' :: _ => (plainVersion? (operand 2)).map .atLeast
  | '<' :: _ => (plainVersion? (operand 1)).map .before
  | '>' :: _ => (plainVersion? (operand 1)).map .after
  | _ => none

/-- Number of digits of the first number of a clause that has too many of them.
A spelling is compared as it stands. -/
def oversized? : List Char → Option Nat
  | '=' :: '=' :: '=' :: _ => none
  | characters => Version.oversizedNumber? characters

end Clause

/-- How a version stands to a specifier. -/
inductive Verdict where
  | satisfied
  | unsatisfied
  /-- A clause has no base to compare with. -/
  | undecided
  /-- A number of the version or of a clause is not read or written. -/
  | faulty (fault : Numeral.Fault)
  deriving DecidableEq

/-- Clauses that all have to hold. -/
structure Specifier where
  clauses : List Clause
  deriving DecidableEq

namespace Specifier

def admits (specifier : Specifier) (version : Version) : Bool :=
  specifier.clauses.all (·.admits version)

def verdict (specifier : Specifier) (version : Version) : Verdict :=
  if specifier.clauses.contains .baseless then .undecided
  else if specifier.admits version then .satisfied
  else .unsatisfied

/-- Splits at commas. -/
def splitCommas : List Char → List (List Char)
  | [] => [[]]
  | ',' :: rest => [] :: splitCommas rest
  | character :: rest =>
    match splitCommas rest with
    | first :: others => (character :: first) :: others
    | [] => [[character]]

/-- The clauses of a text, without empty ones. -/
def clauseTexts (text : String) : List (List Char) :=
  ((splitCommas (text.toList.map Char.toLower)).map
    (Text.stripList Text.isBlank)).filter (!·.isEmpty)

/-- Reads clauses between commas. -/
def parse? (text : String) : Option Specifier :=
  ((clauseTexts text).mapM Clause.parse?).map Specifier.mk

/-- The major release that ends the series of a caret constraint. -/
def seriesEnd (base : Version) : Nat := base.major + 1

/-- The clauses of a caret constraint, unless its base has a local label or the
end of its series has no numeral. -/
def ofCaret? (base : Version) : Option Specifier :=
  if base.label.isSome || !Numeral.isSpellable (seriesEnd base) then none
  else
    some ⟨[.atLeast base,
      .before ⟨0, seriesEnd base, [0], none, none, none, none⟩]⟩

/-- Number of digits of the first number that has too many of them, in a text
that would be a list of clauses without the bound. -/
def oversized? (text : String) : Option Nat :=
  (parse? text).bind fun _ => (clauseTexts text).findSome? Clause.oversized?

/-- Why a text that would be a specifier without the bound is not read. -/
def fault? (text : String) : Option Numeral.Fault :=
  match text.toList with
  | '^' :: base =>
    match Version.parse? (String.ofList base) with
    | some base =>
      if Numeral.isSpellable (seriesEnd base) then none else some .unspellable
    | none => (Version.oversized? (String.ofList base)).map .oversized
  | _ => (oversized? text).map .oversized

/-- Reads a specifier or a caret constraint. -/
def read? (text : String) : Option Specifier :=
  match text.toList with
  | '^' :: base => (Version.parse? (String.ofList base)).bind ofCaret?
  | _ =>
    match oversized? text with
    | some _ => none
    | none => parse? text

end Specifier

/-- How a text stands that is not read. -/
def Verdict.ofUnread (fault? : Option Numeral.Fault) : Verdict :=
  match fault? with
  | some fault => .faulty fault
  | none => .unsatisfied

/-- How a version text stands to a specifier text.  Texts that are no version or
no specifier are never satisfied. -/
def supportOf (version specifier : String) : Verdict :=
  match Version.parse? version, Specifier.read? specifier with
  | some version, some specifier => specifier.verdict version
  | some _, none => .ofUnread (Specifier.fault? specifier)
  | none, _ => .ofUnread ((Version.oversized? version).map .oversized)

end StoryGraph
