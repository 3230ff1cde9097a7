import StoryGraph.Number.Layout
import StoryGraph.Number.Numeral

/-!
# Format versions

A version has an epoch, a release, and optionally a pre-release, a
post-release, a development release and a local label.  Several spellings are
read as the same version, and `toText` writes the normal one.  Versions are
ordered by their parts, where trailing zeros of the release do not count.
-/

namespace StoryGraph

inductive Phase where
  | alpha
  | beta
  | candidate
  deriving DecidableEq

namespace Phase

def word : Phase → String
  | alpha => "a"
  | beta => "b"
  | candidate => "rc"

def rank : Phase → Nat
  | alpha => 0
  | beta => 1
  | candidate => 2

end Phase

/-- A segment of a local label. -/
inductive Segment where
  | word (text : String)
  | number (value : Nat)
  deriving DecidableEq

structure Version where
  epoch : Nat
  /-- First number of the release. -/
  major : Nat
  /-- Further numbers of the release. -/
  minors : List Nat
  pre : Option (Phase × Nat)
  post : Option Nat
  dev : Option Nat
  label : Option (List Segment)
  deriving DecidableEq

namespace Version

def release (version : Version) : List Nat := version.major :: version.minors

/-- Whether the version is not final. -/
def isPrerelease (version : Version) : Bool :=
  version.pre.isSome || version.dev.isSome

/-- The version with its epoch and release only. -/
def base (version : Version) : Version :=
  ⟨version.epoch, version.major, version.minors, none, none, none, none⟩

/-- The version without its local label. -/
def unlabelled (version : Version) : Version := { version with label := none }

/-- The characters without a leading separator. -/
def dropSeparator : List Char → List Char
  | character :: rest =>
    if character == '-' || character == '_' || character == '.' then rest
    else character :: rest
  | [] => []

def digits (characters : List Char) : List Char × List Char :=
  (characters.takeWhile Char.isDigit, characters.dropWhile Char.isDigit)

def numberOf (digits : List Char) : Nat :=
  Numeral.ofDigits (digits.map fun digit => digit.toNat - 0x30)

/-- What follows a word at the start of the characters. -/
def afterWord? (word : String) (characters : List Char) : Option (List Char) :=
  if word.toList.isPrefixOf characters then some (characters.drop word.length)
  else none

/-- The first of some words that the characters start with, by its meaning. -/
def readWord? {α : Type} (words : List (String × α)) (characters : List Char) :
    Option (α × List Char) :=
  words.findSome? fun (word, meaning) =>
    (afterWord? word characters).map fun rest => (meaning, rest)

/-- A marked number: an optional separator, one of some words, an optional
separator and an optional number. -/
def readMarked? {α : Type} (words : List (String × α))
    (characters : List Char) : Option ((α × Nat) × List Char) :=
  (readWord? words (dropSeparator characters)).map fun (meaning, rest) =>
    let (number, after) := digits (dropSeparator rest)
    ((meaning, numberOf number), after)

def phaseWords : List (String × Phase) :=
  [("alpha", .alpha), ("a", .alpha), ("beta", .beta), ("b", .beta), ("preview",
    .candidate), ("pre", .candidate), ("c", .candidate), ("rc", .candidate)]

def postWords : List (String × Unit) := [("post", ()), ("rev", ()), ("r", ())]

def devWords : List (String × Unit) := [("dev", ())]

/-- The numbers of a release after the first one. -/
def readMinors : Nat → List Char → List Nat × List Char
  | 0, characters => ([], characters)
  | fuel + 1, characters =>
    match characters with
    | '.' :: rest =>
      match digits rest with
      | ([], _) => ([], '.' :: rest)
      | (number, after) =>
        let (numbers, rest) := readMinors fuel after
        (numberOf number :: numbers, rest)
    | rest => ([], rest)

/-- Epoch and release, after an optional letter for version. -/
def readBase? (characters : List Char) : Option (Version × List Char) :=
  let start := match characters with
    | 'v' :: rest => rest
    | rest => rest
  match digits start with
  | ([], _) => none
  | (first, after) =>
    match after with
    | '!' :: rest =>
      match digits rest with
      | ([], _) => none
      | (major, after) =>
        let (minors, rest) := readMinors after.length after
        some (⟨numberOf first, numberOf major, minors, none, none, none, none⟩,
          rest)
    | _ =>
      let (minors, rest) := readMinors after.length after
      some (⟨0, numberOf first, minors, none, none, none, none⟩, rest)

def readPre (characters : List Char) : Option (Phase × Nat) × List Char :=
  match readMarked? phaseWords characters with
  | some (pre, rest) => (some pre, rest)
  | none => (none, characters)

/-- A post-release; a hyphen and a number suffice for it. -/
def readPost (characters : List Char) : Option Nat × List Char :=
  let short := match characters with
    | '-' :: rest =>
      match digits rest with
      | ([], _) => none
      | (number, after) => some (numberOf number, after)
    | _ => none
  match short with
  | some (number, rest) => (some number, rest)
  | none =>
    match readMarked? postWords characters with
    | some ((_, number), rest) => (some number, rest)
    | none => (none, characters)

def readDev (characters : List Char) : Option Nat × List Char :=
  match readMarked? devWords characters with
  | some ((_, number), rest) => (some number, rest)
  | none => (none, characters)

def segmentOf (characters : List Char) : Segment :=
  if characters.all Char.isDigit then .number (numberOf characters)
  else .word (String.ofList characters)

/-- Splits at hyphens, underscores and points. -/
def splitLabel : List Char → List (List Char)
  | [] => [[]]
  | character :: rest =>
    if character == '-' || character == '_' || character == '.' then
      [] :: splitLabel rest
    else match splitLabel rest with
      | first :: others => (character :: first) :: others
      | [] => [[character]]

/-- A local label, or nothing at all; `none` when something else is left. -/
def readLabel? : List Char → Option (Option (List Segment))
  | [] => some none
  | '+' :: rest =>
    let segments := splitLabel rest
    if segments.all fun segment => !segment.isEmpty &&
      segment.all Char.isAlphanum then
      some (some (segments.map segmentOf))
    else none
  | _ => none

/-- The suffixes of a version that has an epoch and a release. -/
def readSuffixes? (version : Version)
    (characters : List Char) : Option Version :=
  let (pre, afterPre) := readPre characters
  let (post, afterPost) := readPost afterPre
  let (dev, afterDev) := readDev afterPost
  (readLabel? afterDev).map fun label => { version with pre, post, dev, label }

/-- Reads a version from small letters without outer blanks. -/
@[irreducible]
def ofCharacters? (characters : List Char) : Option Version :=
  (readBase? characters).bind fun (version, rest) => readSuffixes? version rest

/-- The text in small letters without outer blanks. -/
def normalCharacters (text : String) : List Char :=
  (Text.stripList Text.isBlank text.toList).map Char.toLower

/-- Lengths of the runs of digits, with an empty run wherever there is none. -/
def digitRuns : List Char → List Nat
  | [] => [0]
  | character :: rest =>
    match digitRuns rest with
    | [] => []
    | length :: lengths =>
      if character.isDigit then (length + 1) :: lengths
      else 0 :: length :: lengths

/-- Number of digits of the first number that has too many of them.  In a local
label only segments of digits alone are numbers. -/
def oversizedNumber? (characters : List Char) : Option Nat :=
  let label := splitLabel (characters.dropWhile (· != '+')).tail
  let lengths := digitRuns (characters.takeWhile (· != '+')) ++
    (label.filter (·.all Char.isDigit)).map List.length
  lengths.find? (Numeral.digitBound < ·)

/-- Number of digits of the first number that has too many of them, in a text
that would be a version without the bound. -/
def oversized? (text : String) : Option Nat :=
  (ofCharacters? (normalCharacters text)).bind fun _ =>
    oversizedNumber? (normalCharacters text)

/-- Reads a version in any of its spellings. -/
def parse? (text : String) : Option Version :=
  match oversized? text with
  | some _ => none
  | none => ofCharacters? (normalCharacters text)

def segmentText : Segment → String
  | .word text => text
  | .number value => Layout.digitText value

/-- The normal spelling. -/
def toText (version : Version) : String :=
  (if version.epoch = 0 then "" else Layout.digitText version.epoch ++ "!") ++
    ".".intercalate (version.release.map Layout.digitText) ++
    (match version.pre with
      | some (phase, number) => phase.word ++ Layout.digitText number
      | none => "") ++
    (match version.post with
      | some number => ".post" ++ Layout.digitText number
      | none => "") ++
    (match version.dev with
      | some number => ".dev" ++ Layout.digitText number
      | none => "") ++
    (match version.label with
      | some segments => "+" ++ ".".intercalate (segments.map segmentText)
      | none => "")

/-- A release without its trailing zeros. -/
def trimZeros (release : List Nat) : List Nat :=
  (release.reverse.dropWhile (· == 0)).reverse

/-- Order of lists by their first differing items; a proper beginning comes
first. -/
def compareLists {α : Type}
    (compare : α → α → Ordering) : List α → List α → Ordering
  | [], [] => .eq
  | [], _ :: _ => .lt
  | _ :: _, [] => .gt
  | left :: lefts, right :: rights =>
    (compare left right).then (compareLists compare lefts rights)

/-- Place of the pre-release part: a development release of a final version
comes before its pre-releases, and the final version after them. -/
def preKey (version : Version) : Nat × Nat × Nat :=
  match version.pre with
  | some (phase, number) => (1, phase.rank, number)
  | none =>
    if version.post.isNone && version.dev.isSome then (0, 0, 0) else (2, 0, 0)

def postKey (version : Version) : Nat :=
  match version.post with
  | some number => number + 1
  | none => 0

def devKey (version : Version) : Nat × Nat :=
  match version.dev with
  | some number => (0, number)
  | none => (1, 0)

/-- Numbers come after words in labels. -/
def compareSegments : Segment → Segment → Ordering
  | .word left, .word right => compareOfLessAndEq left right
  | .word _, .number _ => .lt
  | .number _, .word _ => .gt
  | .number left, .number right => compare left right

def compareLabels : Option (List Segment) → Option (List Segment) → Ordering
  | none, none => .eq
  | none, some _ => .lt
  | some _, none => .gt
  | some left, some right => compareLists compareSegments left right

def compareVersions (left right : Version) : Ordering :=
  let (leftStage, leftRank, leftNumber) := left.preKey
  let (rightStage, rightRank, rightNumber) := right.preKey
  (compare left.epoch right.epoch).then <|
  (compareLists compare (trimZeros left.release)
    (trimZeros right.release)).then <|
  (compare leftStage rightStage).then <|
  (compare leftRank rightRank).then <|
  (compare leftNumber rightNumber).then <|
  (compare left.postKey right.postKey).then <|
  (compare left.devKey.1 right.devKey.1).then <|
  (compare left.devKey.2 right.devKey.2).then <|
  compareLabels left.label right.label

def isBefore (left right : Version) : Bool := compareVersions left right == .lt

/-- The same version, whatever the spelling. -/
def isSame (left right : Version) : Bool := compareVersions left right == .eq

end Version

end StoryGraph
