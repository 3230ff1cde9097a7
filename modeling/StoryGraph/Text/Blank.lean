/-!
# Blank characters

Two classes of blank characters occur in the library.  Expressions and words
are trimmed and split at *blanks*; numerals are trimmed at the smaller class
of *numeral blanks*, which leaves out the four information separators.  The
operations are stated on character lists, and the string forms only wrap them.
-/

namespace StoryGraph.Text

/-- Space characters of the Unicode database, with the tabulators, line breaks
and the next-line control. -/
def isNumeralBlank (character : Char) : Bool :=
  let code := character.toNat
  (0x09 ≤ code && code ≤ 0x0D) || code == 0x20 || code == 0x85 ||
    code == 0xA0 ||
    code == 0x1680 || (0x2000 ≤ code && code ≤ 0x200A) || code == 0x2028 ||
    code == 0x2029 || code == 0x202F || code == 0x205F || code == 0x3000

/-- Numeral blanks and the four information separators U+001C to U+001F. -/
def isBlank (character : Char) : Bool :=
  isNumeralBlank character || (0x1C ≤ character.toNat && character.toNat ≤ 0x1F)

/-- The list without the leading and trailing characters of a class. -/
def stripList (drops : Char → Bool) (characters : List Char) : List Char :=
  ((characters.dropWhile drops).reverse.dropWhile drops).reverse

/-- The text without leading and trailing blanks. -/
def trim (text : String) : String :=
  String.ofList (stripList isBlank text.toList)

/-- The text without leading and trailing numeral blanks. -/
def trimNumeral (text : String) : List Char :=
  stripList isNumeralBlank text.toList

/-- Splits a text at its first two runs of blanks.  Leading and trailing blanks
do not count, and the third word keeps the blanks inside it. -/
def threeWords? (text : String) : Option (String × String × String) :=
  let solid := fun character => !isBlank character
  let characters := stripList isBlank text.toList
  let first := characters.takeWhile solid
  let afterFirst := (characters.dropWhile solid).dropWhile isBlank
  let second := afterFirst.takeWhile solid
  let third := (afterFirst.dropWhile solid).dropWhile isBlank
  if first.isEmpty || second.isEmpty || third.isEmpty then none
  else some (String.ofList first, String.ofList second, String.ofList third)

/-- Splits a text at its first colon, which belongs to neither part. -/
def atColon? (text : String) : Option (String × String) :=
  let characters := text.toList
  match characters.dropWhile (· != ':') with
  | [] => none
  | _ :: rest =>
    some (String.ofList (characters.takeWhile (· != ':')), String.ofList rest)

end StoryGraph.Text
