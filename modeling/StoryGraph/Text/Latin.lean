/-!
# Latin letters in any case

Two ways to disregard case.  The small form of a text serves to compare it with
Latin words.  Folding is wider: a letter is taken for the Latin one with which
it shares its small letter or its capital.
-/

namespace StoryGraph.Text

/-- The small letter of a Latin capital and of the Kelvin sign, which is the one
other character with a Latin small letter; every other character stays. -/
def smallLatin (character : Char) : Char :=
  if character.toNat = 0x212A then 'k' else character.toLower

/-- The text in small Latin letters. -/
def lowerLatin (text : String) : String :=
  String.ofList (text.toList.map smallLatin)

/-- The small Latin letter for which a character is taken: also the one for the
two letters i that differ in their dot, and for the long s. -/
def foldLatin (character : Char) : Char :=
  if character.toNat = 0x130 || character.toNat = 0x131 then 'i'
  else if character.toNat = 0x17F then 's'
  else smallLatin character

end StoryGraph.Text
