import StoryGraph.Number.Layout
import StoryGraph.Number.Numeral
import StoryGraph.Text.Printable
import StoryGraph.Value.Located

/-!
# Literals

The form in which messages show a value.  Texts stand in single quotes, or in
double quotes when that saves escaping, and characters that cannot be shown are
written by their code.  A value with an integer that has no numeral cannot be
shown at all.
-/

namespace StoryGraph

/-- The number in hexadecimal with at least `width` digits. -/
def hexadecimal (width number : Nat) : String :=
  let digits := Nat.toDigits 16 number
  String.ofList (List.replicate (width - digits.length) '0' ++ digits)

namespace Literal

def escapeCharacter (quote character : Char) : String :=
  let code := character.toNat
  if character == quote || character == '\\' then
    String.ofList ['\\', character]
  else if character == '\n' then "\\n"
  else if character == '\r' then "\\r"
  else if character == '\t' then "\\t"
  else if Text.isPrintable character then String.singleton character
  else if code < 0x100 then "\\x" ++ hexadecimal 2 code
  else if code < 0x10000 then "\\u" ++ hexadecimal 4 code
  else "\\U" ++ hexadecimal 8 code

/-- The quotation mark for a text: single, unless only single ones occur in
it. -/
def quoteFor (text : String) : Char :=
  if text.toList.contains '\'' && !text.toList.contains '"' then '"' else '\''

def ofText (text : String) : String :=
  let quote := quoteFor text
  String.singleton quote ++
    String.join (text.toList.map (escapeCharacter quote)) ++
    String.singleton quote

/-- The coordinate as an integer zero when it was left out. -/
def ofCoordinate : Coordinate → String
  | none => "0"
  | some number => Layout.plain.text number

/-- The parts of a location, each behind its name. -/
def partsOfPosition (place : Position) : List String :=
  ["x=" ++ ofCoordinate place.x, "y=" ++ ofCoordinate place.y]

def partsOfPort (ref : PortRef) : List String :=
  ["node_id=" ++ ofText ref.nodeId, "port=" ++ Layout.integerText ref.port]

mutual

def ofValue : Value → String
  | .null => "None"
  | .bool truth => if truth then "True" else "False"
  | .int number => Layout.integerText number
  | .float number => Layout.plain.text number
  | .str text => ofText text
  | .list items => "[" ++ ", ".intercalate (ofItems items) ++ "]"
  | .tuple [item] => "(" ++ ofValue item ++ ",)"
  | .tuple items => "(" ++ ", ".intercalate (ofItems items) ++ ")"
  | .dict fields => "\x7b" ++ ", ".intercalate (ofFields fields) ++ "\x7d"
  | .position place =>
    "Position(" ++ ", ".intercalate (partsOfPosition place) ++ ")"
  | .port ref => "PortRef(" ++ ", ".intercalate (partsOfPort ref) ++ ")"
termination_by structural value => value

def ofItems : List Value → List String
  | [] => []
  | item :: items => ofValue item :: ofItems items
termination_by structural items => items

def ofFields : List (String × Value) → List String
  | [] => []
  | (key, value) :: fields =>
    (ofText key ++ ": " ++ ofValue value) :: ofFields fields
termination_by structural fields => fields

end

def ofTexts (texts : List String) : String :=
  "[" ++ ", ".intercalate (texts.map ofText) ++ "]"

end Literal

namespace Value

mutual

/-- Whether the value can be shown: every integer in it has a numeral. -/
def isSpellable : Value → Bool
  | .int number => Numeral.isSpellable number
  | .list items => areSpellable items
  | .tuple items => areSpellable items
  | .dict fields => haveSpellable fields
  | .port ref => Numeral.isSpellable ref.port
  | _ => true
termination_by structural value => value

def areSpellable : List Value → Bool
  | [] => true
  | item :: items => isSpellable item && areSpellable items
termination_by structural items => items

def haveSpellable : List (String × Value) → Bool
  | [] => true
  | (_, value) :: fields => isSpellable value && haveSpellable fields
termination_by structural fields => fields

end

end Value

/-- The plain form of a value: a text is itself, a location its parts, all else
its literal. -/
def Value.plainText : Value → String
  | .str text => text
  | .position place => " ".intercalate (Literal.partsOfPosition place)
  | .port ref => " ".intercalate (Literal.partsOfPort ref)
  | value => Literal.ofValue value

end StoryGraph
