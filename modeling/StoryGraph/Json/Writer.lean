import StoryGraph.Number.Layout
import StoryGraph.Value.Literal

/-!
# Writing JSON texts

A `Style` collects the choices of a JSON printer.  Graph documents and
canonical texts use Latin characters only and write others by their codes;
stored compiled graphs keep all characters.
-/

namespace StoryGraph.Json

structure Style where
  itemSeparator : String
  keySeparator : String
  /-- Whether characters other than printable Latin ones are written by code. -/
  latinOnly : Bool
  layout : Layout

namespace Style

def document : Style := ⟨", ", ": ", true, .document⟩

def canonical : Style := ⟨",", ":", true, .document⟩

def stored : Style := ⟨",", ":", false, .stored⟩

end Style

def codeEscape (code : Nat) : String := "\\u" ++ hexadecimal 4 code

/-- A character by its code, in two halves when it needs more than sixteen
bits. -/
def escapeByCode (character : Char) : String :=
  let code := character.toNat
  if code < 0x10000 then codeEscape code
  else
    codeEscape (0xD800 + (code - 0x10000) / 0x400) ++
      codeEscape (0xDC00 + (code - 0x10000) % 0x400)

def escapeCharacter (latinOnly : Bool) (character : Char) : String :=
  let code := character.toNat
  if character == '"' then "\\\""
  else if character == '\\' then "\\\\"
  else if character == '\n' then "\\n"
  else if character == '\r' then "\\r"
  else if character == '\t' then "\\t"
  else if code = 0x08 then "\\b"
  else if code = 0x0C then "\\f"
  else if code < 0x20 then codeEscape code
  else if latinOnly && 0x7F ≤ code then escapeByCode character
  else String.singleton character

def writeString (style : Style) (text : String) : String :=
  "\"" ++ String.join (text.toList.map (escapeCharacter style.latinOnly)) ++
    "\""

/-- An object whose values have been written. -/
def writeObject (style : Style) (fields : List (String × String)) : String :=
  "\x7b" ++ style.itemSeparator.intercalate
    (fields.map fun field =>
      writeString style field.1 ++ style.keySeparator ++ field.2) ++ "\x7d"

/-- A location is written as documents hold it. -/
def writePosition (style : Style) (place : Position) : String :=
  writeObject style
    [("x", style.layout.text place.x.number),
      ("y", style.layout.text place.y.number)]

def writePort (style : Style) (ref : PortRef) : String :=
  writeObject style
    [("nodeId", writeString style ref.nodeId),
      ("port", Layout.integerText ref.port)]

mutual

def write (style : Style) : Value → String
  | .null => "null"
  | .bool truth => if truth then "true" else "false"
  | .int number => Layout.integerText number
  | .float number => style.layout.text number
  | .str text => writeString style text
  | .list items =>
    "[" ++ style.itemSeparator.intercalate (writeItems style items) ++ "]"
  | .tuple items =>
    "[" ++ style.itemSeparator.intercalate (writeItems style items) ++ "]"
  | .dict fields =>
    "\x7b" ++ style.itemSeparator.intercalate (writeFields style fields) ++
      "\x7d"
  | .position place => writePosition style place
  | .port ref => writePort style ref
termination_by structural value => value

def writeItems (style : Style) : List Value → List String
  | [] => []
  | item :: items => write style item :: writeItems style items
termination_by structural items => items

def writeFields (style : Style) : List (String × Value) → List String
  | [] => []
  | (key, value) :: fields =>
    (writeString style key ++ style.keySeparator ++ write style value) ::
      writeFields style fields
termination_by structural fields => fields

end

mutual

/-- The value with the keys of all objects in increasing order. -/
def sortKeys : Value → Value
  | .null => .null
  | .bool truth => .bool truth
  | .int number => .int number
  | .float number => .float number
  | .str text => .str text
  | .list items => .list (sortKeysOfItems items)
  | .tuple items => .tuple (sortKeysOfItems items)
  | .dict fields => .dict ((sortKeysOfFields fields).mergeSort (·.1 ≤ ·.1))
  | .position place => .position place
  | .port ref => .port ref
termination_by structural value => value

def sortKeysOfItems : List Value → List Value
  | [] => []
  | item :: items => sortKeys item :: sortKeysOfItems items
termination_by structural items => items

def sortKeysOfFields : List (String × Value) → List (String × Value)
  | [] => []
  | (key, value) :: fields => (key, sortKeys value) :: sortKeysOfFields fields
termination_by structural fields => fields

end

end StoryGraph.Json
