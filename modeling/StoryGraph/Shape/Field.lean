import StoryGraph.IdSet
import StoryGraph.Number.Numeral
import StoryGraph.Shape.Checked
import StoryGraph.Table
import StoryGraph.Text.Latin
import StoryGraph.Value.Located

/-!
# Field types

Each check turns a value into a typed one.  Checks are lenient where the
intended value is clear: numerals and truth words are accepted as texts, and
numbers of one kind stand for numbers of another when nothing is lost.
-/

namespace StoryGraph

abbrev Check (α : Type) := Value → Checked α

namespace Check

variable {α β : Type}

def any : Check Value := .accepted

def text : Check String
  | .str text => .accepted text
  | _ => .fail .stringType

/-- A text, or null for none. -/
def optionalText : Check (Option String)
  | .null => .accepted none
  | .str text => .accepted (some text)
  | _ => .fail .stringType

/-- Floating point numbers stand for integers below this magnitude. -/
def wordBound : Int := 0x8000000000000000

/-- A floating point number as the integer that it is. -/
def integerOfFloat (number : Binary64) : Checked Int :=
  if !number.isFinite then .fail .finiteNumber
  else match number.toInt? with
    | none => .fail .intFromFloat
    | some integer =>
      if -wordBound < integer && integer < wordBound then .accepted integer
      else .fail .intParsingSize

def integer : Check Int
  | .int number => .accepted number
  | .bool truth => .accepted truth.toInt
  | .float number => integerOfFloat number
  | .str text =>
    match Numeral.wholeNumber? text with
    | some number => .accepted number
    | none =>
      .fail (if Numeral.isOversized text then .intParsingSize else .intParsing)
  | _ => .fail .intType

def atLeast (low : Int) (number : Int) : Checked Int :=
  if number < low then .fail .greaterThanEqual else .accepted number

def atMost (high : Int) (number : Int) : Checked Int :=
  if high < number then .fail .lessThanEqual else .accepted number

/-- An integer between two bounds, both included. -/
def integerBetween (low high : Int) : Check Int := fun value =>
  ((integer value).andThen (atLeast low)).andThen (atMost high)

def float : Check Binary64
  | .float number => .accepted number
  | .int number =>
    match Binary64.ofInt? number with
    | some nearest => .accepted nearest
    | none => .fail .floatType
  | .bool truth => .accepted (.ofQuotient false truth.toNat 1)
  | .str text =>
    match Numeral.realNumber? text with
    | some number => .accepted number
    | none => .fail .floatParsing
  | _ => .fail .floatType

/-- Words for true and for false, in any case. -/
def truthOfWord? (word : String) : Option Bool :=
  let small := Text.lowerLatin word
  if ["0", "off", "f", "false", "n", "no"].contains small then some false
  else if ["1", "on", "t", "true", "y", "yes"].contains small then some true
  else none

def boolean : Check Bool
  | .bool truth => .accepted truth
  | .int number =>
    if number = 0 then .accepted false
    else if number = 1 then .accepted true
    else if -wordBound ≤ number && number < wordBound then .fail .boolParsing
    else .fail .boolType
  | .float number =>
    match number.toInt? with
    | some integer =>
      if integer = 0 then .accepted false
      else if integer = 1 then .accepted true
      else if -wordBound < integer && integer < wordBound then
        .fail .boolParsing
      else .fail .boolType
    | none => .fail .boolType
  | .str word =>
    match truthOfWord? word with
    | some truth => .accepted truth
    | none => .fail .boolParsing
  | _ => .fail .boolType

/-- One of the words that `read?` knows. -/
def word (read? : String → Option α) : Check α
  | .str text =>
    match read? text with
    | some result => .accepted result
    | none => .fail .enum
  | _ => .fail .enum

/-- Checks every item under its position. -/
def items (check : Check α) (values : List Value) : Checked (List α) :=
  .all (values.mapIdx fun position value =>
    (check value).under (.index position))

/-- The items of a sequence; another value has the given fault. -/
def sequence (fault : Fault) (check : Check α) : Check (List α) := fun value =>
  match value.items? with
  | some values => items check values
  | none => .fail fault

def list (check : Check α) : Check (List α) := sequence .listType check

def tuple (check : Check α) : Check (List α) := sequence .tupleType check

def idSet : Check IdSet :=
  fun value => (sequence .setType text value).map IdSet.ofList

/-- Exactly two items.  Further items hide the issues of the first two. -/
def pairItems (first : Check α)
    (second : Check β) : List Value → Checked (α × β)
  | [] => .rejected [⟨.missing, [.index 0]⟩, ⟨.missing, [.index 1]⟩]
  | [left] =>
    .apply (.map Prod.mk ((first left).under (.index 0)))
      (.rejected [⟨.missing, [.index 1]⟩])
  | [left, right] =>
    .apply (.map Prod.mk ((first left).under (.index 0)))
      ((second right).under (.index 1))
  | _ => .fail .tooLong

def pair (first : Check α) (second : Check β) : Check (α × β) := fun value =>
  match value.items? with
  | some values => pairItems first second values
  | none => .fail .tupleType

/-- An object whose values all pass the same check. -/
def table (check : Check α) : Check (Table α)
  | .dict fields =>
    (Checked.all (fields.map fun field =>
      ((check field.2).under (.key field.1)).map fun result =>
        (field.1, result))).map Table.ofList
  | _ => .fail .dictType

end Check

end StoryGraph
