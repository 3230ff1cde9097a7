import StoryGraph.Value.Basic

/-!
# Locations in values

A value may hold a position or a port that has been checked before.  Wherever
a sequence is asked for, such a location stands for its named parts, each of
them a pair; documents hold it as an object.
-/

namespace StoryGraph

namespace Coordinate

/-- The coordinate on its own: an integer zero when it was left out. -/
def toValue : Coordinate → Value
  | none => .int 0
  | some number => .float number

/-- The coordinate in documents, where one that was left out is zero. -/
def dump (coordinate : Coordinate) : Value := .float coordinate.number

end Coordinate

namespace Position

def parts (position : Position) : List (String × Value) :=
  [("x", position.x.toValue), ("y", position.y.toValue)]

/-- The position as documents hold it. -/
def dump (position : Position) : List (String × Value) :=
  [("x", position.x.dump), ("y", position.y.dump)]

end Position

namespace PortRef

def parts (ref : PortRef) : List (String × Value) :=
  [("node_id", .str ref.nodeId), ("port", .int ref.port)]

/-- The port as documents hold it. -/
def dump (ref : PortRef) : List (String × Value) :=
  [("nodeId", .str ref.nodeId), ("port", .int ref.port)]

end PortRef

namespace Value

/-- Named parts as a sequence of pairs. -/
def pairs (parts : List (String × Value)) : List Value :=
  parts.map fun part => .tuple [.str part.1, part.2]

/-- The items of a list or tuple, and the parts of a location. -/
def items? : Value → Option (List Value)
  | .list items => some items
  | .tuple items => some items
  | .position place => some (pairs place.parts)
  | .port ref => some (pairs ref.parts)
  | _ => none

mutual

/-- The value with objects in place of its locations. -/
def withoutLocations : Value → Value
  | .null => .null
  | .bool truth => .bool truth
  | .int number => .int number
  | .float number => .float number
  | .str text => .str text
  | .list items => .list (itemsWithoutLocations items)
  | .tuple items => .tuple (itemsWithoutLocations items)
  | .dict fields => .dict (fieldsWithoutLocations fields)
  | .position place => .dict place.parts
  | .port ref => .dict ref.dump
termination_by structural value => value

def itemsWithoutLocations : List Value → List Value
  | [] => []
  | item :: items => withoutLocations item :: itemsWithoutLocations items
termination_by structural items => items

def fieldsWithoutLocations : List (String × Value) → List (String × Value)
  | [] => []
  | (key, value) :: fields =>
    (key, withoutLocations value) :: fieldsWithoutLocations fields
termination_by structural fields => fields

end

mutual

/-- The kind of the first location in a value, if it holds one. -/
def locationKind? : Value → Option String
  | .list items => itemsLocationKind? items
  | .tuple items => itemsLocationKind? items
  | .dict fields => fieldsLocationKind? fields
  | .position place => some (kindWord (.position place))
  | .port ref => some (kindWord (.port ref))
  | _ => none
termination_by structural value => value

def itemsLocationKind? : List Value → Option String
  | [] => none
  | item :: items => (locationKind? item).or (itemsLocationKind? items)
termination_by structural items => items

def fieldsLocationKind? : List (String × Value) → Option String
  | [] => none
  | (_, value) :: fields =>
    (locationKind? value).or (fieldsLocationKind? fields)
termination_by structural fields => fields

end

end Value

end StoryGraph
