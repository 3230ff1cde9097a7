import StoryGraph.Value.Located

/-!
# Document data

Values as documents hold them: tuples become lists, locations objects, and
free-form floating point numbers that are not finite become null.  A value can
only be written when it is not nested too deeply.
-/

namespace StoryGraph

/-- Why data cannot be written. -/
inductive WriteError where
  /-- A value is nested too deeply for a document. -/
  | tooDeep
  /-- A value is nested too deeply for a stored text. -/
  | storedTooDeep
  /-- A variable holds a location, for which documents have no form there. -/
  | location (kind : String)
  deriving DecidableEq

namespace WriteError

def depthMessage : String := "Maximum serialization depth exceeded"

def message : WriteError → String
  | tooDeep => depthMessage
  | storedTooDeep => "Error serializing to JSON: ValueError: " ++ depthMessage
  | location kind => "Object of type " ++ kind ++ " is not JSON serializable"

end WriteError

namespace Value

mutual

def toData : Value → Value
  | .null => .null
  | .bool truth => .bool truth
  | .int number => .int number
  | .float number => if number.isFinite then .float number else .null
  | .str text => .str text
  | .list items => .list (itemsToData items)
  | .tuple items => .list (itemsToData items)
  | .dict fields => .dict (fieldsToData fields)
  | .position place => .dict place.dump
  | .port ref => .dict ref.dump
termination_by structural value => value

def itemsToData : List Value → List Value
  | [] => []
  | item :: items => toData item :: itemsToData items
termination_by structural items => items

def fieldsToData : List (String × Value) → List (String × Value)
  | [] => []
  | (key, value) :: fields => (key, toData value) :: fieldsToData fields
termination_by structural fields => fields

end

mutual

/-- Number of levels: one for a plain value, and one more than the deepest part
for lists and objects. -/
def depth : Value → Nat
  | .list items => itemsDepth items + 1
  | .tuple items => itemsDepth items + 1
  | .dict fields => fieldsDepth fields + 1
  | _ => 1
termination_by structural value => value

def itemsDepth : List Value → Nat
  | [] => 0
  | item :: items => max (depth item) (itemsDepth items)
termination_by structural items => items

def fieldsDepth : List (String × Value) → Nat
  | [] => 0
  | (_, value) :: fields => max (depth value) (fieldsDepth fields)
termination_by structural fields => fields

end

/-- Free-form values of more levels cannot be written. -/
def depthLimit : Nat := 255

def isWritable (value : Value) : Bool := value.depth ≤ depthLimit

end Value

end StoryGraph
