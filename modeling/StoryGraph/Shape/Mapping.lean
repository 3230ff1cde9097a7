import StoryGraph.Shape.Record
import StoryGraph.Value.Comparison
import StoryGraph.Value.Literal

/-!
# Values read as mappings

Some arguments are taken as mappings without being objects: a sequence of pairs
counts as one, where a text of two characters and an object with two keys are
pairs as well.  A location is the sequence of its parts.  Keys need not be
texts then; a record reports those that are not.
-/

namespace StoryGraph

/-- Why a value is no mapping. -/
inductive MappingError where
  | notIterable (kind : String)
  | elementNotSequence (position : Nat)
  | elementLength (position length : Nat)
  | unhashableKey (kind : String)
  deriving DecidableEq

namespace MappingError

def message : MappingError → String
  | notIterable kind => "'" ++ kind ++ "' object is not iterable"
  | elementNotSequence position =>
    "cannot convert dictionary update sequence element #" ++
      toString position ++ " to a sequence"
  | elementLength position length =>
    "dictionary update sequence element #" ++ toString position ++
      " has length " ++
      toString length ++ "; 2 is required"
  | unhashableKey kind => "unhashable type: '" ++ kind ++ "'"

/-- Whether the error is about a length, and not about a kind of value. -/
def isLengthError : MappingError → Bool
  | elementLength .. => true
  | _ => false

end MappingError

abbrev Entries := List (Value × Value)

namespace Entries

def ofFields (fields : List (String × Value)) : Entries :=
  fields.map fun field => (.str field.1, field.2)

/-- The parts of a value that a loop over it visits. -/
def parts? : Value → Option (List Value)
  | .str text =>
    some (text.toList.map fun character => .str (String.singleton character))
  | .dict fields => some (fields.map fun field => .str field.1)
  | value => value.items?

mutual

/-- The part of a key that cannot be looked up, by its kind. -/
def unhashable? : Value → Option String
  | .list _ => some "list"
  | .dict _ => some "dict"
  | .tuple items => unhashableItem? items
  | .position place => some (Value.position place).kindWord
  | _ => none
termination_by structural value => value

def unhashableItem? : List Value → Option String
  | [] => none
  | item :: items => (unhashable? item).or (unhashableItem? items)
termination_by structural items => items

end

/-- Replaces the value of an equal key, or appends the key. -/
def insert (key value : Value) : Entries → Entries
  | [] => [(key, value)]
  | (first, old) :: rest =>
    if first.equal key then (first, value) :: rest
    else (first, old) :: insert key value rest

/-- Adds pairs in turn, starting at the given position of their sequence. -/
def addPairs (position : Nat) (entries : Entries) :
    List Value → Except MappingError Entries
  | [] => .ok entries
  | element :: rest =>
    match parts? element with
    | none => .error (.elementNotSequence position)
    | some [key, value] =>
      match unhashable? key with
      | some kind => .error (.unhashableKey kind)
      | none => addPairs (position + 1) (insert key value entries) rest
    | some parts => .error (.elementLength position parts.length)

/-- The mapping that a value stands for. -/
def ofValue (value : Value) : Except MappingError Entries :=
  match value with
  | .dict fields => .ok (ofFields fields)
  | _ =>
    match parts? value with
    | none => .error (.notIterable value.kindWord)
    | some elements => addPairs 0 [] elements

/-- The entries whose keys are texts. -/
def fields (entries : Entries) : List (String × Value) :=
  entries.filterMap fun entry =>
    match entry.1 with
    | .str key => some (key, entry.2)
    | _ => none

/-- The step to the value of a key.  Integers beyond a machine word are shown
as texts. -/
def stepOf : Value → Step
  | .str key => .key key
  | .int number =>
    if -Check.wordBound ≤ number && number < Check.wordBound then .index number
    else .key (Literal.ofValue (.int number))
  | .bool truth => .index truth.toInt
  | key => .key (Literal.ofValue key)

/-- Issues of the keys that no field of a record uses. -/
def strangers (known : List FieldName) (entries : Entries) : List Issue :=
  let unknown := unknownKeys known entries.fields
  entries.filterMap fun entry =>
    match entry.1 with
    | .str key =>
      if unknown.contains key then some ⟨.extraForbidden, [.key key]⟩ else none
    | key => some ⟨.invalidKey, [stepOf key]⟩

/-- Entries checked as a record. -/
def check {α : Type} (known : List FieldName)
    (read : List (String × Value) → Checked α)
    (entries : Entries) : Checked α :=
  read entries.fields <*
    (match strangers known entries with
      | [] => .accepted ()
      | issues => .rejected issues : Checked Unit)

end Entries

end StoryGraph
