import StoryGraph.Shape.Field

/-!
# Records

A record is an object with known fields.  A field is found under its key or
under its other spelling; the key wins when both are present, and the other
spelling is then an unknown key.  Issues come in the order of the fields,
followed by the unknown keys in the order of the object.
-/

namespace StoryGraph

/-- The spellings of a field: `key` is the one that documents use. -/
structure FieldName where
  key : String
  other : String
  deriving DecidableEq

namespace FieldName

/-- A field with a single spelling. -/
def plain (key : String) : FieldName := ⟨key, key⟩

/-- No record has fields under private names, which begin with an underscore. -/
def isPrivate (name : String) : Bool := name.startsWith "_"

/-- The spelling under which an object has the field, and its value. -/
def find? (name : FieldName)
    (fields : List (String × Value)) : Option (String × Value) :=
  match fields.lookup name.key with
  | some value => some (name.key, value)
  | none => (fields.lookup name.other).map fun value => (name.other, value)

/-- The field's value as checked; an absent field has the fallback value. -/
def check {α : Type} (name : FieldName) (check : Check α) (fallback : Option α)
    (fields : List (String × Value)) : Checked α :=
  match name.find? fields with
  | some (spelling, value) => (check value).under (.key spelling)
  | none =>
    match fallback with
    | some result => .accepted result
    | none => .rejected [⟨.missing, [.key name.key]⟩]

/-- A field that may be absent. -/
def withDefault {α : Type} (name : FieldName) (check : Check α) (fallback : α)
    (fields : List (String × Value)) : Checked α :=
  name.check check (some fallback) fields

def required {α : Type} (name : FieldName) (check : Check α)
    (fields : List (String × Value)) : Checked α :=
  name.check check none fields

end FieldName

/-- Keys of an object that no field uses. -/
def unknownKeys (known : List FieldName)
    (fields : List (String × Value)) : List String :=
  let used := known.filterMap fun name => (name.find? fields).map Prod.fst
  (names fields).filter fun key => !used.contains key

/-- Rejects the keys that no field uses. -/
def noOthers (known : List FieldName)
    (fields : List (String × Value)) : Checked Unit :=
  match unknownKeys known fields with
  | [] => .accepted ()
  | keys => .rejected (keys.map fun key => ⟨.extraForbidden, [.key key]⟩)

/-- An object checked field by field. -/
def Check.record {α : Type} (known : List FieldName)
    (read : List (String × Value) → Checked α) : Check α
  | .dict fields => read fields <* noOthers known fields
  | _ => .fail .modelType

end StoryGraph
