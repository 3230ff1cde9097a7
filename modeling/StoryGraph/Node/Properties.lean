import StoryGraph.Node.Kind
import StoryGraph.Shape.Mapping
import StoryGraph.Value.Data

/-!
# Property records

Each kind of node has its own record of properties.  A record is checked from
an object whose fields may be spelled in either of two ways, and written back
with the spelling that documents use.  All fields have defaults.

These are the subclasses of `_PropertiesModel`, from `TriggerProperties` to
`TeleportProperties`.
-/

namespace StoryGraph

/-- Texts with at least one character. -/
abbrev FilledText := { text : String // text ≠ "" }

/-- Integers that are not below one. -/
abbrev PositiveInt := { number : Int // 1 ≤ number }

/-- Levels go from 1 to 100. -/
abbrev Level := { number : Int // 1 ≤ number ∧ number ≤ 100 }

namespace Check

def filled : Check FilledText := fun value =>
  (text value).andThen fun text =>
    if hempty : text = "" then .fail .stringTooShort
    else .accepted ⟨text, hempty⟩

def positive : Check PositiveInt := fun value =>
  (integer value).andThen fun number =>
    if hlow : 1 ≤ number then .accepted ⟨number, hlow⟩
    else .fail .greaterThanEqual

def level : Check Level := fun value =>
  (integer value).andThen fun number =>
    if hlow : 1 ≤ number then
      if hhigh : number ≤ 100 then .accepted ⟨number, hlow, hhigh⟩
      else .fail .lessThanEqual
    else .fail .greaterThanEqual

/-- A coordinate that is given. -/
def coordinate : Check Coordinate := fun value => (float value).map some

end Check

/-- Starts an activation when its condition holds. -/
structure TriggerProperties where
  triggerType : FilledText
  condition : String
  deriving DecidableEq

/-- Compares what is stored under a key with a value. -/
structure ConditionProperties where
  conditionType : ConditionKind
  key : String
  value : Value
  operator : Operator
  deriving DecidableEq

/-- Names an action; whether it is known shows only when it is performed. -/
structure ActionProperties where
  actionType : String
  target : String
  value : Value
  deriving DecidableEq

structure DialogueProperties where
  speaker : String
  text : String
  portrait : String
  deriving DecidableEq

structure EncounterProperties where
  species : PositiveInt
  level : Level
  shiny : Bool
  deriving DecidableEq

structure TeleportProperties where
  targetMap : String
  x : Coordinate
  y : Coordinate
  z : Coordinate
  deriving DecidableEq

namespace TriggerProperties

def initial : TriggerProperties := ⟨⟨"player_enter", by decide⟩, "always"⟩

def known : List FieldName :=
  [⟨"triggerType", "trigger_type"⟩, .plain "condition"]

def read (fields : List (String × Value)) : Checked TriggerProperties :=
  mk <$> FieldName.withDefault ⟨"triggerType", "trigger_type"⟩ .filled
      initial.triggerType fields
    <*> FieldName.withDefault (.plain "condition") .text
      initial.condition fields

def fields (properties : TriggerProperties) : List (String × Value) :=
  [("triggerType", .str properties.triggerType.val),
    ("condition", .str properties.condition)]

end TriggerProperties

namespace ConditionProperties

def initial : ConditionProperties := ⟨.variable, "", .str "", .equals⟩

def known : List FieldName :=
  [⟨"conditionType", "condition_type"⟩, .plain "key", .plain "value",
    .plain "operator"]

def read (fields : List (String × Value)) : Checked ConditionProperties :=
  mk <$> FieldName.withDefault ⟨"conditionType", "condition_type"⟩
    (.word ConditionKind.ofWord?) initial.conditionType fields
    <*> FieldName.withDefault (.plain "key") .text initial.key fields
    <*> FieldName.withDefault (.plain "value") .any initial.value fields
    <*> FieldName.withDefault (.plain "operator") (.word Operator.ofWord?)
      initial.operator fields

def fields (free : Value → Value)
    (properties : ConditionProperties) : List (String × Value) :=
  [("conditionType", .str properties.conditionType.word),
    ("key", .str properties.key), ("value", free properties.value),
    ("operator", .str properties.operator.word)]

end ConditionProperties

namespace ActionProperties

def initial : ActionProperties := ⟨"show_message", "", .str ""⟩

def known : List FieldName :=
  [⟨"actionType", "action_type"⟩, .plain "target", .plain "value"]

def read (fields : List (String × Value)) : Checked ActionProperties :=
  mk <$> FieldName.withDefault ⟨"actionType", "action_type"⟩ .text
    initial.actionType fields
    <*> FieldName.withDefault (.plain "target") .text initial.target fields
    <*> FieldName.withDefault (.plain "value") .any initial.value fields

def fields (free : Value → Value)
    (properties : ActionProperties) : List (String × Value) :=
  [("actionType", .str properties.actionType),
    ("target", .str properties.target), ("value", free properties.value)]

end ActionProperties

namespace DialogueProperties

def initial : DialogueProperties := ⟨"NPC", "Hello!", ""⟩

def known : List FieldName :=
  [.plain "speaker", .plain "text", .plain "portrait"]

def read (fields : List (String × Value)) : Checked DialogueProperties :=
  mk <$> FieldName.withDefault (.plain "speaker") .text initial.speaker fields
    <*> FieldName.withDefault (.plain "text") .text initial.text fields
    <*> FieldName.withDefault (.plain "portrait") .text initial.portrait fields

def fields (properties : DialogueProperties) : List (String × Value) :=
  [("speaker", .str properties.speaker), ("text", .str properties.text),
    ("portrait", .str properties.portrait)]

end DialogueProperties

namespace EncounterProperties

def initial : EncounterProperties := ⟨⟨1, by decide⟩, ⟨5, by decide⟩, false⟩

def known : List FieldName :=
  [⟨"pokemonId", "pokemon_id"⟩, .plain "level", .plain "shiny"]

def read (fields : List (String × Value)) : Checked EncounterProperties :=
  mk <$> FieldName.withDefault ⟨"pokemonId", "pokemon_id"⟩ .positive
      initial.species fields
    <*> FieldName.withDefault (.plain "level") .level initial.level fields
    <*> FieldName.withDefault (.plain "shiny") .boolean initial.shiny fields

def fields (properties : EncounterProperties) : List (String × Value) :=
  [("pokemonId", .int properties.species.val),
    ("level", .int properties.level.val), ("shiny", .bool properties.shiny)]

end EncounterProperties

namespace TeleportProperties

def initial : TeleportProperties := ⟨"", none, none, none⟩

def known : List FieldName :=
  [⟨"targetMap", "target_map"⟩, .plain "x", .plain "y", .plain "z"]

def read (fields : List (String × Value)) : Checked TeleportProperties :=
  mk <$> FieldName.withDefault ⟨"targetMap", "target_map"⟩ .text
    initial.targetMap fields
    <*> FieldName.withDefault (.plain "x") .coordinate initial.x fields
    <*> FieldName.withDefault (.plain "y") .coordinate initial.y fields
    <*> FieldName.withDefault (.plain "z") .coordinate initial.z fields

def fields (properties : TeleportProperties) : List (String × Value) :=
  [("targetMap", .str properties.targetMap),
    ("x", Coordinate.dump properties.x), ("y", Coordinate.dump properties.y),
    ("z", Coordinate.dump properties.z)]

end TeleportProperties

/-- The properties of a node; which record it is determines the node's kind. -/
inductive Properties where
  | trigger (properties : TriggerProperties)
  | condition (properties : ConditionProperties)
  | action (properties : ActionProperties)
  | dialogue (properties : DialogueProperties)
  | encounter (properties : EncounterProperties)
  | teleport (properties : TeleportProperties)
  deriving DecidableEq

namespace Properties

def kind : Properties → Kind
  | trigger _ => .trigger
  | condition _ => .condition
  | action _ => .action
  | dialogue _ => .dialogue
  | encounter _ => .encounter
  | teleport _ => .teleport

/-- The properties of a new node. -/
def initial : Kind → Properties
  | .trigger => .trigger .initial
  | .condition => .condition .initial
  | .action => .action .initial
  | .dialogue => .dialogue .initial
  | .encounter => .encounter .initial
  | .teleport => .teleport .initial

/-- The fields of a kind's record. -/
def known : Kind → List FieldName
  | .trigger => TriggerProperties.known
  | .condition => ConditionProperties.known
  | .action => ActionProperties.known
  | .dialogue => DialogueProperties.known
  | .encounter => EncounterProperties.known
  | .teleport => TeleportProperties.known

/-- The known fields of an object as the record of a kind. -/
def read : Kind → List (String × Value) → Checked Properties
  | .trigger, fields => (TriggerProperties.read fields).map trigger
  | .condition, fields => (ConditionProperties.read fields).map condition
  | .action, fields => (ActionProperties.read fields).map action
  | .dialogue, fields => (DialogueProperties.read fields).map dialogue
  | .encounter, fields => (EncounterProperties.read fields).map encounter
  | .teleport, fields => (TeleportProperties.read fields).map teleport

/-- An object as the record of a kind. -/
def check (kind : Kind) : Check Properties :=
  Check.record (known kind) (read kind)

/-- The fields in order, with `free` applied to the free-form values. -/
def fieldsWith (free : Value → Value) : Properties → List (String × Value)
  | trigger properties => properties.fields
  | condition properties => properties.fields free
  | action properties => properties.fields free
  | dialogue properties => properties.fields
  | encounter properties => properties.fields
  | teleport properties => properties.fields

/-- The fields with their values as they are. -/
def fields (properties : Properties) : List (String × Value) :=
  properties.fieldsWith id

/-- The fields with objects in place of locations. -/
def plainFields (properties : Properties) : List (String × Value) :=
  properties.fieldsWith Value.withoutLocations

/-- The fields as documents hold them. -/
def dump (properties : Properties) : List (String × Value) :=
  properties.fieldsWith Value.toData

/-- The values that authors may choose freely. -/
def freeValues : Properties → List Value
  | condition properties => [properties.value]
  | action properties => [properties.value]
  | _ => []

/-- Whether documents can hold the properties. -/
def isWritable (properties : Properties) : Bool :=
  properties.freeValues.all Value.isWritable

/-- The document key for either spelling of a field. -/
def keyOf? (kind : Kind) (spelling : String) : Option String :=
  ((known kind).find? fun name => name.key == spelling ||
    name.other == spelling).map
    FieldName.key

/-- Why changes to a record are refused. -/
inductive UpdateError where
  | unknownKeys (keys : List String)
  | invalid (issues : List Issue)
  deriving DecidableEq

def UpdateError.message : UpdateError → String
  | unknownKeys keys => "unknown keys " ++ Literal.ofTexts keys
  | invalid _ => issuesMark

/-- The record with some fields changed.  Either spelling names a field, a
repeated field takes its last value, and the whole record is checked again;
locations that it has held become objects. -/
def update (properties : Properties) (changes : List (String × Value)) :
    Except UpdateError Properties :=
  let kind := properties.kind
  let unknown := (names changes).filter fun key => (keyOf? kind key).isNone
  if unknown.isEmpty then
    let changed := changes.foldl (fun fields change =>
      match keyOf? kind change.1 with
      | some key => Table.insertEntry key change.2 fields
      | none => fields) properties.plainFields
    match check kind (.dict changed) with
    | .accepted updated => .ok updated
    | .rejected issues => .error (.invalid issues)
  else .error (.unknownKeys (unknown.mergeSort (· ≤ ·)))

/-- The record with one field assigned.  Only the spelling that documents do
not use counts here; private names are accepted and ignored. -/
def assign (properties : Properties) (field : String)
    (value : Value) : Checked Properties :=
  if FieldName.isPrivate field then .accepted properties
  else match (known properties.kind).find? (·.other == field) with
  | none => .rejected [⟨.noSuchAttribute, [.key field]⟩]
  | some name =>
    match read properties.kind
      (Table.insertEntry name.key value properties.fields) with
    | .accepted updated => .accepted updated
    | .rejected issues =>
      .rejected (issues.map fun issue =>
        ⟨issue.fault, .key field :: issue.place.drop 1⟩)

end Properties

end StoryGraph
