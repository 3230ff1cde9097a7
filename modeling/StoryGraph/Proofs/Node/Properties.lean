import StoryGraph.Node.Properties
import StoryGraph.Proofs.Shape.Accepted
import StoryGraph.Proofs.Value.Data

/-!
# Checked property records

A check of an object as the record of a kind can only answer a record of that
kind, and so can an update of a record.  A record that is written as documents
hold it and checked again has its free-form values as documents hold them, and
zeros for the coordinates that were left out.  As long as the free-form values
are plain data, it is otherwise the same record.
-/

namespace StoryGraph

namespace Properties

theorem kind_of_read {kind : Kind} {fields : List (String × Value)}
    {properties : Properties}
    (hread : read kind fields = .accepted properties) :
    properties.kind = kind := by
  cases kind with
  | trigger => obtain ⟨_, -, rfl⟩ := Checked.map_eq_accepted_iff.mp hread; rfl
  | condition => obtain ⟨_, -, rfl⟩ := Checked.map_eq_accepted_iff.mp hread; rfl
  | action => obtain ⟨_, -, rfl⟩ := Checked.map_eq_accepted_iff.mp hread; rfl
  | dialogue => obtain ⟨_, -, rfl⟩ := Checked.map_eq_accepted_iff.mp hread; rfl
  | encounter => obtain ⟨_, -, rfl⟩ := Checked.map_eq_accepted_iff.mp hread; rfl
  | teleport => obtain ⟨_, -, rfl⟩ := Checked.map_eq_accepted_iff.mp hread; rfl

theorem kind_of_check {kind : Kind} {fields : List (String × Value)}
    {properties : Properties}
    (hcheck : check kind (.dict fields) = .accepted properties) :
    properties.kind = kind :=
  kind_of_read (Checked.seqLeft_eq_accepted_iff.mp hcheck).1

/-- An update does not turn a record into one of another kind. -/
theorem kind_of_update {properties updated : Properties}
    {changes : List (String × Value)}
    (hupdate : properties.update changes = .ok updated) :
    updated.kind = properties.kind := by
  simp only [update] at hupdate
  split at hupdate
  · split at hupdate
    · next hcheck =>
      cases hupdate
      exact kind_of_check hcheck
    · cases hupdate
  · cases hupdate

end Properties

/-! ## Records that are written and checked again -/

namespace Check

theorem filled_val (text : FilledText) :
    filled (.str text.val) = .accepted text := by
  simp [filled, Check.text, Checked.andThen, text.property]

/-- A text that is not empty is accepted as it is. -/
theorem filled_eq_accepted_iff {value : Value} {result : FilledText} :
    filled value = .accepted result ↔ IsText value result.val := by
  rw [filled, Checked.andThen_eq_accepted_iff]
  constructor
  · rintro ⟨text, htext, hfilled⟩
    split at hfilled
    · cases hfilled
    · cases hfilled
      exact text_eq_accepted_iff.mp htext
  · intro htext
    exact ⟨result.val, text_eq_accepted_iff.mpr htext, dif_neg result.property⟩

theorem positive_val (number : PositiveInt) :
    positive (.int number.val) = .accepted number := by
  simp [positive, integer, Checked.andThen, number.property]

theorem level_val (number : Level) :
    level (.int number.val) = .accepted number := by
  simp [level, integer, Checked.andThen, number.property.1, number.property.2]

theorem word_conditionKind (kind : ConditionKind) :
    Check.word ConditionKind.ofWord? (.str kind.word) = .accepted kind := by
  cases kind <;> rfl

theorem word_operator (operator : Operator) :
    Check.word Operator.ofWord? (.str operator.word) = .accepted operator := by
  cases operator <;> rfl

end Check

theorem TriggerProperties.read_fields (properties : TriggerProperties) :
    read properties.fields = .accepted properties := by
  have hread : read properties.fields =
      mk <$> (Check.filled (.str properties.triggerType.val)).under
        (.key "triggerType") <*> .accepted properties.condition := rfl
  rw [hread, Check.filled_val]
  rfl

theorem ConditionProperties.read_fields (free : Value → Value)
    (properties : ConditionProperties) :
    read (properties.fields free) =
      .accepted { properties with value := free properties.value } := by
  have hread : read (properties.fields free) =
      mk <$>
        (Check.word ConditionKind.ofWord?
          (.str properties.conditionType.word)).under
          (.key "conditionType")
        <*> .accepted properties.key <*> .accepted (free properties.value)
        <*> (Check.word Operator.ofWord? (.str properties.operator.word)).under
          (.key "operator") := rfl
  rw [hread, Check.word_conditionKind, Check.word_operator]
  rfl

theorem ActionProperties.read_fields (free : Value → Value)
    (properties : ActionProperties) :
    read (properties.fields free) =
      .accepted { properties with value := free properties.value } :=
  rfl

theorem DialogueProperties.read_fields (properties : DialogueProperties) :
    read properties.fields = .accepted properties := rfl

theorem EncounterProperties.read_fields (properties : EncounterProperties) :
    read properties.fields = .accepted properties := by
  have hread : read properties.fields =
      mk <$> (Check.positive (.int properties.species.val)).under
        (.key "pokemonId")
        <*> (Check.level (.int properties.level.val)).under (.key "level")
        <*> .accepted properties.shiny := rfl
  rw [hread, Check.positive_val, Check.level_val]
  rfl

/-- The same target with zeros for the coordinates that were left out. -/
def TeleportProperties.settled
    (properties : TeleportProperties) : TeleportProperties :=
  ⟨properties.targetMap, some properties.x.number, some properties.y.number,
    some properties.z.number⟩

theorem TeleportProperties.read_fields (properties : TeleportProperties) :
    read properties.fields = .accepted properties.settled := rfl

namespace Properties

/-- The same record without coordinates that were left out. -/
def settled : Properties → Properties
  | teleport properties => teleport properties.settled
  | properties => properties

/-- Which fields a record has is determined by its kind. -/
theorem names_fieldsWith (free : Value → Value) (properties : Properties) :
    names (properties.fieldsWith free) =
      (known properties.kind).map FieldName.key := by
  cases properties <;> rfl

theorem names_fieldsWith_nodup (free : Value → Value)
    (properties : Properties) : (names (properties.fieldsWith free)).Nodup := by
  have hdistinct (kind : Kind) : ((known kind).map FieldName.key).Nodup := by
    cases kind <;> decide
  rw [names_fieldsWith]
  exact hdistinct properties.kind

theorem names_dump (properties : Properties) :
    names properties.dump = (known properties.kind).map FieldName.key :=
  properties.names_fieldsWith Value.toData

theorem names_dump_nodup (properties : Properties) :
    (names properties.dump).Nodup :=
  properties.names_fieldsWith_nodup Value.toData

/-- What a record writes are texts, numbers, truth values, and free-form values
as documents hold them. -/
theorem of_mem_dump (property : Value → Prop)
    (htext : ∀ text, property (.str text))
    (hint : ∀ number, property (.int number))
    (hbool : ∀ truth, property (.bool truth))
    (hfloat : ∀ number, property (.float number)) {properties : Properties}
    (hfree : ∀ value ∈ properties.freeValues, property value.toData) :
    ∀ field ∈ properties.dump, property field.2 := by
  cases properties with
  | trigger => simp [dump, fieldsWith, TriggerProperties.fields, htext]
  | condition =>
    simpa [dump, fieldsWith, ConditionProperties.fields, htext, freeValues]
      using hfree
  | action =>
    simpa [dump, fieldsWith, ActionProperties.fields, htext, freeValues]
      using hfree
  | dialogue => simp [dump, fieldsWith, DialogueProperties.fields, htext]
  | encounter =>
    simp [dump, fieldsWith, EncounterProperties.fields, hint, hbool]
  | teleport =>
    simp [dump, fieldsWith, TeleportProperties.fields, htext, Coordinate.dump,
      hfloat]

/-- No field of a written record is unknown. -/
theorem noOthers_dump (properties : Properties) :
    noOthers (known properties.kind) properties.dump = .accepted () := by
  cases properties <;> rfl

/-- The same record with its free-form values as documents hold them. -/
def recorded : Properties → Properties
  | condition properties =>
    condition { properties with value := properties.value.toData }
  | action properties =>
    action { properties with value := properties.value.toData }
  | properties => properties.settled

theorem kind_recorded (properties : Properties) :
    properties.recorded.kind = properties.kind := by
  cases properties <;> rfl

theorem freeValues_recorded (properties : Properties) :
    properties.recorded.freeValues =
      properties.freeValues.map Value.toData := by
  cases properties <;> rfl

/-- What is read of a written record. -/
theorem read_dump (properties : Properties) :
    read properties.kind properties.dump = .accepted properties.recorded := by
  cases properties with
  | trigger properties =>
    exact congrArg (Checked.map trigger) properties.read_fields
  | condition properties =>
    exact congrArg (Checked.map condition) (properties.read_fields Value.toData)
  | action properties =>
    exact congrArg (Checked.map action) (properties.read_fields Value.toData)
  | dialogue properties =>
    exact congrArg (Checked.map dialogue) properties.read_fields
  | encounter properties =>
    exact congrArg (Checked.map encounter) properties.read_fields
  | teleport properties =>
    exact congrArg (Checked.map teleport) properties.read_fields

theorem check_dump_eq_recorded (properties : Properties) :
    check properties.kind (.dict properties.dump) =
      .accepted properties.recorded := by
  rw [check, Check.record, read_dump, noOthers_dump]
  rfl

theorem recorded_of_isPlainData {properties : Properties}
    (hplain : ∀ value ∈ properties.freeValues, value.isPlainData = true) :
    properties.recorded = properties.settled := by
  cases properties with
  | condition properties =>
    have hvalue :=
      properties.value.toData_of_isPlainData
        (hplain _ (List.mem_singleton_self _))
    rw [recorded, hvalue]
    rfl
  | action properties =>
    have hvalue :=
      properties.value.toData_of_isPlainData
        (hplain _ (List.mem_singleton_self _))
    rw [recorded, hvalue]
    rfl
  | _ => rfl

/-- A record that is written and checked again is the same one. -/
theorem check_dump {properties : Properties}
    (hplain : ∀ value ∈ properties.freeValues, value.isPlainData = true) :
    check properties.kind (.dict properties.dump) =
      .accepted properties.settled := by
  rw [check_dump_eq_recorded, recorded_of_isPlainData hplain]

/-- Writing what has been read of a written record gives the same fields
again. -/
theorem dump_recorded {properties : Properties}
    (hplain : ∀ value ∈ properties.freeValues,
      value.toData.isPlainData = true) :
    properties.recorded.dump = properties.dump := by
  have hsame (value : Value) (hvalue : value.toData.isPlainData = true) :
      value.toData.toData = value.toData :=
        value.toData.toData_of_isPlainData hvalue
  cases properties with
  | condition properties =>
    have hvalue := hsame properties.value (hplain _ (List.mem_singleton_self _))
    simp only [recorded, dump, fieldsWith, ConditionProperties.fields, hvalue]
  | action properties =>
    have hvalue := hsame properties.value (hplain _ (List.mem_singleton_self _))
    simp only [recorded, dump, fieldsWith, ActionProperties.fields, hvalue]
  | _ => rfl

/-! ## Actions that the runtime does not know -/

/-- The action type of a record that the runtime does not know. -/
def unknownAction? : Properties → Option String
  | action properties =>
    if (ActionKind.ofWord? properties.actionType).isNone then
      some properties.actionType else none
  | _ => none

theorem unknownAction?_recorded (properties : Properties) :
    properties.recorded.unknownAction? = properties.unknownAction? := by
  cases properties <;> rfl

end Properties

end StoryGraph
