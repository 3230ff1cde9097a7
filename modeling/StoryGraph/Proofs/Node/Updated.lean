import StoryGraph.Proofs.Node.Properties

/-!
# Updated property records

A record of properties is read field by field: each field has its own check, and
what the check answers is what the record holds.  The value that a record holds
passes the check of its field and stays the same, so that an update changes the
named fields and no others, and it is accepted as soon as the value of each
named field is.
-/

namespace StoryGraph

/-- The names by which an update may call a field. -/
def FieldName.spellings (name : FieldName) : List String :=
  [name.key, name.other]

namespace Checked

variable {α β γ δ ε ζ : Type}

section Parts

variable {write : ζ → List ε} {write₁ : α → ε} {write₂ : β → ε} {write₃ : γ → ε}
  {write₄ : δ → ε}
variable (first : Checked α) (second : Checked β) (third : Checked γ)
  (fourth : Checked δ)

theorem map_two {make : α → β → ζ}
    (hwrite : ∀ a b, write (make a b) = [write₁ a, write₂ b]) :
    (make <$> first <*> second).map write =
      all [first.map write₁, second.map write₂] := by
  simp only [fmap_eq, seq_eq]
  cases first <;> cases second <;> simp [map, apply, all, hwrite]

theorem map_three {make : α → β → γ → ζ}
    (hwrite : ∀ a b c, write (make a b c) = [write₁ a, write₂ b, write₃ c]) :
    (make <$> first <*> second <*> third).map write =
      all [first.map write₁, second.map write₂, third.map write₃] := by
  simp only [fmap_eq, seq_eq]
  cases first <;> cases second <;> cases third <;>
    simp [map, apply, all, hwrite]

theorem map_four {make : α → β → γ → δ → ζ}
    (hwrite : ∀ a b c d,
      write (make a b c d) = [write₁ a, write₂ b, write₃ c, write₄ d]) :
    (make <$> first <*> second <*> third <*> fourth).map write =
      all [first.map write₁, second.map write₂, third.map write₃,
        fourth.map write₄] := by
  simp only [fmap_eq, seq_eq]
  cases first <;> cases second <;> cases third <;> cases fourth <;>
    simp [map, apply, all, hwrite]

end Parts

end Checked

/-! ## Records field by field -/

namespace Properties

/-- A field of a record, with the check that its values have to pass.  The check
answers the value that the record then holds. -/
structure Slot where
  name : FieldName
  check : Check Value
  initial : Value

namespace Slot

variable {α : Type}

/-- The field with a check whose results are held as values. -/
def holding (name : FieldName) (check : Check α) (initial : α)
    (write : α → Value) : Slot :=
  ⟨name, fun value => (check value).map write, write initial⟩

/-- The field of an object, with the key that documents use. -/
def read (slot : Slot)
    (fields : List (String × Value)) : Checked (String × Value) :=
  (slot.name.withDefault slot.check slot.initial fields).map (slot.name.key, ·)

theorem read_holding (name : FieldName) (check : Check α) (initial : α)
    (write : α → Value) (fields : List (String × Value)) :
    (holding name check initial write).read fields =
      (name.withDefault check initial fields).map fun result =>
        (name.key, write result) := by
  unfold read holding FieldName.withDefault FieldName.check
  cases name.find? fields with
  | none => rfl
  | some found =>
    obtain ⟨spelling, value⟩ := found
    dsimp only
    cases check value <;> rfl

theorem check_holding {name : FieldName} {check : Check α} {initial : α}
    {write : α → Value} {value : Value} {result : α}
    (hcheck : check value = .accepted result) :
    (holding name check initial write).check value = .accepted (write result) :=
  Checked.map_eq_accepted_iff.mpr ⟨result, hcheck, rfl⟩

end Slot

/-- The fields of a kind's record in order. -/
def slots : Kind → List Slot
  | .trigger =>
    [.holding ⟨"triggerType", "trigger_type"⟩ .filled
      TriggerProperties.initial.triggerType fun text => .str text.val,
      .holding (.plain "condition") .text
        TriggerProperties.initial.condition .str]
  | .condition =>
    [.holding ⟨"conditionType", "condition_type"⟩ (.word ConditionKind.ofWord?)
        ConditionProperties.initial.conditionType fun kind => .str kind.word,
      .holding (.plain "key") .text ConditionProperties.initial.key .str,
      .holding (.plain "value") .any ConditionProperties.initial.value id,
      .holding (.plain "operator") (.word Operator.ofWord?)
        ConditionProperties.initial.operator
        fun operator => .str operator.word]
  | .action =>
    [.holding ⟨"actionType", "action_type"⟩ .text
      ActionProperties.initial.actionType .str,
      .holding (.plain "target") .text ActionProperties.initial.target .str,
      .holding (.plain "value") .any ActionProperties.initial.value id]
  | .dialogue =>
    [.holding (.plain "speaker") .text DialogueProperties.initial.speaker .str,
      .holding (.plain "text") .text DialogueProperties.initial.text .str,
      .holding (.plain "portrait") .text
        DialogueProperties.initial.portrait .str]
  | .encounter =>
    [.holding ⟨"pokemonId", "pokemon_id"⟩ .positive
      EncounterProperties.initial.species fun number => .int number.val,
      .holding (.plain "level") .level EncounterProperties.initial.level
        fun number => .int number.val,
        .holding (.plain "shiny") .boolean
          EncounterProperties.initial.shiny .bool]
  | .teleport =>
    [.holding ⟨"targetMap", "target_map"⟩ .text
      TeleportProperties.initial.targetMap .str,
      .holding (.plain "x") .coordinate TeleportProperties.initial.x
        Coordinate.dump, .holding (.plain "y") .coordinate
        TeleportProperties.initial.y Coordinate.dump,
        .holding (.plain "z") .coordinate TeleportProperties.initial.z
          Coordinate.dump]

theorem names_slots (kind : Kind) :
    (slots kind).map Slot.name = known kind := by
  cases kind <;> rfl

/-- A record is read field by field, and it holds what the checks of its fields
answer. -/
theorem map_fields_read (kind : Kind) (fields : List (String × Value)) :
    (read kind fields).map Properties.fields =
      .all ((slots kind).map (·.read fields)) := by
  cases kind <;>
    simp only [read, slots, Checked.map_map, List.map_cons, List.map_nil,
      Slot.read_holding]
  case trigger => exact Checked.map_two _ _ fun _ _ => rfl
  case condition => exact Checked.map_four _ _ _ _ fun _ _ _ _ => rfl
  case action => exact Checked.map_three _ _ _ fun _ _ _ => rfl
  case dialogue => exact Checked.map_three _ _ _ fun _ _ _ => rfl
  case encounter => exact Checked.map_three _ _ _ fun _ _ _ => rfl
  case teleport => exact Checked.map_four _ _ _ _ fun _ _ _ _ => rfl

/-! ## The names of fields -/

theorem Slot.name_mem {kind : Kind} {slot : Slot} (hslot : slot ∈ slots kind) :
    slot.name ∈ known kind :=
  names_slots kind ▸ List.mem_map_of_mem hslot

/-- No spelling belongs to two fields of a record. -/
theorem known_unique {kind : Kind} {name other : FieldName}
    (hname : name ∈ known kind) (hother : other ∈ known kind)
    {spelling : String} (hspelling : spelling ∈ name.spellings)
    (hboth : spelling ∈ other.spellings) : name = other := by
  have hdistinct (kind : Kind) : ∀ name ∈ known kind, ∀ other ∈ known kind,
      ∀ spelling ∈ name.spellings, spelling ∈ other.spellings →
        name = other := by
    cases kind <;> decide
  exact hdistinct kind name hname other hother spelling hspelling hboth

theorem find?_known_eq_some_iff {kind : Kind} {name : FieldName}
    {spelling : String} :
    (known kind).find? (fun name => name.key == spelling ||
      name.other == spelling) = some name ↔
      name ∈ known kind ∧ spelling ∈ name.spellings := by
  have hspelled :
      (fun name : FieldName => name.key == spelling || name.other == spelling) =
        fun name => decide (spelling ∈ name.spellings) := by
    funext name
    rw [Bool.eq_iff_iff]
    simp [FieldName.spellings, @eq_comm _ spelling]
  rw [hspelled]
  constructor
  · intro hfound
    have hspelling := List.find?_some hfound
    exact ⟨List.mem_of_find?_eq_some hfound, of_decide_eq_true hspelling⟩
  · rintro ⟨hname, hspelling⟩
    have hsome :
        ((known kind).find? fun name =>
          decide (spelling ∈ name.spellings)).isSome :=
      List.find?_isSome.mpr ⟨name, hname, decide_eq_true hspelling⟩
    obtain ⟨other, hother⟩ := Option.isSome_iff_exists.mp hsome
    have hboth := List.find?_some hother
    rw [hother, known_unique hname (List.mem_of_find?_eq_some hother) hspelling
      (of_decide_eq_true hboth)]

theorem keyOf?_eq_some_iff {kind : Kind} {spelling key : String} :
    keyOf? kind spelling = some key ↔
      ∃ name ∈ known kind, spelling ∈ name.spellings ∧ name.key = key := by
  simp only [keyOf?, Option.map_eq_some_iff, find?_known_eq_some_iff, and_assoc]

theorem keyOf?_isSome_iff {kind : Kind} {spelling : String} :
    (keyOf? kind spelling).isSome = true ↔
      ∃ name ∈ known kind, spelling ∈ name.spellings := by
  simp [Option.isSome_iff_exists, keyOf?_eq_some_iff]

/-! ## Changes -/

/-- The value that some changes give to a field: of several ones the last. -/
def given? (name : FieldName)
    (changes : List (String × Value)) : Option Value :=
  (changes.reverse.find? fun change => name.spellings.contains change.1).map
    Prod.snd

theorem given?_cons (name : FieldName) (change : String × Value)
    (changes : List (String × Value)) :
    given? name (change :: changes) =
      (given? name changes).or (if change.1 ∈ name.spellings then some change.2
        else none) := by
  rw [given?, List.reverse_cons, List.find?_append, Option.map_or, given?]
  congr 1
  by_cases hspelled : change.1 ∈ name.spellings <;> simp [hspelled]

/-- The fields of a record with some changes, under the keys that documents
use. -/
def applied (kind : Kind)
    (changes fields : List (String × Value)) : List (String × Value) :=
  changes.foldl (fun fields change =>
    match keyOf? kind change.1 with
    | some key => Table.insertEntry key change.2 fields
    | none => fields) fields

/-- A field has the last value that a change gives to it, or else the one that
it had. -/
theorem lookup_applied {kind : Kind} {name : FieldName}
    (hname : name ∈ known kind) (changes fields : List (String × Value)) :
    (applied kind changes fields).lookup name.key =
      (given? name changes).or (fields.lookup name.key) := by
  induction changes generalizing fields with
  | nil => rfl
  | cons change changes ih =>
    rw [applied, List.foldl_cons, ← applied, ih, given?_cons, Option.or_assoc]
    congr 1
    split
    · next key hkey =>
      obtain ⟨other, hother, hspelled, rfl⟩ := keyOf?_eq_some_iff.mp hkey
      rw [Table.lookup_insertEntry]
      by_cases hsame : change.1 ∈ name.spellings
      · rw [known_unique hname hother hsame hspelled, if_pos rfl,
          if_pos hspelled, Option.some_or]
      · have hkeys : name.key ≠ other.key := fun heq => hsame <| by
          have hboth : name.key ∈ other.spellings := heq ▸ List.mem_cons_self
          rwa [known_unique hname hother List.mem_cons_self hboth]
        rw [if_neg hkeys, if_neg hsame, Option.none_or]
    · next hkey =>
      have hother : change.1 ∉ name.spellings := fun hspelled => by
        have hsome := keyOf?_isSome_iff.mpr ⟨name, hname, hspelled⟩
        rw [hkey] at hsome
        cases hsome
      rw [if_neg hother, Option.none_or]

/-- Changes keep the fields of a record and their order. -/
theorem names_applied {kind : Kind} {changes fields : List (String × Value)}
    (hnames : names fields = (known kind).map FieldName.key) :
    names (applied kind changes fields) = names fields := by
  induction changes generalizing fields with
  | nil => rfl
  | cons change changes ih =>
    rw [applied, List.foldl_cons, ← applied]
    split
    · next key hkey =>
      obtain ⟨name, hname, -, rfl⟩ := keyOf?_eq_some_iff.mp hkey
      have hmem : name.key ∈ names fields := hnames ▸ List.mem_map_of_mem hname
      have hkept := Table.names_insertEntry_of_mem hmem change.2
      rw [ih (hkept.trans hnames), hkept]
    · exact ih hnames

/-- The keys of some changes that name no field of a record. -/
def unknownNames (kind : Kind)
    (changes : List (String × Value)) : List String :=
  (names changes).filter fun key => (keyOf? kind key).isNone

theorem unknownNames_eq_nil_iff {kind : Kind}
    {changes : List (String × Value)} :
    unknownNames kind changes = [] ↔
      ∀ change ∈ changes, ∃ name ∈ known kind, change.1 ∈ name.spellings := by
  rw [unknownNames, List.filter_eq_nil_iff, List.forall_mem_map]
  refine forall₂_congr fun change _ => ?_
  rw [← keyOf?_isSome_iff, Option.isNone_iff_eq_none, Option.isSome_iff_ne_none]

theorem update_eq (properties : Properties) (changes : List (String × Value)) :
    properties.update changes =
      if (unknownNames properties.kind changes).isEmpty then
        match check properties.kind
          (.dict (applied properties.kind changes properties.plainFields)) with
        | .accepted updated => .ok updated
        | .rejected issues => .error (.invalid issues)
      else
        .error (.unknownKeys
          ((unknownNames properties.kind changes).mergeSort (· ≤ ·))) := rfl

theorem update_eq_ok_iff {properties updated : Properties}
    {changes : List (String × Value)} :
    properties.update changes = .ok updated ↔
      (∀ change ∈ changes, ∃ name ∈ known properties.kind,
        change.1 ∈ name.spellings) ∧
        check properties.kind
          (.dict (applied properties.kind changes properties.plainFields)) =
          .accepted updated := by
  rw [← unknownNames_eq_nil_iff, update_eq]
  split
  · next hnil => split <;> simp_all
  · next hsome => simp_all

/-! ## Values that records hold -/

/-- The value that a record holds in a field passes the check of the field and
stays the same. -/
theorem check_held (properties : Properties) :
    ∀ slot ∈ slots properties.kind, ∃ value,
      properties.fields.lookup slot.name.key = some value ∧
        slot.check value = .accepted value := by
  cases properties with
  | trigger properties =>
    simp only [kind, slots, List.forall_mem_cons]
    exact ⟨⟨_, rfl, Slot.check_holding (Check.filled_val _)⟩, ⟨_, rfl, rfl⟩,
      List.forall_mem_nil _⟩
  | condition properties =>
    simp only [kind, slots, List.forall_mem_cons]
    exact ⟨⟨_, rfl, Slot.check_holding (Check.word_conditionKind _)⟩,
      ⟨_, rfl, rfl⟩, ⟨_, rfl, rfl⟩,
      ⟨_, rfl, Slot.check_holding (Check.word_operator _)⟩,
      List.forall_mem_nil _⟩
  | action properties =>
    simp only [kind, slots, List.forall_mem_cons]
    exact ⟨⟨_, rfl, rfl⟩, ⟨_, rfl, rfl⟩, ⟨_, rfl, rfl⟩, List.forall_mem_nil _⟩
  | dialogue properties =>
    simp only [kind, slots, List.forall_mem_cons]
    exact ⟨⟨_, rfl, rfl⟩, ⟨_, rfl, rfl⟩, ⟨_, rfl, rfl⟩, List.forall_mem_nil _⟩
  | encounter properties =>
    simp only [kind, slots, List.forall_mem_cons]
    exact ⟨⟨_, rfl, Slot.check_holding (Check.positive_val _)⟩,
      ⟨_, rfl, Slot.check_holding (Check.level_val _)⟩, ⟨_, rfl, rfl⟩,
      List.forall_mem_nil _⟩
  | teleport properties =>
    simp only [kind, slots, List.forall_mem_cons]
    exact ⟨⟨_, rfl, rfl⟩, ⟨_, rfl, rfl⟩, ⟨_, rfl, rfl⟩, ⟨_, rfl, rfl⟩,
      List.forall_mem_nil _⟩

/-- Free-form values without locations are written as they are. -/
theorem plainFields_eq_fields {properties : Properties}
    (hdata : ∀ value ∈ properties.freeValues, value.locationKind? = none) :
    properties.plainFields = properties.fields := by
  have hfree :
      ∀ value ∈ properties.freeValues, value.withoutLocations = value :=
    fun value hmem => value.withoutLocations_eq_self (hdata value hmem)
  cases properties with
  | condition properties =>
    rw [plainFields, fieldsWith, ConditionProperties.fields,
      hfree _ (List.mem_singleton_self _)]
    rfl
  | action properties =>
    rw [plainFields, fieldsWith, ActionProperties.fields,
      hfree _ (List.mem_singleton_self _)]
    rfl
  | _ => rfl

/-! ## Updates -/

section Fields

variable {kind : Kind} {fields : List (String × Value)}

/-- A field that an object has under the key that documents use. -/
theorem Slot.read_of_lookup {slot : Slot} {value : Value}
    (hvalue : fields.lookup slot.name.key = some value) :
    slot.read fields =
      ((slot.check value).under (.key slot.name.key)).map
        (slot.name.key, ·) := by
  simp only [Slot.read, FieldName.withDefault, FieldName.check, FieldName.find?,
    hvalue]

theorem Slot.read_eq_accepted_iff {slot : Slot} {value : Value}
    {field : String × Value}
    (hvalue : fields.lookup slot.name.key = some value) :
    slot.read fields = .accepted field ↔
      ∃ result, slot.check value = .accepted result ∧
        (slot.name.key, result) = field := by
  rw [Slot.read_of_lookup hvalue, Checked.map_eq_accepted_iff]
  simp only [Checked.under_eq_accepted_iff]

variable (hnames : names fields = (known kind).map FieldName.key)

include hnames

/-- An object with the keys of a record has no others. -/
theorem unknownKeys_eq_nil : unknownKeys (known kind) fields = [] := by
  rw [unknownKeys, List.filter_eq_nil_iff]
  intro key hkey
  obtain ⟨value, hvalue⟩ :=
    Option.isSome_iff_exists.mp (lookup_isSome_iff_mem_names.mpr hkey)
  rw [hnames, List.mem_map] at hkey
  obtain ⟨name, hname, rfl⟩ := hkey
  have hused : name.key ∈ (known kind).filterMap fun name =>
      (name.find? fields).map Prod.fst := by
    refine List.mem_filterMap.mpr ⟨name, hname, ?_⟩
    rw [FieldName.find?, hvalue]
    rfl
  simpa using hused

theorem check_eq_accepted_iff {properties : Properties} :
    check kind (.dict fields) = .accepted properties ↔
      read kind fields = .accepted properties := by
  rw [check, Check.record_eq_accepted_iff, unknownKeys_eq_nil hnames,
    and_iff_left rfl]

end Fields

theorem fields_of_read {kind : Kind} {fields : List (String × Value)}
    {properties : Properties}
    (hread : read kind fields = .accepted properties) :
    (slots kind).map (·.read fields) = properties.fields.map .accepted := by
  have hfields := map_fields_read kind fields
  rw [hread] at hfields
  exact Checked.all_eq_accepted_iff_eq_map.mp hfields.symm

theorem lookup_of_read {kind : Kind} {fields : List (String × Value)}
    {properties : Properties} (hread : read kind fields = .accepted properties)
    {slot : Slot} (hslot : slot ∈ slots kind) {value : Value}
    (hvalue : fields.lookup slot.name.key = some value) :
    ∃ result, slot.check value = .accepted result ∧
      properties.fields.lookup slot.name.key = some result := by
  have hmem := List.mem_map_of_mem (f := (·.read fields)) hslot
  rw [fields_of_read hread, List.mem_map] at hmem
  obtain ⟨field, hfield, hslotread⟩ := hmem
  obtain ⟨result, hcheck, rfl⟩ :=
    (Slot.read_eq_accepted_iff hvalue).mp hslotread.symm
  have hdistinct : (names properties.fields).Nodup :=
    properties.names_fieldsWith_nodup id
  exact ⟨result, hcheck, (Table.lookup_eq_some_iff_mem hdistinct).mpr hfield⟩

theorem read_of_slots {kind : Kind} {fields : List (String × Value)}
    (hslots : ∀ slot ∈ slots kind, ∃ field,
      slot.read fields = .accepted field) :
    ∃ properties, read kind fields = .accepted properties := by
  choose! result hresult using hslots
  have hall : Checked.all ((slots kind).map (·.read fields)) =
      .accepted ((slots kind).map result) := by
    rw [Checked.all_eq_accepted_iff_eq_map, List.map_map]
    exact List.map_congr_left hresult
  rw [← map_fields_read] at hall
  obtain ⟨properties, hread, -⟩ := Checked.map_eq_accepted_iff.mp hall
  exact ⟨properties, hread⟩

/-- Every change names a field, and the value given to a field passes its
check. -/
def Acceptable (kind : Kind) (changes : List (String × Value)) : Prop :=
  (∀ change ∈ changes, ∃ slot ∈ slots kind, change.1 ∈ slot.name.spellings) ∧
    ∀ slot ∈ slots kind, ∀ value ∈ given? slot.name changes,
      ∃ result, slot.check value = .accepted result

/-- A changed field holds what its check answers for the value given to it, and
another field holds what it has held before. -/
def Slot.Follows (slot : Slot) (changes : List (String × Value))
    (before after : Properties) : Prop :=
  match given? slot.name changes with
  | some value => ∃ result, slot.check value = .accepted result ∧
      after.fields.lookup slot.name.key = some result
  | none =>
    after.fields.lookup slot.name.key = before.fields.lookup slot.name.key

section Update

variable {properties : Properties} (changes : List (String × Value))

theorem names_changed :
    names (applied properties.kind changes properties.plainFields) =
    (known properties.kind).map FieldName.key := by
  have hplain := names_fieldsWith Value.withoutLocations properties
  exact (names_applied hplain).trans hplain

variable (hdata : ∀ value ∈ properties.freeValues, value.locationKind? = none)

include hdata

/-- What a field is checked with: the value given to it, or else the one that it
holds. -/
theorem lookup_changed {slot : Slot} (hslot : slot ∈ slots properties.kind) :
    (applied properties.kind changes properties.plainFields).lookup
      slot.name.key =
      (given? slot.name changes).or
        (properties.fields.lookup slot.name.key) := by
  rw [lookup_applied (Slot.name_mem hslot), plainFields_eq_fields hdata]

/-- An update is accepted if its changes are: the fields that it does not name
hold values which pass their checks. -/
theorem update_accepted_iff :
    (∃ updated, properties.update changes = .ok updated) ↔
      Acceptable properties.kind changes := by
  have hnamed :
      (∀ change ∈ changes, ∃ name ∈ known properties.kind,
        change.1 ∈ name.spellings) ↔ ∀ change ∈ changes,
          ∃ slot ∈ slots properties.kind, change.1 ∈ slot.name.spellings := by
    simp [← names_slots]
  simp only [update_eq_ok_iff, exists_and_left, hnamed, Acceptable,
    check_eq_accepted_iff (names_changed changes)]
  refine and_congr_right fun _ =>
    ⟨?_, fun hgiven => read_of_slots fun slot hslot => ?_⟩
  · rintro ⟨updated, hread⟩ slot hslot value hvalue
    have hlookup := lookup_changed changes hdata hslot
    rw [Option.mem_def.mp hvalue, Option.some_or] at hlookup
    obtain ⟨result, hresult, -⟩ := lookup_of_read hread hslot hlookup
    exact ⟨result, hresult⟩
  · have hlookup := lookup_changed changes hdata hslot
    cases hvalue : given? slot.name changes with
    | some value =>
      obtain ⟨result, hresult⟩ := hgiven slot hslot value hvalue
      rw [hvalue, Option.some_or] at hlookup
      exact ⟨_, (Slot.read_eq_accepted_iff hlookup).mpr ⟨result, hresult, rfl⟩⟩
    | none =>
      obtain ⟨value, hheld, hcheck⟩ := check_held properties slot hslot
      rw [hvalue, Option.none_or, hheld] at hlookup
      exact ⟨_, (Slot.read_eq_accepted_iff hlookup).mpr ⟨value, hcheck, rfl⟩⟩

/-- An accepted update changes the fields that it names and no others. -/
theorem follows_of_update {updated : Properties}
    (hupdate : properties.update changes = .ok updated) {slot : Slot}
    (hslot : slot ∈ slots properties.kind) :
    slot.Follows changes properties updated := by
  have hread :=
    (check_eq_accepted_iff (names_changed changes)).mp
      (update_eq_ok_iff.mp hupdate).2
  have hlookup := lookup_changed changes hdata hslot
  unfold Slot.Follows
  split
  · next value hvalue =>
    rw [hvalue, Option.some_or] at hlookup
    exact lookup_of_read hread hslot hlookup
  · next hvalue =>
    obtain ⟨value, hheld, hcheck⟩ := check_held properties slot hslot
    rw [hvalue, Option.none_or, hheld] at hlookup
    obtain ⟨result, hresult, hafter⟩ := lookup_of_read hread hslot hlookup
    rw [hcheck, Checked.accepted.injEq] at hresult
    rw [hafter, hheld, hresult]

end Update

/-! ## Other spellings -/

/-- The same value for the same field, which may be spelled in the other way. -/
def Respells (kind : Kind) (change other : String × Value) : Prop :=
  change.2 = other.2 ∧ (change.1 = other.1 ∨
    ∃ slot ∈ slots kind, change.1 ∈ slot.name.spellings ∧
      other.1 ∈ slot.name.spellings)

section Respelled

variable {kind : Kind} {change other : String × Value}
  {changes others : List (String × Value)}

theorem Respells.keyOf?_eq (hrespells : Respells kind change other) :
    keyOf? kind change.1 = keyOf? kind other.1 := by
  obtain ⟨-, hsame | ⟨slot, hslot, hchange, hother⟩⟩ := hrespells
  · rw [hsame]
  · have hname := Slot.name_mem hslot
    rw [keyOf?_eq_some_iff.mpr ⟨_, hname, hchange, rfl⟩,
      keyOf?_eq_some_iff.mpr ⟨_, hname, hother, rfl⟩]

/-- Only the name of a field has another spelling. -/
theorem Respells.eq_of_unknown (hrespells : Respells kind change other)
    (hunknown : keyOf? kind change.1 = none) : change.1 = other.1 := by
  obtain ⟨-, hsame | ⟨slot, hslot, hchange, -⟩⟩ := hrespells
  · exact hsame
  · rw [keyOf?_eq_some_iff.mpr ⟨_, Slot.name_mem hslot, hchange, rfl⟩]
      at hunknown
    cases hunknown

theorem unknownNames_respelled
    (hrespelled : List.Forall₂ (Respells kind) changes others) :
    unknownNames kind changes = unknownNames kind others := by
  induction hrespelled with
  | nil => rfl
  | @cons change other changes others hrespells _ ih =>
    simp only [unknownNames, names, List.map_cons, List.filter_cons] at ih ⊢
    rw [← hrespells.keyOf?_eq, ih]
    split
    · next hunknown =>
        rw [hrespells.eq_of_unknown (Option.isNone_iff_eq_none.mp hunknown)]
    · rfl

theorem applied_respelled
    (hrespelled : List.Forall₂ (Respells kind) changes others)
    (fields : List (String × Value)) :
    applied kind changes fields = applied kind others fields := by
  induction hrespelled generalizing fields with
  | nil => rfl
  | @cons change other changes others hrespells _ ih =>
    simp only [applied, List.foldl_cons] at ih ⊢
    rw [hrespells.keyOf?_eq, hrespells.1, ih]

/-- The spelling of the fields makes no difference to an update. -/
theorem update_respelled {properties : Properties}
    (hrespelled : List.Forall₂ (Respells properties.kind) changes others) :
    properties.update changes = properties.update others := by
  rw [update_eq, update_eq, unknownNames_respelled hrespelled,
    applied_respelled hrespelled]

end Respelled

end Properties

end StoryGraph
