import StoryGraph.Proofs.Graph.Editing

/-!
# Refused mutations

An editor that asks for a mutation and has it refused is told why by an
authoring error.  There are two exceptions: an end of a new connection that
cannot be read as a port, and a change of a property under a name that the
operation itself has taken.
-/

namespace StoryGraph

/-- What changes a graph: the edits of an editor, and connections that are taken
over as they are. -/
inductive Mutation where
  | edit (edit : Edit)
  | addConnection (connection : Connection)

/-- What is answered when a mutation is accepted. -/
inductive Mutation.Result where
  | node (node : Node)
  | connection (connection : Connection)
  | removed (connections : List Connection)
  | found (known : Bool)
  | nothing

namespace Desk

/-- What a mutation answers, or why it is refused. -/
def answer (desk : Desk) : Mutation → Except Refusal Mutation.Result
  | .edit (.createNode word position overrides nodeId) =>
    (desk.graph.createNode desk.supply word position overrides nodeId).1.map
      (.node ·.2)
  | .edit (.addNode node) =>
    ((desk.graph.addNode node).mapError .authoring).map fun _ => .nothing
  | .edit (.deleteNode nodeId) =>
    .ok (.removed (desk.graph.deleteNode nodeId).2)
  | .edit (.moveNode nodeId position) =>
    ((desk.graph.moveNode nodeId position).mapError .authoring).map (.node ·.2)
  | .edit (.updateProperties nodeId changes) =>
    (desk.graph.updateProperties nodeId changes).map (.node ·.2)
  | .edit (.connect source target) =>
    (desk.graph.connect desk.supply source target).1.map (.connection ·.2)
  | .edit (.disconnect connectionId) =>
    .ok (.found (desk.graph.disconnect connectionId).2)
  | .addConnection connection =>
    ((desk.graph.addConnection connection).mapError .authoring).map fun _ =>
      .nothing

end Desk

/-! ## Outcomes -/

/-- An outcome that is accepted, or refused with an authoring error. -/
def Reported {α : Type} (outcome : Except Refusal α) : Prop :=
  (∃ answer, outcome = .ok answer) ∨ ∃ error,
    outcome = .error (.authoring error)

section Reported

variable {α β : Type}

theorem reported_ok (answer : α) : Reported (.ok answer) := .inl ⟨answer, rfl⟩

theorem reported_error_iff {refusal : Refusal} :
    Reported (.error refusal : Except Refusal α) ↔
      ∃ error, refusal = .authoring error := by
  simp [Reported]

theorem reported_map_iff {outcome : Except Refusal α} {transform : α → β} :
    Reported (outcome.map transform) ↔ Reported outcome := by
  cases outcome <;> simp [Reported, Except.map]

theorem reported_mapError (result : Except AuthoringError α) :
    Reported (result.mapError .authoring) := by
  cases result with
  | ok answer => exact reported_ok answer
  | error error => exact .inr ⟨error, rfl⟩

theorem reported_refuse (error : AuthoringError) :
    Reported (Graph.refuse error : Except Refusal α) := .inr ⟨error, rfl⟩

end Reported

/-! ## Ports -/

/-- A value of one of the forms in which ports are given: a port, an object, or
a pair of a text and what should be a number. -/
inductive Value.HasPortForm : Value → Prop where
  | port (ref : PortRef) : HasPortForm (.port ref)
  | object (fields : List (String × Value)) : HasPortForm (.dict fields)
  | pair (nodeId : String) (number : Value) :
      HasPortForm (.tuple [.str nodeId, number])

/-- A value that names a port: the port itself, the pair of its parts, or an
object of nothing but its parts, of which the node may be given under either of
two keys. -/
inductive PortRef.NamedBy (ref : PortRef) : Value → Prop where
  | port : NamedBy ref (.port ref)
  | pair {number : Value}
    (hnumber : Check.integer number = .accepted ref.port) :
    NamedBy ref (.tuple [.str ref.nodeId, number])
  | object {fields : List (String × Value)} {key : String} {number : Value}
      (hkey : key = "nodeId" ∨ key = "node_id")
      (hknown : names fields ⊆ [key, "port"])
      (hnode : fields.lookup key = some (.str ref.nodeId))
      (hport : fields.lookup "port" = some number)
      (hnumber : Check.integer number = .accepted ref.port) :
      NamedBy ref (.dict fields)

theorem FieldName.required_eq_accepted_iff {α : Type} {name : FieldName}
    {check : Check α} {fields : List (String × Value)} {result : α} :
    name.required check fields = .accepted result ↔
      ∃ spelling value, name.find? fields = some (spelling, value) ∧
        check value = .accepted result := by
  rw [FieldName.required, FieldName.check]
  cases name.find? fields with
  | none => simp
  | some found => simp [Checked.under_eq_accepted_iff, Prod.ext_iff]

/-- The issues of the keys that an object has too many, in its order. -/
theorem Entries.strangers_ofFields (known : List FieldName)
    (fields : List (String × Value)) :
    Entries.strangers known (Entries.ofFields fields) =
      (unknownKeys known fields).map fun key =>
        ⟨.extraForbidden, [.key key]⟩ := by
  have hfields : Entries.fields (Entries.ofFields fields) = fields := by
    simp [Entries.fields, Entries.ofFields, List.filterMap_map]
  have hcontains :
      ∀ field ∈ fields, (unknownKeys known fields).contains field.1 =
        !(known.filterMap fun name => (name.find? fields).map Prod.fst).contains
          field.1 := by
    intro field hfield
    have hmem : field.1 ∈ names fields := List.mem_map_of_mem hfield
    rw [Bool.eq_iff_iff, List.contains_iff_mem, unknownKeys, List.mem_filter,
      and_iff_right hmem]
  calc Entries.strangers known (Entries.ofFields fields)
      = fields.filterMap fun field =>
          if (unknownKeys known fields).contains field.1 then
            some ⟨.extraForbidden, [.key field.1]⟩ else none := by
        rw [Entries.strangers, hfields, Entries.ofFields, List.filterMap_map]
        rfl
    _ = (fields.filter fun field =>
      (unknownKeys known fields).contains field.1).map
          fun field => ⟨.extraForbidden, [.key field.1]⟩ := by
        rw [← List.filterMap_eq_map, List.filterMap_filter]
        rfl
    _ = (unknownKeys known fields).map fun key =>
        ⟨.extraForbidden, [.key key]⟩ := by
          rw [List.filter_congr hcontains, unknownKeys, names, List.filter_map,
            List.map_map]
          rfl

/-- An object is an ordinary mapping. -/
theorem Entries.check_ofFields {α : Type} (known : List FieldName)
    (read : List (String × Value) → Checked α)
    (fields : List (String × Value)) :
    Entries.check known read (Entries.ofFields fields) =
      Check.record known read (.dict fields) := by
  have hfields : Entries.fields (Entries.ofFields fields) = fields := by
    simp [Entries.fields, Entries.ofFields, List.filterMap_map]
  rw [Entries.check, hfields, Entries.strangers_ofFields, Check.record,
    noOthers]
  cases unknownKeys known fields <;> rfl

namespace PortRef

variable {ref : PortRef} {fields : List (String × Value)}

/-- The node of a port is found under the key that documents use, and else under
the other. -/
theorem find?_node_eq_some_iff {key : String} {value : Value} :
    (FieldName.mk "nodeId" "node_id").find? fields = some (key, value) ↔
      fields.lookup key = some value ∧
        (key = "nodeId" ∨ key = "node_id" ∧ fields.lookup "nodeId" = none) := by
  simp only [FieldName.find?]
  cases hlookup : fields.lookup "nodeId" with
  | some found =>
    constructor
    · rintro ⟨⟩
      exact ⟨hlookup, .inl rfl⟩
    · rintro ⟨hvalue, rfl | ⟨-, hnone⟩⟩
      · rw [hlookup] at hvalue
        cases hvalue
        rfl
      · cases hnone
  | none =>
    constructor
    · intro hfound
      obtain ⟨value, hvalue, ⟨⟩⟩ := Option.map_eq_some_iff.mp hfound
      exact ⟨hvalue, .inr ⟨rfl, rfl⟩⟩
    · rintro ⟨hvalue, rfl | ⟨rfl, -⟩⟩
      · cases hlookup.symm.trans hvalue
      · exact Option.map_eq_some_iff.mpr ⟨value, hvalue, rfl⟩

/-- Only the keys under which the parts are found are known. -/
theorem unknownKeys_eq_nil_iff {key : String} {value number : Value}
    (hnode : (FieldName.mk "nodeId" "node_id").find? fields = some (key, value))
    (hport : fields.lookup "port" = some number) :
    unknownKeys known fields = [] ↔ names fields ⊆ [key, "port"] := by
  rw [unknownKeys, List.filter_eq_nil_iff]
  simp [known, find?_plain, hnode, hport, List.subset_def, or_iff_not_imp_left]

theorem check_dict_eq_accepted_iff : check (.dict fields) = .accepted ref ↔
    ref.NamedBy (.dict fields) := by
  have hcheck : check (.dict fields) = Check.record known read (.dict fields) :=
    rfl
  rw [hcheck, Check.record_eq_accepted_iff]
  simp only [read, Checked.fmap_eq, Checked.seq_eq,
    Checked.apply_eq_accepted_iff, Checked.map_eq_accepted_iff,
    FieldName.required_eq_accepted_iff, find?_plain,
    Check.filled_eq_accepted_iff]
  constructor
  · rintro ⟨⟨_, port, ⟨text, ⟨key, value, hnode, hfilled⟩, rfl⟩,
      ⟨_, number, hport, hnumber⟩, rfl⟩, hunknown⟩
    obtain ⟨found, hlookup, heq⟩ := Option.map_eq_some_iff.mp hport
    cases heq
    obtain ⟨hkeyLookup, hkey⟩ := find?_node_eq_some_iff.mp hnode
    rw [Check.IsText] at hfilled
    subst hfilled
    exact .object (hkey.imp_right And.left)
      ((unknownKeys_eq_nil_iff hnode hlookup).mp hunknown)
      hkeyLookup hlookup hnumber
  · intro hnamed
    cases hnamed with
    | @object _ key number hkey hknown hnode hport hnumber =>
      have hfound : (FieldName.mk "nodeId" "node_id").find? fields =
          some (key, .str ref.nodeId) := by
        refine find?_node_eq_some_iff.mpr
          ⟨hnode, hkey.imp_right fun hother => ⟨hother, ?_⟩⟩
        -- With nothing but its parts, the object has the node under one key
        -- only.
        rw [← Option.not_isSome_iff_eq_none, lookup_isSome_iff_mem_names]
        intro hmem
        have hkeys := hknown hmem
        simp [hother] at hkeys
      have hlookup : (fields.lookup "port").map (fun value => ("port", value)) =
          some ("port", number) := by rw [hport]; rfl
      exact ⟨⟨_, ref.port,
        ⟨⟨ref.nodeId, ref.named⟩, ⟨key, _, hfound, rfl⟩, rfl⟩,
        ⟨"port", number, hlookup, hnumber⟩, rfl⟩,
          (unknownKeys_eq_nil_iff hfound hport).mpr hknown⟩

theorem ofValue_dict (fields : List (String × Value)) :
    ofValue (.dict fields) =
      match check (.dict fields) with
      | .accepted ref => .ok ref
      | .rejected issues => .error (.invalid issues) := by
  have hcheck := Entries.check_ofFields known read fields
  simp only [ofValue, ofEntries, Entries.ofValue, hcheck]
  rfl

theorem ofValue_pair (nodeId : String) (number : Value) :
    ofValue (.tuple [.str nodeId, number]) =
      ofValue (.dict [("node_id", .str nodeId), ("port", number)]) := rfl

/-- A value of one of the forms of ports is read as the port that it names, if
it names one. -/
theorem ofValue_eq_ok_iff {value : Value} (hform : value.HasPortForm) :
    ofValue value = .ok ref ↔ ref.NamedBy value := by
  have hobject :
      ∀ fields, ofValue (.dict fields) = .ok ref ↔
        ref.NamedBy (.dict fields) := by
    intro fields
    rw [ofValue_dict, ← check_dict_eq_accepted_iff]
    cases check (.dict fields) <;> simp
  cases hform with
  | port other =>
    constructor
    · rintro ⟨⟩
      exact .port
    · rintro ⟨⟩
      rfl
  | object fields => exact hobject fields
  | pair nodeId number =>
    rw [ofValue_pair, hobject]
    constructor
    · intro hnamed
      cases hnamed with
      | object hkey _ hnode hport hnumber =>
        rcases hkey with rfl | rfl
        · cases hnode
        · cases hnode
          cases hport
          exact .pair hnumber
    · intro hnamed
      cases hnamed with
      | pair hnumber =>
        exact .object (.inr rfl) (by simp [names]) rfl rfl hnumber

/-- What has one of the forms of ports and names none is refused for its
parts. -/
theorem ofValue_eq_error {value : Value} (hform : value.HasPortForm)
    (hunnamed : ¬ ∃ ref : PortRef, ref.NamedBy value) :
    ∃ issues, ofValue value = .error (.invalid issues) := by
  have hobject : ∀ fields, (∀ ref, ofValue (.dict fields) ≠ .ok ref) →
      ∃ issues, ofValue (.dict fields) = .error (.invalid issues) := by
    intro fields hrefused
    rw [ofValue_dict] at hrefused ⊢
    cases hcheck : check (.dict fields) with
    | accepted ref => exact absurd (by rw [hcheck]) (hrefused ref)
    | rejected issues => exact ⟨issues, rfl⟩
  have hrefused : ∀ ref, ofValue value ≠ .ok ref := fun ref hread =>
    hunnamed ⟨ref, (ofValue_eq_ok_iff hform).mp hread⟩
  cases hform with
  | port ref => exact absurd rfl (hrefused ref)
  | object fields => exact hobject fields hrefused
  | pair nodeId number =>
    rw [ofValue_pair] at hrefused ⊢
    exact hobject _ hrefused

end PortRef

/-! ## Operations -/

namespace Graph

variable (graph : Graph) (supply : IdSupply)

/-- Overrides that are left out or an object are refused with an authoring error
at most. -/
theorem reported_newProperties (kind : Kind) (nodeId : String)
    {overrides : Value}
    (hform : overrides = .null ∨ ∃ fields, overrides = .dict fields) :
    Reported (newProperties kind nodeId overrides) := by
  rcases hform with rfl | ⟨fields, rfl⟩
  · exact reported_ok _
  · unfold newProperties
    split
    · simp only [Entries.ofValue]
      split
      · exact reported_ok _
      · exact reported_refuse _
    · exact reported_ok _

theorem reported_newPosition (position : Value) :
    Reported (newPosition position) := by
  unfold newPosition
  split
  · exact reported_ok _
  · exact reported_refuse _

theorem reported_createNode (word position : Value) {overrides : Value}
    (nodeId : Option String)
    (hform : overrides = .null ∨ ∃ fields, overrides = .dict fields) :
    Reported (graph.createNode supply word position overrides nodeId).1 := by
  unfold createNode
  split
  · exact reported_refuse _
  · next spec _ =>
    simp only [createNamed]
    split
    · exact reported_refuse _
    · have hproperties :=
        reported_newProperties spec.kind
          (supply.orTake "node" nodeId).1.val hform
      have hposition := reported_newPosition position
      split
      · next refusal hrefusal =>
        rw [hrefusal] at hproperties
        exact reported_error_iff.mpr (reported_error_iff.mp hproperties)
      · split
        · next refusal hrefusal =>
          rw [hrefusal] at hposition
          exact reported_error_iff.mpr (reported_error_iff.mp hposition)
        · exact reported_ok _

/-- Without taken names, changes are refused with an authoring error at most. -/
theorem reported_updateProperties (nodeId : String)
    {changes : List (String × Value)}
    (hfree : ∀ change ∈ changes, change.1 ∉ takenNames) :
    Reported (graph.updateProperties nodeId changes) := by
  unfold updateProperties
  split
  · next change hfound =>
    have htaken := List.find?_some hfound
    rw [List.contains_iff_mem] at htaken
    exact absurd htaken (hfree change (List.mem_of_find?_eq_some hfound))
  · exact reported_mapError _

theorem updateProperties_of_taken (nodeId : String)
    {changes : List (String × Value)}
    (htaken : ¬ ∀ change ∈ changes, change.1 ∉ takenNames) :
    ∃ name ∈ takenNames,
      graph.updateProperties nodeId changes = .error (.takenName name) := by
  unfold updateProperties
  split
  · next change hfound =>
    have htaken := List.find?_some hfound
    exact ⟨change.1, List.contains_iff_mem.mp htaken, rfl⟩
  · next hnone =>
    simp only [List.find?_eq_none, List.contains_iff_mem] at hnone
    exact absurd hnone htaken

/-- Ends that name ports are refused with an authoring error at most. -/
theorem reported_connect {source target : Value} (hsource : source.HasPortForm)
    (htarget : target.HasPortForm) (hfrom : ∃ ref : PortRef, ref.NamedBy source)
    (hto : ∃ ref : PortRef, ref.NamedBy target) :
    Reported (graph.connect supply source target).1 := by
  obtain ⟨sourceRef, hfrom⟩ := hfrom
  obtain ⟨targetRef, hto⟩ := hto
  rw [connect, (PortRef.ofValue_eq_ok_iff hsource).mpr hfrom,
    (PortRef.ofValue_eq_ok_iff htarget).mpr hto]
  exact reported_mapError _

theorem connect_of_unnamed {source target : Value}
    (hsource : source.HasPortForm) (htarget : target.HasPortForm)
    (hunnamed : ¬ ((∃ ref : PortRef, ref.NamedBy source) ∧ ∃ ref : PortRef,
      ref.NamedBy target)) :
    ∃ issues, (graph.connect supply source target).1 =
      .error (.invalid issues) := by
  by_cases hfrom : ∃ ref : PortRef, ref.NamedBy source
  · obtain ⟨issues, hto⟩ :=
      PortRef.ofValue_eq_error htarget fun hto => hunnamed ⟨hfrom, hto⟩
    obtain ⟨ref, hfrom⟩ := hfrom
    rw [connect, (PortRef.ofValue_eq_ok_iff hsource).mpr hfrom, hto]
    exact ⟨issues, rfl⟩
  · obtain ⟨issues, hfrom⟩ := PortRef.ofValue_eq_error hsource hfrom
    rw [connect, hfrom]
    exact ⟨issues, rfl⟩

end Graph

/-! ## Reports -/

namespace Mutation

/-- The arguments are of the declared types: overrides are left out or an
object, and the ends of a connection are of the forms of ports.  The other
arguments can be anything. -/
def HasDeclaredTypes : Mutation → Prop
  | .edit (.createNode _ _ overrides _) =>
    overrides = .null ∨ ∃ fields, overrides = .dict fields
  | .edit (.connect source target) => source.HasPortForm ∧ target.HasPortForm
  | _ => True

/-- The arguments say what they are about: a change names a property, and the
ends of a connection name ports. -/
def IsLegible : Mutation → Prop
  | .edit (.updateProperties _ changes) =>
    ∀ change ∈ changes, change.1 ∉ Graph.takenNames
  | .edit (.connect source target) =>
    (∃ ref : PortRef, ref.NamedBy source) ∧ ∃ ref : PortRef, ref.NamedBy target
  | _ => True

end Mutation

/-- A refusal that is no authoring error: for the parts of a port, or for a
taken name. -/
inductive Refusal.IsStray : Refusal → Prop where
  | unread (issues : List Issue) : IsStray (.invalid issues)
  | taken {name : String}
      (htaken : name ∈ Graph.takenNames) : IsStray (.takenName name)

theorem Refusal.IsStray.not_reported {α : Type} {refusal : Refusal}
    (hstray : refusal.IsStray) :
    ¬ Reported (.error refusal : Except Refusal α) := by
  rw [reported_error_iff]
  rintro ⟨error, rfl⟩
  cases hstray

namespace Desk

theorem reported_of_isLegible (desk : Desk) {mutation : Mutation}
    (hdeclared : mutation.HasDeclaredTypes) (hlegible : mutation.IsLegible) :
    Reported (desk.answer mutation) := by
  cases mutation with
  | edit edit =>
    cases edit with
    | createNode word position overrides nodeId =>
      exact reported_map_iff.mpr
        (desk.graph.reported_createNode _ word position nodeId hdeclared)
    | addNode node => exact reported_map_iff.mpr (reported_mapError _)
    | deleteNode nodeId => exact reported_ok _
    | moveNode nodeId position =>
      exact reported_map_iff.mpr (reported_mapError _)
    | updateProperties nodeId changes =>
      exact reported_map_iff.mpr
        (desk.graph.reported_updateProperties nodeId hlegible)
    | connect source target =>
      exact reported_map_iff.mpr
        (desk.graph.reported_connect _ hdeclared.1 hdeclared.2
          hlegible.1 hlegible.2)
    | disconnect connectionId => exact reported_ok _
  | addConnection connection => exact reported_map_iff.mpr (reported_mapError _)

theorem isStray_of_not_isLegible (desk : Desk) {mutation : Mutation}
    (hdeclared : mutation.HasDeclaredTypes)
    (hillegible : ¬ mutation.IsLegible) :
    ∃ refusal, desk.answer mutation = .error refusal ∧ refusal.IsStray := by
  cases mutation with
  | edit edit =>
    cases edit with
    | updateProperties nodeId changes =>
      obtain ⟨name, hname, hupdate⟩ :=
        desk.graph.updateProperties_of_taken nodeId hillegible
      exact ⟨_, by rw [answer, hupdate]; rfl, .taken hname⟩
    | connect source target =>
      obtain ⟨issues, hconnect⟩ :=
        desk.graph.connect_of_unnamed desk.supply hdeclared.1
          hdeclared.2 hillegible
      exact ⟨_, by rw [answer, hconnect]; rfl, .unread issues⟩
    | _ => exact absurd trivial hillegible
  | addConnection connection => exact absurd trivial hillegible

/-- A mutation is accepted or refused with an authoring error exactly when it
changes no property under a taken name and connects nothing but what names
ports, existing or not.  Otherwise it is refused for just that. -/
theorem answer_reported_iff (desk : Desk) {mutation : Mutation}
    (hdeclared : mutation.HasDeclaredTypes) :
    (Reported (desk.answer mutation) ↔ mutation.IsLegible) ∧
      (¬ mutation.IsLegible → ∃ refusal, desk.answer mutation = .error refusal ∧
        refusal.IsStray) := by
  have hstray : ¬ mutation.IsLegible →
      ∃ refusal, desk.answer mutation = .error refusal ∧ refusal.IsStray :=
    desk.isStray_of_not_isLegible hdeclared
  refine ⟨⟨fun hreported => ?_, desk.reported_of_isLegible hdeclared⟩, hstray⟩
  by_contra hillegible
  obtain ⟨refusal, hanswer, hrefusal⟩ := hstray hillegible
  exact hrefusal.not_reported (hanswer ▸ hreported)

/-- Connects the output of a switch to an end that is given as a pair with an
empty text. -/
def unnamedEnd : Mutation :=
  .edit (.connect (.tuple [.str "switch", .int 0]) (.tuple [.str "", .int 0]))

/-- Not even an empty graph says that such a node is missing. -/
theorem unnamedEnd_refused : unnamedEnd.HasDeclaredTypes ∧
    ∃ refusal, (fresh ⟨"g", by decide⟩ "" .standard ⟨1⟩).answer unnamedEnd =
      .error refusal ∧
      refusal.IsStray := by
  have hdeclared : unnamedEnd.HasDeclaredTypes := ⟨.pair _ _, .pair _ _⟩
  refine ⟨hdeclared, (answer_reported_iff _ hdeclared).2 ?_⟩
  rintro ⟨-, ⟨nodeId, port, named⟩, hnamed⟩
  cases hnamed
  exact named rfl

/-- Not every refused mutation is refused with an authoring error. -/
theorem not_always_reported : ¬ ∀ (desk : Desk) (mutation : Mutation),
    mutation.HasDeclaredTypes → Reported (desk.answer mutation) := by
  intro hreported
  have hrefused : (fresh ⟨"g", by decide⟩ "" .standard ⟨1⟩).answer unnamedEnd =
      .error (.invalid [⟨.stringTooShort, [.key "node_id"]⟩]) := by rfl
  rcases hrefused ▸ hreported (fresh ⟨"g", by decide⟩ "" .standard ⟨1⟩)
    unnamedEnd
    ⟨.pair _ _, .pair _ _⟩ with ⟨_, ⟨⟩⟩ | ⟨_, ⟨⟩⟩

end Desk

end StoryGraph
