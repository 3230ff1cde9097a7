import StoryGraph.Proofs.Document.Derived
import StoryGraph.Proofs.Graph.Accepted
import StoryGraph.Proofs.Json.Reading

/-!
# The document format

What a graph document has to be like, stage by stage: an object under a
supported version, of the right shape, whose entries are nodes of registered
kinds, with ids that are all distinct.  Such documents are read, and only such;
every other source is refused under the code of the first stage that it fails,
if that stage has one.
-/

namespace StoryGraph

/-! ## Last values -/

theorem Table.find?_foldl_insert {α : Type} (entries : List (String × α))
    (table : Table α) (name : String) :
    (entries.foldl (fun table entry => table.insert entry.1 entry.2)
      table).find? name =
      (entries.reverse.lookup name).or (table.find? name) := by
  induction entries generalizing table with
  | nil => rfl
  | cons entry entries ih =>
    rw [List.foldl_cons, ih, Table.find?_insert, List.reverse_cons,
      List.lookup_append]
    cases entries.reverse.lookup name with
    | some value => rfl
    | none =>
      rw [List.lookup_cons, List.lookup_nil]
      by_cases hname : name = entry.1
      · simp [hname]
      · simp [hname, beq_eq_false_iff_ne.mpr hname]

/-- A repeated name has its last value. -/
theorem Table.find?_ofList {α : Type} (entries : List (String × α))
    (name : String) :
    (Table.ofList entries).find? name = entries.reverse.lookup name := by
  rw [Table.ofList, Table.find?_foldl_insert]
  exact Option.or_none

namespace GraphDocument

/-! ## The shape -/

open Check in
/-- The fields of a document, each as it has to be or absent, and no others. -/
structure Describes (fields : List (String × Value))
    (document : GraphDocument) : Prop where
  known : names fields ⊆ keys
  version : Given IsText (some "1.0") (fields.lookup "version") document.version
  id : Given (fun value id => IsText value id.val) none
    (fields.lookup "id") document.id
  name : Given IsText (some "") (fields.lookup "name") document.name
  nodes : Given (IsList (IsPair IsText IsObject)) (some [])
    (fields.lookup "nodes") document.nodes
  connections : Given (IsList fun value connection =>
    Connection.check value = .accepted connection) (some [])
      (fields.lookup "connections") document.connections
  values : Given (IsList (IsPair IsText Eq)) (some [])
    (fields.lookup "variables") document.values
  flags : Given
    (IsList (IsPair IsText fun value truth => boolean value = .accepted truth))
    (some []) (fields.lookup "flags") document.flags

open Check in
theorem check_eq_accepted_iff {fields : List (String × Value)}
    {document : GraphDocument} :
    check (.dict fields) = .accepted document ↔ Describes fields document := by
  have hnodes :
      ∀ {value result}, list (pair text (table any)) value = .accepted result ↔
        IsList (IsPair IsText IsObject) value result :=
    list_eq_accepted_iff
      (pair_eq_accepted_iff text_eq_accepted_iff table_any_eq_accepted_iff)
  have hconnections :
      ∀ {value result}, list Connection.check value = .accepted result ↔
        IsList (fun value connection =>
          Connection.check value = .accepted connection) value result :=
    list_eq_accepted_iff Iff.rfl
  have hvalues :
      ∀ {value result}, list (pair text any) value = .accepted result ↔
        IsList (IsPair IsText Eq) value result :=
    list_eq_accepted_iff
      (pair_eq_accepted_iff text_eq_accepted_iff any_eq_accepted_iff)
  have hflags :
      ∀ {value result}, list (pair text boolean) value = .accepted result ↔
        IsList (IsPair IsText fun value truth =>
          boolean value = .accepted truth) value result :=
    list_eq_accepted_iff (pair_eq_accepted_iff text_eq_accepted_iff Iff.rfl)
  simp only [check, record_eq_accepted_iff, known_eq,
    unknownKeys_plain_eq_nil_iff, read, Checked.fmap_eq, Checked.seq_eq,
    Checked.apply_eq_accepted_iff, Checked.map_eq_accepted_iff,
    FieldName.withDefault, FieldName.required,
    plain_eq_accepted_iff text_eq_accepted_iff,
    plain_eq_accepted_iff filled_eq_accepted_iff, plain_eq_accepted_iff hnodes,
    plain_eq_accepted_iff hconnections, plain_eq_accepted_iff hvalues,
    plain_eq_accepted_iff hflags]
  -- One pair for each of the seven fields, the version innermost.
  constructor
  · rintro ⟨⟨_, flags,
      ⟨_, values,
        ⟨_, connections,
          ⟨_, nodes,
            ⟨_, name, ⟨_, id, ⟨version, hversion, rfl⟩, hid, rfl⟩, hname, rfl⟩,
            hnodes, rfl⟩, hconnections, rfl⟩, hvalues, rfl⟩, hflags, rfl⟩,
              hknown⟩
    exact ⟨hknown, hversion, hid, hname, hnodes, hconnections, hvalues, hflags⟩
  · rintro ⟨hknown, hversion, hid, hname, hnodes, hconnections, hvalues, hflags⟩
    exact ⟨⟨_, _,
      ⟨_, _,
        ⟨_, _,
          ⟨_, _, ⟨_, _, ⟨_, _, ⟨_, hversion, rfl⟩, hid, rfl⟩, hname, rfl⟩,
            hnodes, rfl⟩, hconnections, rfl⟩, hvalues, rfl⟩, hflags, rfl⟩,
              hknown⟩

/-! ## The nodes -/

/-- The object of an entry, without derived keys and with the id of the entry if
it has none, is the node, and this has the id of the entry. -/
structure Holds (entry : String × Table Value) (node : Node) : Prop where
  accepted : Node.check (.dict (nodeFields entry.1 entry.2.entries)) =
    .accepted node
  id : node.id = entry.1

theorem readNode_eq_ok_iff {entry : String × Table Value} {node : Node} :
    readNode entry.1 entry.2.entries = .ok node ↔ Holds entry node := by
  rw [readNode]
  cases hcheck : Node.check (.dict (nodeFields entry.1 entry.2.entries)) with
  | rejected issues =>
    constructor
    · intro hread
      cases hread
    · intro hholds
      cases hcheck.symm.trans hholds.accepted
  | accepted read =>
    simp only
    split
    · next hid =>
      constructor
      · intro hread
        cases hread
        exact ⟨hcheck, hid⟩
      · intro hholds
        rw [Checked.accepted.inj (hcheck.symm.trans hholds.accepted)]
    · next hid =>
      constructor
      · intro hread
        cases hread
      · intro hholds
        cases hcheck.symm.trans hholds.accepted
        exact absurd hholds.id hid

theorem readNodes_eq_ok_iff {entries : List (String × Table Value)}
    {nodes : List Node} :
    readNodes entries = .ok nodes ↔ List.Forall₂ Holds entries nodes := by
  induction entries generalizing nodes with
  | nil => simp [readNodes, eq_comm]
  | cons entry entries ih =>
    rw [List.forall₂_cons_left_iff]
    simp only [← readNode_eq_ok_iff, ← ih]
    rw [readNodes]
    cases readNode entry.1 entry.2.entries with
    | error error => simp
    | ok node => cases readNodes entries <;> simp [Except.map, eq_comm]

/-- Only nodes of registered kinds and with ids of their own are added. -/
theorem of_addNodes {nodes : List Node} {graph later : Graph}
    (hadd : addNodes graph nodes = .ok later) :
    (∀ node ∈ nodes, (graph.registry.find? node.kind).isSome = true) ∧
      ((graph.nodes ++ nodes).map Node.id).Nodup := by
  induction nodes generalizing graph with
  | nil =>
    rw [List.append_nil]
    exact ⟨by simp, graph.distinct⟩
  | cons node rest ih =>
    rw [addNodes] at hadd
    split at hadd
    · cases hadd
    · next next hnext =>
      rw [Graph.addNode] at hnext
      split at hnext
      · cases hnext
      · next spec hspec =>
        split at hnext
        · cases hnext
        · cases hnext
          obtain ⟨hkinds, hdistinct⟩ := ih hadd
          refine ⟨List.forall_mem_cons.mpr ⟨by rw [hspec]; rfl, hkinds⟩, ?_⟩
          simpa [Graph.append] using hdistinct

/-- What the graph of a document is, if there is one. -/
theorem toGraph_eq_ok_iff {document : GraphDocument} {registry : Registry}
    {graph : Graph} :
    document.toGraph registry = .ok graph ↔ ∃ nodes,
      List.Forall₂ Holds document.nodes nodes ∧
      (∀ node ∈ nodes, (registry.find? node.kind).isSome = true) ∧
      (document.connections.map Connection.id).Nodup ∧
      ∃ hdistinct : (nodes.map Node.id).Nodup, graph =
        ⟨document.id.val, document.name, registry, nodes, document.connections,
          document.id.property, hdistinct⟩ := by
  constructor
  · intro hgraph
    rw [toGraph] at hgraph
    split at hgraph
    · cases hgraph
    · next nodes hnodes =>
      dsimp only at hgraph
      split at hgraph
      · cases hgraph
      · next start hstart =>
        obtain ⟨hkinds, hdistinct⟩ := of_addNodes hstart
        -- What has been added determines the graph without its connections.
        rw [addNodes_eq_ok hkinds hdistinct] at hstart
        cases hstart
        cases hadd : Graph.addConnections _ document.connections with
        | error error =>
          rw [hadd] at hgraph
          cases hgraph
        | ok later =>
          rw [hadd] at hgraph
          cases hgraph
          have hids :=
            Graph.distinct_of_addConnections (by exact List.nodup_nil) hadd
          rw [Graph.eq_of_addConnections hadd] at hids
          exact ⟨nodes, readNodes_eq_ok_iff.mp hnodes, hkinds, hids, hdistinct,
            Graph.eq_of_addConnections hadd⟩
  · rintro ⟨nodes, hnodes, hkinds, hconnections, hdistinct, rfl⟩
    have hadd :
        addNodes (Graph.empty document.id.val document.name registry
          document.id.property) nodes =
            .ok ⟨document.id.val, document.name, registry, nodes, [],
              document.id.property, hdistinct⟩ :=
      @addNodes_eq_ok nodes (Graph.empty document.id.val document.name registry
        document.id.property) hkinds hdistinct
    obtain ⟨later, hlater⟩ := @Graph.addConnections_eq_ok document.connections
      ⟨document.id.val, document.name, registry, nodes, [],
        document.id.property, hdistinct⟩
      hconnections
    rw [Graph.eq_of_addConnections hlater] at hlater
    exact toGraph_eq_ok (readNodes_eq_ok_iff.mpr hnodes) hadd hlater

/-- A document of the right shape is only refused as invalid. -/
theorem code_of_readNodes {entries : List (String × Table Value)}
    {error : DocumentError} (hread : readNodes entries = .error error) :
    error.code = "INVALID_DOCUMENT" := by
  induction entries with
  | nil => cases hread
  | cons entry entries ih =>
    rw [readNodes] at hread
    split at hread
    · next other hother =>
      cases hread
      rw [readNode] at hother
      split at hother
      · cases hother
        rfl
      · split at hother
        · cases hother
        · cases hother
          rfl
    · cases hrest : readNodes entries with
      | error other =>
        rw [hrest] at hread
        cases hread
        exact ih hrest
      | ok nodes =>
        rw [hrest] at hread
        cases hread

theorem code_of_toGraph {document : GraphDocument} {registry : Registry}
    {error : DocumentError}
    (hgraph : document.toGraph registry = .error error) :
    error.code = "INVALID_DOCUMENT" := by
  rw [toGraph] at hgraph
  split at hgraph
  · next other hother =>
    cases hgraph
    exact code_of_readNodes hother
  · dsimp only at hgraph
    split at hgraph
    · cases hgraph
      rfl
    · next start hstart =>
      cases hadd : start.addConnections document.connections with
      | error refused =>
        rw [hadd] at hgraph
        cases hgraph
        rfl
      | ok later =>
        rw [hadd] at hgraph
        cases hgraph

/-! ## Documents -/

/-- An object in the format of documents, what it says, and the nodes of its
entries. -/
structure WellFormed (settings : Settings) (registry : Registry)
    (fields : List (String × Value)) (document : GraphDocument)
    (nodes : List Node) : Prop where
  version : supportOf (claimedVersion fields)
    settings.supportedDocumentVersions = .satisfied
  shape : Describes fields document
  entries : List.Forall₂ Holds document.nodes nodes
  kinds : ∀ node ∈ nodes, (registry.find? node.kind).isSome = true
  nodeIds : (nodes.map Node.id).Nodup
  connectionIds : (document.connections.map Connection.id).Nodup

/-- The graph and the context of a document: nodes and connections in their
order, and of a repeated variable or flag the last value. -/
structure Yields (registry : Registry) (document : GraphDocument)
    (nodes : List Node) (graph : Graph) (context : Context) : Prop where
  id : graph.id = document.id.val
  name : graph.name = document.name
  registry : graph.registry = registry
  nodes : graph.nodes = nodes
  connections : graph.connections = document.connections
  values : ∀ name, context.values.find? name =
    document.values.reverse.lookup name
  flags : ∀ name, context.flags.find? name = document.flags.reverse.lookup name
  idle : context.activeEvents = .empty

end GraphDocument

/-- The code of an error says which stage a source fails.  There is no code for
a number that is too long, in the source, in its version or in the supported
ones, for a version to which the supported ones give no answer, and for a source
that is outside of what texts can hold. -/
structure DocumentError.Explains (error : DocumentError) (settings : Settings)
    (source : Json.Source) : Prop where
  malformed : error.code = "MALFORMED_JSON" ↔
    ∃ reason, source.read = .error (.malformed reason)
  numeral : ∀ fault, error = .numeral fault ↔
    (∃ digits, source.read = .error (.oversizedInteger digits) ∧
        .oversized digits = fault) ∨
      ∃ fields, source.read = .ok (.dict fields) ∧
        supportOf (claimedVersion fields) settings.supportedDocumentVersions =
          .faulty fault
  surrogate : error = .loneSurrogate ↔ source.read = .error .loneSurrogate
  unsupported : error.code = "UNSUPPORTED_VERSION" ↔
    ∃ fields, source.read = .ok (.dict fields) ∧
    supportOf (claimedVersion fields) settings.supportedDocumentVersions =
      .unsatisfied
  undecided : error = .undecidedVersion ↔
    ∃ fields, source.read = .ok (.dict fields) ∧
    supportOf (claimedVersion fields) settings.supportedDocumentVersions =
      .undecided
  invalid : error.code = "INVALID_DOCUMENT" ↔ ∃ value, source.read = .ok value ∧
    ∀ fields, value = .dict fields →
      supportOf (claimedVersion fields) settings.supportedDocumentVersions =
        .satisfied
  coded : error.code ∈
    ["MALFORMED_JSON", "UNSUPPORTED_VERSION", "INVALID_DOCUMENT"] ∨
    error = .undecidedVersion ∨ error = .loneSurrogate ∨ ∃ fault,
      error = .numeral fault

open GraphDocument

section Decoding

variable {settings : Settings} {registry : Registry} {source : Json.Source}

theorem readObject_eq_ok_iff {fields : List (String × Value)} :
    readObject source = .ok fields ↔ source.read = .ok (.dict fields) := by
  rw [readObject]
  cases source.read with
  | error reason => simp
  | ok value => cases value <;> simp

theorem readObject_eq_error {error : DocumentError}
    (hobject : readObject source = .error error) :
    (∃ failure, source.read = .error failure ∧ error = .ofRead failure) ∨
      ∃ value, source.read = .ok value ∧ (∀ fields, value ≠ .dict fields) ∧
        error = .notObject value.kindWord := by
  rw [readObject] at hobject
  cases hread : source.read with
  | error reason =>
    rw [hread] at hobject
    cases hobject
    exact .inl ⟨reason, rfl, rfl⟩
  | ok value =>
    rw [hread] at hobject
    cases value
    case dict fields => cases hobject
    all_goals
      cases hobject
      exact .inr ⟨_, rfl, by simp, rfl⟩

theorem decodeGraph_of_wellFormed {fields : List (String × Value)}
    {document : GraphDocument} {nodes : List Node}
    (hread : source.read = .ok (.dict fields))
    (hformed : WellFormed settings registry fields document nodes) :
    ∃ graph context, decodeGraph settings registry source =
      .ok (graph, context) ∧
      Yields registry document nodes graph context := by
  have hcheck := check_eq_accepted_iff.mpr hformed.shape
  have hgraph := toGraph_eq_ok_iff.mpr
    ⟨nodes, hformed.entries, hformed.kinds, hformed.connectionIds,
      hformed.nodeIds, rfl⟩
  refine ⟨⟨document.id.val, document.name, registry, nodes,
    document.connections, document.id.property, hformed.nodeIds⟩,
      document.toContext, ?_,
      ⟨rfl, rfl, rfl, rfl, rfl, Table.find?_ofList _, Table.find?_ofList _,
        rfl⟩⟩
  rw [decodeGraph, readObject_eq_ok_iff.mpr hread]
  simp only [hformed.version, hcheck, hgraph]
  rfl

theorem wellFormed_of_decodeGraph {graph : Graph} {context : Context}
    (hdecode : decodeGraph settings registry source = .ok (graph, context)) :
    ∃ fields document nodes, source.read = .ok (.dict fields) ∧
      WellFormed settings registry fields document nodes := by
  rw [decodeGraph] at hdecode
  split at hdecode
  · cases hdecode
  · next fields hobject =>
    dsimp only at hdecode
    split at hdecode
    · cases hdecode
    · cases hdecode
    · cases hdecode
    · next hversion =>
      split at hdecode
      · cases hdecode
      · next document hcheck =>
        cases hgraph : document.toGraph registry with
        | error error =>
          rw [hgraph] at hdecode
          cases hdecode
        | ok read =>
          obtain ⟨nodes, hentries, hkinds, hconnections, hnodes, -⟩ :=
            toGraph_eq_ok_iff.mp hgraph
          exact ⟨fields, document, nodes, readObject_eq_ok_iff.mp hobject,
            hversion, check_eq_accepted_iff.mp hcheck, hentries, hkinds, hnodes,
            hconnections⟩

theorem explains_of_decodeGraph {error : DocumentError}
    (hdecode : decodeGraph settings registry source = .error error) :
    error.Explains settings source := by
  rw [decodeGraph] at hdecode
  split at hdecode
  · next other hobject =>
    cases hdecode
    rcases readObject_eq_error hobject with
      ⟨failure, hread, rfl⟩ | ⟨value, hread, hdict, rfl⟩
    · cases failure
      all_goals constructor <;>
        simp [hread, DocumentError.ofRead, DocumentError.code]
    · constructor <;> simp [hread, hdict, DocumentError.code]
  · next fields hobject =>
    have hread := readObject_eq_ok_iff.mp hobject
    dsimp only at hdecode
    split at hdecode
    · next hversion =>
      cases hdecode
      constructor <;> simp [hread, hversion, DocumentError.code]
    · next fault hversion =>
      cases hdecode
      constructor <;> simp [hread, hversion, DocumentError.code]
    · next hversion =>
      cases hdecode
      constructor <;> simp [hread, hversion, DocumentError.code]
    · next hversion =>
      have hcode : error.code = "INVALID_DOCUMENT" := by
        split at hdecode
        · cases hdecode
          rfl
        · next document hcheck =>
          cases hgraph : document.toGraph registry with
          | error refused =>
            rw [hgraph] at hdecode
            cases hdecode
            exact code_of_toGraph hgraph
          | ok graph =>
            rw [hgraph] at hdecode
            cases hdecode
      have hcoded :
          ∀ other : DocumentError, other.code = "" → error ≠ other := by
        rintro other hother rfl
        rw [hother] at hcode
        exact absurd hcode (by decide)
      have hnumeral (fault : Numeral.Fault) : error ≠ .numeral fault :=
        hcoded _ rfl
      have hsurrogate : error ≠ .loneSurrogate := hcoded _ rfl
      have hdecided : error ≠ .undecidedVersion := hcoded _ rfl
      constructor <;>
        simp [hread, hversion, hcode, hnumeral, hsurrogate, hdecided]

end Decoding

/-- A signpost whose id stands in its entry only, and a variable with two
values. -/
def signpost : List (String × Value) :=
  [("id", .str "moor"),
    ("nodes", .list [.list [.str "signpost",
      .dict [("type", .str "trigger"), ("outputs", .str "none")]]]),
    ("variables", .list [.list [.str "steps", .int 1],
      .list [.str "steps", .int 2]])]

end StoryGraph
