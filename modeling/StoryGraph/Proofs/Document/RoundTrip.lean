import StoryGraph.Proofs.Document.Recorded
import StoryGraph.Proofs.Json.Characters

/-!
# Round trips

A graph and a context that are written as a document and read again are the
same in everything but the form of the free-form values, which are as documents
hold them.  As long as writing these once more does not change them, the
signature and the text of the document stay as well.
-/

namespace StoryGraph

/-! ## Writing -/

section Writing

open Value

theorem Properties.fieldsLocationKind?_dump (properties : Properties) :
    fieldsLocationKind? properties.dump = none := by
  rw [fieldsLocationKind?_eq_none]
  exact of_mem_dump (fun value => value.locationKind? = none) (fun _ => rfl)
    (fun _ => rfl)
    (fun _ => rfl) (fun _ => rfl) fun value _ => value.locationKind?_toData

theorem locationKind?_nodeObject (graph : Graph) (node : Node) :
    (nodeObject graph node).locationKind? = none := by
  simp only [nodeObject, Node.dump, Position.dump, Coordinate.dump,
    List.cons_append, List.nil_append, locationKind?, fieldsLocationKind?,
    itemsLocationKind?_eq_none, Properties.fieldsLocationKind?_dump,
    List.forall_mem_map, Option.or_eq_none_iff, and_true, true_and,
    implies_true]
  intro slot _
  cases slot <;> rfl

theorem locationKind?_sortedPairs {entries : List (String × Value)}
    (hentries : ∀ entry ∈ entries, entry.2.locationKind? = none) :
    (sortedPairs entries).locationKind? = none := by
  simp only [sortedPairs, locationKind?, itemsLocationKind?_eq_none,
    List.forall_mem_map]
  intro entry hmem
  simp [locationKind?, hentries entry (List.mem_mergeSort.mp hmem)]

/-- A document holds no location unless a variable does. -/
theorem locationKind?_graphDocument {context : Context}
    (hvalues : ∀ entry ∈ context.values.entries, entry.2.locationKind? = none)
    (version : String) (graph : Graph) :
    (graphDocument version graph context).locationKind? = none := by
  have hflags :
      (sortedPairs (context.flags.map Value.bool).entries).locationKind? =
        none := by
    apply locationKind?_sortedPairs
    intro entry hmem
    obtain ⟨flag, -, rfl⟩ := List.mem_map.mp hmem
    rfl
  simp [graphDocument, fieldsLocationKind?, locationKind?, itemsLocationKind?,
    itemsLocationKind?_eq_none, locationKind?_nodeObject,
    locationKind?_sortedPairs hvalues, hflags,
    Connection.dump, PortRef.dump]

theorem encodeGraph_eq_ok {graph : Graph} {context : Context}
    (hwritable : graph.isWritable = true)
    (hvalues : ∀ entry ∈ context.values.entries, entry.2.locationKind? = none)
    (settings : Settings) :
    encodeGraph settings graph context =
      .ok (Json.write .document
        (graphDocument settings.documentVersion graph context)) := by
  rw [encodeGraph, Graph.written, if_pos hwritable]
  simp only [locationKind?_graphDocument hvalues]

/-- The document of nodes, variables and flags that are in order. -/
theorem graphDocument_of_ordered {graph : Graph} {context : Context}
    (hnodes : graph.nodes.Pairwise fun first second =>
      Graph.nodeOrder first second = true)
    (hvalues : context.values.entries.Pairwise fun first second =>
      decide (first.1 ≤ second.1) = true)
    (hflags : (context.flags.map Value.bool).entries.Pairwise
      fun first second => decide (first.1 ≤ second.1) = true)
    (version : String) :
    graphDocument version graph context =
      .dict [("version", .str version), ("id", .str graph.id),
        ("name", .str graph.name),
        ("nodes", .list (graph.nodes.map fun node =>
          .list [.str node.id, nodeObject graph node])),
        ("connections",
          .list (graph.connections.map fun connection =>
            .dict connection.dump)),
        ("variables", context.values.pairs),
        ("flags", (context.flags.map Value.bool).pairs)] := by
  have hcanonical : graph.canonicalNodes = graph.nodes :=
    List.mergeSort_of_pairwise hnodes
  have hvalues : context.values.sorted = context.values :=
    Table.eq_of_entries (List.mergeSort_of_pairwise hvalues)
  have hflags : (context.flags.map Value.bool).sorted =
      context.flags.map Value.bool :=
    Table.eq_of_entries (List.mergeSort_of_pairwise hflags)
  rw [graphDocument, hcanonical, sortedPairs_entries, sortedPairs_entries,
    hvalues, hflags]

end Writing

/-! ## Reading -/

/-- A source that holds the document of a graph and a context is read as their
recorded forms. -/
theorem decodeGraph_eq_ok {settings : Settings} {graph : Graph}
    {context : Context} {source : Json.Source}
    (hversion : supportOf settings.documentVersion
      settings.supportedDocumentVersions = .satisfied)
    (hregistered : graph.Registered)
    (hdistinct : (graph.connections.map Connection.id).Nodup)
    (hread : source.read =
      .ok (graphDocument settings.documentVersion graph context)) :
    decodeGraph settings graph.registry source =
      .ok (graph.recorded, context.recorded) := by
  obtain ⟨fields, hfields, hclaimed⟩ : ∃ fields,
      graphDocument settings.documentVersion graph context = .dict fields ∧
        claimedVersion fields = settings.documentVersion := ⟨_, rfl, rfl⟩
  have hobject : readObject source = .ok fields := by
    rw [readObject, hread, hfields]
  have hcheck : GraphDocument.check (.dict fields) =
      .accepted (.ofGraph settings.documentVersion graph context) := by
    rw [← hfields, GraphDocument.check_graphDocument]
  rw [decodeGraph, hobject]
  simp only [hclaimed, hversion, hcheck,
    GraphDocument.toGraph_ofGraph hregistered hdistinct,
    GraphDocument.toContext_ofGraph]
  rfl

/-! ## What stays -/

/-- The kind of a node and its place, with zeros for the coordinates that were
left out. -/
def Node.outline (node : Node) : Kind × Position :=
  (node.kind, node.position.settled)

/-- The same name and registry, the same connections in the same order, and
nodes of the same kinds at the same places, in any order. -/
structure Graph.SameOutline (other graph : Graph) : Prop where
  id : other.id = graph.id
  name : other.name = graph.name
  registry : other.registry = graph.registry
  nodes : ∀ nodeId,
    (other.getNode? nodeId).map Node.outline =
      (graph.getNode? nodeId).map Node.outline
  connections : other.connections = graph.connections

/-- The same variables and flags, in any order. -/
structure Context.SameState (other context : Context) : Prop where
  values : ∀ name, other.values.find? name = context.values.find? name
  flags : ∀ name, other.flags.find? name = context.flags.find? name

/-- A graph with connection ids of their own and a context without locations,
written under a version that is read.  The text of the document is taken to be
read as the document that was written. -/
structure Portable (settings : Settings) (graph : Graph)
    (context : Context) : Prop where
  version : supportOf settings.documentVersion
    settings.supportedDocumentVersions = .satisfied
  registered : graph.Registered
  distinctIds : (graph.connections.map Connection.id).Nodup
  values : ∀ entry ∈ context.values.entries, entry.2.locationKind? = none
  text : Json.ReadsBack (graphDocument settings.documentVersion graph context)

/-- What is read of the text of a graph and a context. -/
structure Restores (settings : Settings) (graph : Graph) (context : Context)
    (text : String) (again : Graph) (resumed : Context) : Prop where
  encoded : encodeGraph settings graph context = .ok text
  decoded : decodeGraph settings graph.registry (.text text) =
    .ok (again, resumed)
  graph : again.SameOutline graph
  context : resumed.SameState context

/-- Writing the free-form values a second time does not change them, and they
can be written a second time. -/
structure Graph.Recordable (graph : Graph) : Prop where
  plain : graph.HasPlainData
  writable : ∀ node ∈ graph.nodes, ∀ value ∈ node.properties.freeValues,
    value.toData.isWritable = true

/-- Values without locations that can be written once can be written again. -/
theorem Graph.recordable_of_isWritable {graph : Graph}
    (hwritable : graph.isWritable = true)
    (hvalues : ∀ node ∈ graph.nodes, ∀ value ∈ node.properties.freeValues,
      value.locationKind? = none) : graph.Recordable where
  plain node hnode value hvalue :=
    value.isPlainData_toData (hvalues node hnode value hvalue)
  writable := by
    intro node hnode value hvalue
    have hbounded : value.isWritable = true :=
      List.all_eq_true.mp (List.all_eq_true.mp hwritable node hnode)
        value hvalue
    rwa [Value.isWritable, value.depth_toData (hvalues node hnode value hvalue)]

namespace Graph

variable {graph : Graph}

theorem sameOutline_recorded (graph : Graph) :
    graph.recorded.SameOutline graph where
  id := rfl
  name := rfl
  registry := rfl
  nodes := by
    intro nodeId
    have houtline : Node.outline ∘ Node.recorded = Node.outline := by
      funext node
      rw [Function.comp_apply, Node.outline, Node.outline, Node.kind_recorded]
      rfl
    rw [getNode?_recorded, Option.map_map, houtline]
  connections := rfl

theorem isWritable_recorded (graph : Graph) :
    graph.recorded.isWritable = graph.nodes.all fun node =>
      node.recorded.isWritable := by
  have hnodes : graph.recorded.isWritable =
      graph.canonicalNodes.all fun node => node.recorded.isWritable :=
    List.all_map
  rw [hnodes]
  exact graph.canonicalNodes_perm.all_eq

theorem Recordable.isWritable_recorded (hrecordable : graph.Recordable) :
    graph.recorded.isWritable = true := by
  rw [Graph.isWritable_recorded, List.all_eq_true]
  intro node hmem
  apply List.all_eq_true.mpr
  intro value hvalue
  rw [Node.recorded, Properties.freeValues_recorded] at hvalue
  obtain ⟨free, hfree, rfl⟩ := List.mem_map.mp hvalue
  exact hrecordable.writable node hmem free hfree

end Graph

theorem Context.sameState_recorded (context : Context) :
    context.recorded.SameState context where
  values := context.values.find?_sorted
  flags := context.flags.find?_sorted

/-- A graph is refused when its values are nested too deeply.  Otherwise its
text is read as the same graph and context, and as long as the values can be
written again, what is read has the same signature and the same text. -/
theorem decodeGraph_encodeGraph {settings : Settings} {graph : Graph}
    {context : Context} (hportable : Portable settings graph context) :
    (graph.isWritable = false →
      encodeGraph settings graph context = .error .tooDeep) ∧
      (graph.isWritable = true → ∃ text again resumed,
        Restores settings graph context text again resumed ∧
          (graph.Recordable → again.writtenSignature = graph.writtenSignature ∧
            encodeGraph settings again resumed = .ok text)) := by
  constructor
  · intro hdeep
    rw [encodeGraph, Graph.written, hdeep]
    rfl
  · intro hwritable
    refine ⟨_, graph.recorded, context.recorded,
      ⟨encodeGraph_eq_ok hwritable hportable.values settings,
        decodeGraph_eq_ok hportable.version hportable.registered
          hportable.distinctIds hportable.text,
        graph.sameOutline_recorded, context.sameState_recorded⟩, ?_⟩
    intro hrecordable
    have hagain := hrecordable.isWritable_recorded
    have hvalues :
        ∀ entry ∈ context.recorded.values.entries,
          entry.2.locationKind? = none :=
      fun entry hmem => hportable.values entry (List.mem_mergeSort.mp hmem)
    constructor
    · rw [Graph.writtenSignature, Graph.writtenSignature, Graph.written,
        Graph.written, if_pos hagain, if_pos hwritable,
        Graph.signature_recorded hrecordable.plain]
    · rw [encodeGraph_eq_ok hagain hvalues,
        Graph.graphDocument_recorded hrecordable.plain]

/-- A shop behind a gate whose place is unknown, with two connections to the
same port, one of them from a port that there is not, and one that leads
nowhere. -/
def bazaar : Graph :=
  ⟨"bazaar", "", .standard,
    [⟨"gate", ⟨some .nan, none⟩, .trigger .initial, by decide⟩,
      ⟨"shop", .origin,
        .action ⟨"custom", "", .dict [("a", .tuple [.int 3, .float .nan])]⟩,
        by decide⟩],
    [⟨"b", ⟨"gate", 7, by decide⟩, ⟨"shop", 0, by decide⟩, by decide⟩,
      ⟨"a", ⟨"gate", 0, by decide⟩, ⟨"shop", 0, by decide⟩, by decide⟩,
      ⟨"c", ⟨"shop", 0, by decide⟩, ⟨"cellar", 0, by decide⟩, by decide⟩],
    by decide, by decide⟩

def purse : Context :=
  ⟨⟨[("gold", .float (.infinity false))], by decide⟩,
    ⟨[("open", true)], by decide⟩, .empty⟩

theorem bazaar_portable : Portable .initial bazaar purse where
  version := by decide +kernel
  registered := by decide +kernel
  distinctIds := by decide +kernel
  values := by decide +kernel
  text := by
    rw [graphDocument_of_ordered (by decide +kernel) (by decide +kernel)
      (by decide +kernel)]
    decide +kernel

theorem bazaar_restored : ∃ text again resumed,
    Restores .initial bazaar purse text again resumed ∧
      again.writtenSignature = bazaar.writtenSignature ∧
      encodeGraph .initial again resumed = .ok text := by
  obtain ⟨text, again, resumed, hrestores, hsame⟩ :=
    (decodeGraph_encodeGraph bazaar_portable).2 (by decide +kernel)
  exact ⟨text, again, resumed, hrestores,
    hsame (Graph.recordable_of_isWritable (by decide +kernel)
      (by decide +kernel))⟩

/-! ## Limits -/

theorem Restores.eq_recorded {settings : Settings} {graph : Graph}
    {context : Context} {text : String} {again : Graph} {resumed : Context}
    (hrestores : Restores settings graph context text again resumed)
    (hportable : Portable settings graph context)
    (hwritable : graph.isWritable = true) : again = graph.recorded := by
  have hencoded := encodeGraph_eq_ok hwritable hportable.values settings
  have hdecoded := decodeGraph_eq_ok hportable.version hportable.registered
    hportable.distinctIds hportable.text
  rw [hrestores.encoded, Except.ok.injEq] at hencoded
  rw [← hencoded, hrestores.decoded, Except.ok.injEq, Prod.mk.injEq] at hdecoded
  exact hdecoded.1

/-- A graph of one action. -/
def errand (value : Value) : Graph :=
  ⟨"errand", "", .standard,
    [⟨"a", .origin, .action ⟨"custom", "", value⟩, by decide⟩], [],
    by decide, by simp⟩

theorem errand_portable {value : Value}
    (htext : Json.ReadsBack
      (.dict [("version", .str "1.0"), ("id", .str "errand"), ("name", .str ""),
        ("nodes",
          .list ((errand value).nodes.map fun node =>
            .list [.str node.id, nodeObject (errand value) node])),
              ("connections", .list []), ("variables", .list []),
              ("flags", .list [])])) :
    Portable .initial (errand value) .empty where
  version := by decide +kernel
  registered := by
    intro node hmem
    rw [List.mem_singleton.mp hmem]
    rfl
  distinctIds := List.nodup_nil
  values := by decide
  text := by
    rw [graphDocument_of_ordered (List.pairwise_singleton _ _) .nil .nil]
    exact htext

theorem isWritable_errand (value : Value) :
    (errand value).isWritable = value.isWritable := by
  simp [errand, Graph.isWritable, Node.isWritable, Properties.isWritable,
    Properties.freeValues]

theorem isWritable_recorded_errand (value : Value) :
    (errand value).recorded.isWritable = value.toData.isWritable := by
  simp [Graph.isWritable_recorded, errand, Node.isWritable, Node.recorded,
    Properties.isWritable, Properties.freeValues, Properties.recorded]

/-- The signature stays only as long as the value does. -/
theorem toData_toData_of_signature_errand {value : Value}
    (hsignature : (errand value).recorded.signature =
      (errand value).signature) : value.toData.toData = value.toData := by
  have hnodes : (errand value).canonicalNodes = (errand value).nodes :=
    List.mergeSort_singleton _
  rw [Graph.signature, Graph.signature, Graph.canonicalNodes_recorded,
    hnodes] at hsignature
  simpa [errand, Graph.nodeSignature, Node.recorded, Properties.recorded,
    Properties.dump, Properties.fieldsWith, ActionProperties.fields,
    Graph.canonicalConnections, Graph.recorded, Node.kind, Properties.kind]
      using hsignature

/-- A value in a list in a list, and so on. -/
def boxed : Nat → Value → Value
  | 0, value => value
  | levels + 1, value => .list [boxed levels value]

/-- Not every graph is restored: a value may be nested too deeply for a document
at once, or only once its places have become objects, and a place may hold a
number that is not finite, which does not stay when the place is an object. -/
theorem not_always_restored :
    (¬ ∀ settings graph context, Portable settings graph context →
      ∃ text again resumed,
        Restores settings graph context text again resumed) ∧
    (¬ ∀ settings graph context, Portable settings graph context →
      graph.isWritable = true →
      graph.HasPlainData → ∃ text again resumed,
        Restores settings graph context text again resumed ∧
          again.writtenSignature = graph.writtenSignature) ∧
    ¬ ∀ settings graph context, Portable settings graph context →
      graph.isWritable = true →
      ∃ text again resumed, Restores settings graph context text again resumed ∧
        again.writtenSignature = graph.writtenSignature := by
  refine ⟨?_, ?_, ?_⟩
  · intro hrestored
    have hportable :=
      @errand_portable (boxed 255 (.list [])) (by decide +kernel)
    obtain ⟨text, again, resumed, hrestores⟩ := hrestored _ _ _ hportable
    have hencoded := hrestores.encoded
    rw [encodeGraph, Graph.written, isWritable_errand,
      if_neg (by decide +kernel)] at hencoded
    cases hencoded
  · intro hrestored
    have hportable :=
      @errand_portable (boxed 254 (.position .origin)) (by decide +kernel)
    have hwritable :
        (errand (boxed 254 (.position .origin))).isWritable = true := by
      decide +kernel
    obtain ⟨text, again, resumed, hrestores, hsignature⟩ :=
      hrestored _ _ _ hportable hwritable (by decide +kernel)
    rw [hrestores.eq_recorded hportable hwritable, Graph.writtenSignature,
      Graph.written, isWritable_recorded_errand, if_neg (by decide +kernel),
      Graph.writtenSignature, Graph.written, if_pos hwritable] at hsignature
    cases hsignature
  · intro hrestored
    have hportable :=
      @errand_portable (.position ⟨some (.infinity false), none⟩)
        (by decide +kernel)
    obtain ⟨text, again, resumed, hrestores, hsignature⟩ :=
      hrestored _ _ _ hportable (by decide +kernel)
    rw [hrestores.eq_recorded hportable (by decide +kernel),
      Graph.writtenSignature, Graph.written, isWritable_recorded_errand,
      if_pos (by decide +kernel), Graph.writtenSignature, Graph.written,
      if_pos (by decide +kernel), Except.ok.injEq] at hsignature
    exact absurd (toData_toData_of_signature_errand hsignature)
      (by decide +kernel)

end StoryGraph
