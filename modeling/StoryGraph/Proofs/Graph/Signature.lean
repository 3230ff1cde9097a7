import StoryGraph.Json.Writer
import StoryGraph.Proofs.Graph.Rearranged

/-!
# Signatures

The signature of a graph leaves out where nodes are and what connections are
called.  It still decides whether the graph compiles, and everything that the
runtime executes.  Signatures are compared as documents: the order of the keys
of objects does not count.
-/

namespace StoryGraph

/-! ## Documents without the order of keys -/

theorem eq_of_perm_of_names {α : Type} {firsts seconds : List (String × α)}
    (hnames : names firsts = names seconds) (hdistinct : (names firsts).Nodup)
    (hperm : firsts.Perm seconds) : firsts = seconds := by
  induction firsts generalizing seconds with
  | nil => exact hperm.nil_eq
  | cons first firsts ih =>
    cases seconds with
    | nil => cases hnames
    | cons second seconds =>
      obtain ⟨hname, hrest⟩ := List.cons.inj hnames
      have hfirst : first = second := by
        rcases List.mem_cons.mp (hperm.mem_iff.mp List.mem_cons_self) with
          heq | hlater
        · exact heq
        · have hrepeated : first.1 ∈ names firsts := by
            have hrest : names firsts = names seconds := hrest
            rw [hrest]
            exact List.mem_map_of_mem hlater
          exact absurd hrepeated (List.nodup_cons.mp hdistinct).1
      subst hfirst
      rw [ih hrest (List.nodup_cons.mp hdistinct).2
        (List.perm_cons first |>.mp hperm)]

namespace Json

theorem sortKeysOfItems_eq_map (items : List Value) :
    sortKeysOfItems items = items.map sortKeys := by
  induction items with
  | nil => rfl
  | cons item items ih => rw [sortKeysOfItems, ih, List.map_cons]

theorem sortKeysOfFields_eq_map (fields : List (String × Value)) :
    sortKeysOfFields fields = fields.map fun field =>
      (field.1, sortKeys field.2) := by
  induction fields with
  | nil => rfl
  | cons field fields ih => rw [sortKeysOfFields, ih, List.map_cons]

theorem isView_sortKeys : Value.IsView sortKeys where
  bool _ := rfl
  int _ := rfl
  float _ := rfl
  str _ := rfl
  list items := by rw [sortKeys, sortKeysOfItems_eq_map]
  fields := by
    intro firsts seconds heq hnames hdistinct
    simp only [sortKeys, Value.dict.injEq, sortKeysOfFields_eq_map] at heq
    have hkeys (fields : List (String × Value)) :
        names (fields.map fun field => (field.1, sortKeys field.2)) =
          names fields := by
      simp [names, Function.comp_def]
    apply eq_of_perm_of_names
    · rw [hkeys, hkeys, hnames]
    · rw [hkeys]
      exact hdistinct
    · have hperm := List.mergeSort_perm
        (firsts.map fun field => (field.1, sortKeys field.2))
        fun first second => first.1 ≤ second.1
      rw [heq] at hperm
      exact hperm.symm.trans (List.mergeSort_perm _ _)

end Json

theorem Kind.word_injective : Function.Injective Kind.word := by
  intro first second heq
  cases first <;> cases second <;> first | rfl | (simp [word] at heq)

namespace Graph

variable {view : Value → Value}

/-! ## What a signature tells -/

theorem content_eq_of_signature (hview : Value.IsView view) {node other : Node}
    (heq : view (nodeSignature node) = view (nodeSignature other)) :
    node.content view = other.content view := by
  have hfields := hview.fields heq rfl (by simp [names])
  simp only [List.map_cons, List.map_nil, hview.str, List.cons.injEq,
    Prod.mk.injEq, true_and, and_true, Value.str.injEq] at hfields
  obtain ⟨hid, hword, hproperties⟩ := hfields
  have hkind : node.kind = other.kind := Kind.word_injective hword
  have hnames : names node.properties.dump = names other.properties.dump := by
    rw [Properties.names_dump, Properties.names_dump]
    exact congrArg (fun kind => (Properties.known kind).map FieldName.key) hkind
  have hdump := hview.fields hproperties hnames node.properties.names_dump_nodup
  rw [hview.map_dump, hview.map_dump] at hdump
  rw [Node.content, Node.content, hid, hkind, hdump]

theorem PortRef.eq_of_parts {ref other : PortRef}
    (hnode : ref.nodeId = other.nodeId)
    (hport : ref.port = other.port) : ref = other := by
  cases ref
  cases other
  cases hnode
  cases hport
  rfl

theorem ends_eq_of_signature (hview : Value.IsView view)
    {connection other : Connection}
    (heq : view (connectionSignature connection) =
      view (connectionSignature other)) : connection.ends = other.ends := by
  simp only [connectionSignature, hview.list, List.map_cons, List.map_nil,
    hview.str, hview.int, Value.list.injEq, List.cons.injEq, Value.str.injEq,
    Value.int.injEq, and_true] at heq
  obtain ⟨hsource, hsourcePort, htarget, htargetPort⟩ := heq
  exact Prod.ext (PortRef.eq_of_parts hsource hsourcePort)
    (PortRef.eq_of_parts htarget htargetPort)

/-- Graphs with the same signature are alike. -/
theorem alike_of_signature (hview : Value.IsView view) {first second : Graph}
    (hregistry : first.registry = second.registry)
    (heq : view first.signature = view second.signature) :
    first.Alike view second := by
  have hfields := hview.fields heq rfl (by simp [names])
  simp only [List.map_cons, List.map_nil, hview.str, hview.list,
    List.cons.injEq, Prod.mk.injEq, true_and, and_true, Value.str.injEq,
    Value.list.injEq, List.map_map] at hfields
  obtain ⟨hid, hname, hnodes, hconnections⟩ := hfields
  exact ⟨hid, hname, hregistry,
    map_eq_of_determined (fun _ _ heq => content_eq_of_signature hview heq)
      hnodes,
    map_eq_of_determined (fun _ _ heq => ends_eq_of_signature hview heq)
      hconnections⟩

/-- Graphs that are alike have the same signature. -/
theorem signature_eq_of_alike {first second : Graph}
    (halike : first.Alike (fun value => value) second) :
    first.signature = second.signature := by
  have hnodes : first.canonicalNodes.map nodeSignature =
      second.canonicalNodes.map nodeSignature := by
    refine map_eq_of_determined (fun node other heq => ?_) halike.nodes
    obtain ⟨hid, hrest⟩ := Prod.mk.inj heq
    obtain ⟨hkind, hdump⟩ := Prod.mk.inj hrest
    have hdump : node.properties.dump = other.properties.dump := hdump
    rw [nodeSignature, nodeSignature, hid, hkind, hdump]
  have hconnections : first.canonicalConnections.map connectionSignature =
      second.canonicalConnections.map connectionSignature := by
    refine map_eq_of_determined (fun connection other heq => ?_) halike.ends
    obtain ⟨hsource, htarget⟩ := Prod.mk.inj heq
    rw [connectionSignature, connectionSignature, hsource, htarget]
  rw [signature, signature, halike.id, halike.name, hnodes, hconnections]

/-! ## Compilation -/

theorem isWritable_of_writtenSignature {graph : Graph} {document : Value}
    (hwritten : graph.writtenSignature = .ok document) :
    graph.isWritable = true ∧ document = graph.signature := by
  rw [writtenSignature, written] at hwritten
  split at hwritten
  · next hwritable => exact ⟨hwritable, (Except.ok.inj hwritten).symm⟩
  · cases hwritten

theorem treadmillMoved_alike :
    treadmill.Alike (fun value => value) treadmillMoved where
  id := rfl
  name := rfl
  registry := rfl
  nodes :=
    map_content_eq (List.reverse_perm (treadmillMoved.nodes.map entryOfNode))
  ends := by
    have hfirst : treadmill.canonicalConnections = treadmill.connections :=
      List.mergeSort_of_pairwise (by decide +kernel)
    have hsecond : treadmillMoved.canonicalConnections =
        treadmillMoved.connections :=
      List.mergeSort_of_pairwise (by decide +kernel)
    rw [hfirst, hsecond]
    rfl

end Graph

end StoryGraph
