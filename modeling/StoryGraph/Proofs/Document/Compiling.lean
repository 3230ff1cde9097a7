import StoryGraph.Proofs.Document.RoundTrip
import StoryGraph.Proofs.Graph.Rearranged

/-!
# Compiling what has been read

Validation finds the same in a graph and in what is read of its document.  So
both are refused for the same findings, or both are flattened to the same
program, with the free-form values written once more.  Compilation therefore
answers the same exactly when writing these values once more changes nothing.
-/

namespace StoryGraph

namespace Value

mutual

/-- Only plain data stays as it is in documents. -/
theorem isPlainData_of_toData_eq :
    ∀ value : Value, value.toData = value → value.isPlainData = true
  | .null, _ => rfl
  | .bool _, _ => rfl
  | .int _, _ => rfl
  | .float number, hsame => by
    rw [toData] at hsame
    split at hsame
    · next hfinite => exact hfinite
    · cases hsame
  | .str _, _ => rfl
  | .list items, hsame => arePlainData_of_itemsToData_eq items (list.inj hsame)
  | .tuple _, hsame => by cases hsame
  | .dict fields, hsame =>
    havePlainData_of_fieldsToData_eq fields (dict.inj hsame)
  | .position _, hsame => by cases hsame
  | .port _, hsame => by cases hsame

theorem arePlainData_of_itemsToData_eq :
    ∀ items : List Value, itemsToData items = items → arePlainData items = true
  | [], _ => rfl
  | item :: items, hsame => by
    obtain ⟨hitem, hitems⟩ := List.cons.inj hsame
    rw [arePlainData, isPlainData_of_toData_eq item hitem,
      arePlainData_of_itemsToData_eq items hitems, Bool.and_self]

theorem havePlainData_of_fieldsToData_eq :
    ∀ fields : List (String × Value), fieldsToData fields = fields →
      havePlainData fields = true
  | [], _ => rfl
  | (key, value) :: fields, hsame => by
    obtain ⟨hfield, hfields⟩ := List.cons.inj hsame
    have hvalue : value.toData = value := congrArg Prod.snd hfield
    rw [havePlainData, isPlainData_of_toData_eq value hvalue,
      havePlainData_of_fieldsToData_eq fields hfields, Bool.and_self]

end

end Value

/-- A record that is written alike once it has been read holds plain data. -/
theorem Properties.isPlainData_of_dump_recorded {properties : Properties}
    (hdump : properties.recorded.dump = properties.dump) :
    ∀ value ∈ properties.freeValues, value.toData.isPlainData = true := by
  intro value hvalue
  apply value.toData.isPlainData_of_toData_eq
  cases properties with
  | condition properties =>
    rw [List.mem_singleton.mp hvalue]
    simpa [recorded, dump, fieldsWith, ConditionProperties.fields] using hdump
  | action properties =>
    rw [List.mem_singleton.mp hvalue]
    simpa [recorded, dump, fieldsWith, ActionProperties.fields] using hdump
  | _ => cases hvalue

namespace Graph

variable {graph : Graph}

/-! ## Validation -/

theorem sameReview_recorded (graph : Graph) :
    graph.recorded.SameReview graph where
  registry := rfl
  review := by
    have hnode : Node.reviewed ∘ Node.recorded = Node.reviewed := by
      funext node
      rw [Function.comp_apply, Node.reviewed, Node.reviewed, Node.kind_recorded,
        Node.recorded, Properties.unknownAction?_recorded]
    rw [review, canonicalNodes_recorded, List.map_map, hnode, review]
  connections := rfl

/-! ## Compilation -/

/-- What is read lists the same contents, as long as writing them once more does
not change them. -/
theorem HasPlainData.alike_recorded (hplain : graph.HasPlainData) :
    graph.recorded.Alike (fun value => value) graph where
  id := rfl
  name := rfl
  registry := rfl
  nodes := by
    rw [canonicalNodes_recorded, List.map_map]
    apply List.map_congr_left
    intro node hmem
    have hdump : node.properties.recorded.dump = node.properties.dump :=
      Properties.dump_recorded
        (hplain node (graph.canonicalNodes_perm.mem_iff.mp hmem))
    have hcontent : node.recorded.content (fun value => value) =
        (node.id, node.recorded.kind, node.properties.recorded.dump) := rfl
    rw [Function.comp_apply, hcontent, Node.kind_recorded, hdump]
    rfl
  ends := rfl

/-- Graphs in which validation finds the same are refused alike. -/
theorem SameReview.compile_eq_invalid {other : Graph}
    (hsame : other.SameReview graph) {version : String} {singleEntry : Bool}
    {time : Timestamp} {findings : List Finding}
    (hrefused : graph.compile version singleEntry time =
      .error (.invalid findings)) :
    other.compile version singleEntry time = .error (.invalid findings) := by
  have hvalid : graph.ensureValid singleEntry = .error findings := by
    rw [compile] at hrefused
    split at hrefused
    · next hvalid =>
      cases hrefused
      exact hvalid
    · split at hrefused
      · cases hrefused
      · rw [written] at hrefused
        split at hrefused <;> cases hrefused
  rw [compile, hsame.ensureValid, hvalid]

theorem Recordable.compile_recorded (hrecordable : graph.Recordable)
    {version : String} {singleEntry : Bool} {time : Timestamp}
    {compiled : CompiledGraph}
    (hcompile : graph.compile version singleEntry time = .ok compiled) :
    graph.recorded.compile version singleEntry time = .ok compiled := by
  obtain ⟨hsound, htrigger, -, rfl⟩ := compile_eq_ok_iff.mp hcompile
  have halike := hrecordable.plain.alike_recorded
  refine compile_eq_ok_iff.mpr ⟨halike.symm.sound hsound hsound.distinctIds,
    halike.symm.hasTrigger htrigger, hrecordable.isWritable_recorded, ?_⟩
  rw [graph.sameReview_recorded.validate]
  exact (halike.symm.flatten Value.isView_self singleEntry _ _).eq_of_metadata
    rfl

/-- A graph is recordable if what is read of its document compiles to the
same. -/
theorem recordable_of_compile_recorded {version : String} {singleEntry : Bool}
    {time : Timestamp} {compiled : CompiledGraph}
    (hcompile : graph.compile version singleEntry time = .ok compiled)
    (hagain : graph.recorded.compile version singleEntry time = .ok compiled) :
    graph.Recordable where
  plain := by
    intro node hnode
    obtain ⟨_, -, hcompiled⟩ := compile_eq_ok hcompile
    obtain ⟨_, -, hrecompiled⟩ := compile_eq_ok hagain
    have hfound : compiled.nodes.find? node.id =
        some (graph.canonicalForm.compileNode node) := by
      rw [hcompiled, find?_flatten, getNode?_of_mem hnode, Option.map_some]
    have hfoundAgain : compiled.nodes.find? node.id =
        some (graph.recorded.canonicalForm.compileNode node.recorded) := by
      rw [hrecompiled, find?_flatten, getNode?_recorded, getNode?_of_mem hnode,
        Option.map_some, Option.map_some]
    rw [hfound, Option.some.injEq] at hfoundAgain
    have hdata : Table.ofList node.properties.recorded.dump =
        Table.ofList node.properties.dump :=
      (congrArg CompiledNode.data hfoundAgain).symm
    have hdump : node.properties.recorded.dump = node.properties.dump := by
      rw [← Table.entries_ofList node.properties.names_dump_nodup, ← hdata,
        Table.entries_ofList node.properties.recorded.names_dump_nodup]
    exact Properties.isPlainData_of_dump_recorded hdump
  writable := by
    obtain ⟨-, -, hwritable, -⟩ := compile_eq_ok_iff.mp hagain
    rw [isWritable_recorded, List.all_eq_true] at hwritable
    intro node hnode value hvalue
    have hvalues :
        node.properties.recorded.freeValues.all Value.isWritable = true :=
      hwritable node hnode
    rw [Properties.freeValues_recorded] at hvalues
    exact List.all_eq_true.mp hvalues _ (List.mem_map_of_mem hvalue)

/-- How compilation answers for a graph and for another one that should be the
same: with the same findings, or with the same compiled graph as long as writing
the values of the first one again does not change them. -/
def CompilesLike (other graph : Graph) : Prop :=
  ∀ version singleEntry time,
    (∃ findings, graph.compile version singleEntry time =
      .error (.invalid findings) ∧
      other.compile version singleEntry time = .error (.invalid findings)) ∨
    ∃ compiled, graph.compile version singleEntry time = .ok compiled ∧
      (other.compile version singleEntry time = .ok compiled ↔ graph.Recordable)

theorem compilesLike_recorded
    (hdistinct : (graph.connections.map Connection.id).Nodup)
    (hwritable : graph.isWritable = true) :
    graph.recorded.CompilesLike graph := by
  intro version singleEntry time
  by_cases hcompiles : graph.Sound ∧ graph.HasTrigger
  · obtain ⟨compiled, hcompile⟩ : ∃ compiled,
        graph.compile version singleEntry time = .ok compiled :=
      ⟨_, compile_eq_ok_iff.mpr ⟨hcompiles.1, hcompiles.2, hwritable, rfl⟩⟩
    exact .inr ⟨compiled, hcompile, recordable_of_compile_recorded hcompile,
      fun hrecordable => hrecordable.compile_recorded hcompile⟩
  · obtain ⟨findings, hrefused⟩ :=
      compile_eq_invalid hdistinct hcompiles version singleEntry time
    exact .inl ⟨findings, hrefused,
      graph.sameReview_recorded.compile_eq_invalid hrefused⟩

end Graph

/-- Validation finds the same in what is read of a graph's text as in the graph,
and compilation refuses both for the same findings or accepts the graph; then
both compile to the same exactly if the graph is recordable. -/
theorem compile_decodeGraph {settings : Settings} {graph : Graph}
    {context : Context} (hportable : Portable settings graph context) :
    (graph.isWritable = false →
      encodeGraph settings graph context = .error .tooDeep) ∧
      (graph.isWritable = true → ∃ text again resumed,
        encodeGraph settings graph context = .ok text ∧
          decodeGraph settings graph.registry (.text text) =
            .ok (again, resumed) ∧
          (∀ singleEntry, again.validate singleEntry =
            graph.validate singleEntry) ∧
          again.CompilesLike graph) := by
  constructor
  · intro hdeep
    rw [encodeGraph, Graph.written, hdeep]
    rfl
  · intro hwritable
    refine ⟨_, graph.recorded, context.recorded,
      encodeGraph_eq_ok hwritable hportable.values settings,
      decodeGraph_eq_ok hportable.version hportable.registered
        hportable.distinctIds
        hportable.text, ?_,
        Graph.compilesLike_recorded hportable.distinctIds hwritable⟩
    intro singleEntry
    rw [graph.sameReview_recorded.validate]

/-- A door that leads to an action with a value. -/
def delivery (value : Value) : Graph :=
  ⟨"delivery", "", .standard,
    [⟨"door", .origin, .trigger .initial, by decide⟩,
      ⟨"parcel", .origin, .action ⟨"custom", "", value⟩, by decide⟩],
    [⟨"way", ⟨"door", 0, by decide⟩, ⟨"parcel", 0, by decide⟩, by decide⟩],
    by decide, by simp⟩

theorem delivery_portable {value : Value}
    (htext : Json.ReadsBack
      (.dict [("version", .str "1.0"), ("id", .str "delivery"),
        ("name", .str ""),
        ("nodes",
          .list ((delivery value).nodes.map fun node =>
            .list [.str node.id, nodeObject (delivery value) node])),
              ("connections",
                .list ((delivery value).connections.map fun connection =>
                  .dict connection.dump)), ("variables", .list []),
                    ("flags", .list [])])) :
    Portable .initial (delivery value) .empty where
  version := by decide +kernel
  registered := by
    have hkind :
        ∀ node ∈ (delivery value).nodes, node.kind = .trigger ∨
          node.kind = .action := by
      simp [delivery, Node.kind, Properties.kind]
    intro node hmem
    rcases hkind node hmem with hkind | hkind <;>
      rw [hkind] <;> rfl
  distinctIds := by simp [delivery]
  values := by decide
  text := by
    have hordered :
        (delivery value).nodes.Pairwise fun first second =>
          Graph.nodeOrder first second = true := by
      simp [delivery, Graph.nodeOrder]
    rw [graphDocument_of_ordered hordered .nil .nil]
    exact htext

theorem delivery_recompiled : ∃ text again resumed compiled,
    encodeGraph .initial (delivery (.tuple [.int 3, .float .nan])) .empty =
      .ok text ∧
      decodeGraph .initial .standard (.text text) = .ok (again, resumed) ∧
      (delivery (.tuple [.int 3, .float .nan])).compile "1.0" false
        Graph.newYear = .ok compiled ∧
      again.compile "1.0" false Graph.newYear = .ok compiled := by
  have hportable :=
    @delivery_portable (.tuple [.int 3, .float .nan]) (by decide +kernel)
  obtain ⟨text, again, resumed, hencoded, hdecoded, -, hcompiles⟩ :=
    (compile_decodeGraph hportable).2 (by decide +kernel)
  rcases hcompiles "1.0" false Graph.newYear with
    ⟨findings, hrefused, -⟩ | ⟨compiled, hcompile, hiff⟩
  · obtain ⟨compiled, hcompile⟩ : ∃ compiled,
        (delivery (.tuple [.int 3, .float .nan])).compile "1.0" false
          Graph.newYear =
          .ok compiled :=
      ⟨_, Graph.compile_eq_ok_iff.mpr
        ⟨by decide +kernel, by decide +kernel, by decide +kernel, rfl⟩⟩
    rw [hrefused] at hcompile
    cases hcompile
  · exact ⟨text, again, resumed, compiled, hencoded, hdecoded, hcompile,
      hiff.mpr (Graph.recordable_of_isWritable (by decide +kernel)
        (by decide +kernel))⟩

/-- A graph whose value holds a place at a number that is not finite compiles to
something else once it has been written and read. -/
theorem not_always_recompiled :
    ¬ ∀ settings graph context, Portable settings graph context →
    ∃ text again resumed, encodeGraph settings graph context = .ok text ∧
      decodeGraph settings graph.registry (.text text) = .ok (again, resumed) ∧
      ∀ version singleEntry time,
        again.compile version singleEntry time =
          graph.compile version singleEntry time := by
  intro hrecompiled
  have hportable :=
    @delivery_portable (.position ⟨some (.infinity false), none⟩)
      (by decide +kernel)
  obtain ⟨text, again, resumed, hencoded, hdecoded, hcompiles⟩ :=
    hrecompiled _ _ _ hportable
  have hwritable :
      (delivery (.position ⟨some (.infinity false), none⟩)).isWritable =
        true := by
    decide +kernel
  rw [encodeGraph_eq_ok hwritable hportable.values, Except.ok.injEq] at hencoded
  rw [← hencoded,
    decodeGraph_eq_ok hportable.version hportable.registered
      hportable.distinctIds hportable.text, Except.ok.injEq,
      Prod.mk.injEq] at hdecoded
  obtain ⟨compiled, hcompile⟩ : ∃ compiled,
      (delivery (.position ⟨some (.infinity false), none⟩)).compile "1.0" false
        Graph.newYear =
        .ok compiled :=
    ⟨_, Graph.compile_eq_ok_iff.mpr
      ⟨by decide +kernel, by decide +kernel, hwritable, rfl⟩⟩
  have hagain := (hcompiles "1.0" false Graph.newYear).trans hcompile
  rw [← hdecoded.1] at hagain
  exact absurd (Graph.recordable_of_compile_recorded hcompile hagain).plain
    (by decide +kernel)

end StoryGraph
