import StoryGraph.Proofs.Document.Compiling
import StoryGraph.Proofs.Document.Stored
import StoryGraph.Proofs.Graph.Compiled
import StoryGraph.Proofs.Play.Replayed

/-!
# Playing what has been stored

A compiled graph that is read from its stored text has the same outline.  Its
data are the same exactly if they are plain, so every session on it is the same
as long as the visited nodes hold plain data.  Compiled data are plain but for
numbers that are not finite: the text has null in their place.
-/

namespace StoryGraph

/-! ## The data of compiled graphs -/

namespace Graph

/-- The keys of every object in a free-form value are distinct. -/
def HasDistinctKeys (graph : Graph) : Prop :=
  ∀ node ∈ graph.nodes, ∀ value ∈ node.properties.freeValues,
    value.hasDistinctKeys = true

instance (graph : Graph) : Decidable graph.HasDistinctKeys :=
  inferInstanceAs
    (Decidable (∀ node ∈ graph.nodes, ∀ value ∈ node.properties.freeValues, _))

/-- No free-form value holds a place or a port. -/
def HasNoLocations (graph : Graph) : Prop :=
  ∀ node ∈ graph.nodes, ∀ value ∈ node.properties.freeValues,
    value.locationKind? = none

instance (graph : Graph) : Decidable graph.HasNoLocations :=
  inferInstanceAs
    (Decidable (∀ node ∈ graph.nodes, ∀ value ∈ node.properties.freeValues, _))

section Compiled

variable {graph : Graph} {version : String} {singleEntry : Bool}
  {time : Timestamp}
variable {compiled : CompiledGraph}
variable (hcompile : graph.compile version singleEntry time = .ok compiled)

include hcompile

/-- The data of a compiled graph are what its records write. -/
theorem allData_of_compile {property : Value → Prop}
    (hdump : ∀ node ∈ graph.nodes, ∀ field ∈ node.properties.dump,
      property field.2) : compiled.AllData property := by
  obtain ⟨findings, -, rfl⟩ := compile_eq_ok hcompile
  intro entry hentry field hfield
  rw [entries_flatten] at hentry
  obtain ⟨node, hnode, rfl⟩ := List.mem_map.mp hentry
  rw [compileNode,
    Table.entries_ofList node.properties.names_dump_nodup] at hfield
  exact hdump node (graph.canonicalNodes_perm.mem_iff.mp hnode) field hfield

theorem locationKind?_of_compile :
    compiled.AllData fun value => value.locationKind? = none :=
  allData_of_compile hcompile fun node _ =>
    Value.fieldsLocationKind?_eq_none.mp
      node.properties.fieldsLocationKind?_dump

theorem hasDistinctKeys_of_compile (hkeys : graph.HasDistinctKeys) :
    compiled.AllData fun value => value.hasDistinctKeys = true := by
  refine allData_of_compile hcompile fun node hnode => ?_
  refine Properties.of_mem_dump (fun value => value.hasDistinctKeys = true)
    (fun _ => rfl)
    (fun _ => rfl) (fun _ => rfl) (fun _ => rfl) fun value hvalue => ?_
  exact value.hasDistinctKeys_toData (hkeys node hnode value hvalue)

/-- Only a place or a port in a free-form value can make compiled data too deep
to be stored. -/
theorem isWritable_of_compile (hlocations : graph.HasNoLocations) :
    compiled.isWritable = true := by
  have hdata : compiled.AllData fun value => value.isWritable = true := by
    obtain ⟨-, -, hwritable, -⟩ := compile_eq_ok_iff.mp hcompile
    rw [isWritable, List.all_eq_true] at hwritable
    refine allData_of_compile hcompile fun node hnode => ?_
    refine Properties.of_mem_dump (fun value => value.isWritable = true)
      (fun _ => rfl)
      (fun _ => rfl) (fun _ => rfl) (fun _ => rfl) fun value hvalue => ?_
    rw [Value.isWritable,
      value.depth_toData (hlocations node hnode value hvalue)]
    exact List.all_eq_true.mp (hwritable node hnode) value hvalue
  rw [CompiledGraph.isWritable, List.all_eq_true]
  intro entry hentry
  rw [CompiledNode.isWritable, List.all_eq_true]
  exact hdata entry hentry

end Compiled

end Graph

/-! ## What is read -/

/-- All data of the node are plain. -/
def CompiledNode.HasPlainData (node : CompiledNode) : Prop :=
  ∀ field ∈ node.data.entries, field.2.isPlainData = true

instance (node : CompiledNode) : Decidable node.HasPlainData :=
  inferInstanceAs (Decidable (∀ field ∈ node.data.entries, _))

theorem CompiledNode.stored_eq_self_iff {node : CompiledNode} :
    node.stored = node ↔ node.HasPlainData := by
  have hdata : node.stored = node ↔ node.data.map Value.toData = node.data :=
    ⟨congrArg CompiledNode.data, fun hsame => by rw [stored, hsame]⟩
  rw [hdata, Table.map_eq_self_iff]
  exact forall₂_congr fun field _ =>
    ⟨field.2.isPlainData_of_toData_eq, field.2.toData_of_isPlainData⟩

namespace CompiledGraph

theorem stored_eq_self_iff {compiled : CompiledGraph} :
    compiled.stored = compiled ↔
      compiled.AllData fun value => value.isPlainData = true := by
  have hnodes : compiled.stored = compiled ↔
      compiled.nodes.map CompiledNode.stored = compiled.nodes :=
    ⟨congrArg CompiledGraph.nodes, fun hsame => by rw [stored, hsame]⟩
  rw [hnodes, Table.map_eq_self_iff]
  exact forall₂_congr fun entry _ => CompiledNode.stored_eq_self_iff

theorem find?_stored (compiled : CompiledGraph) (nodeId : String) :
    compiled.stored.nodes.find? nodeId =
      (compiled.nodes.find? nodeId).map CompiledNode.stored :=
  compiled.nodes.find?_map CompiledNode.stored nodeId

/-- Storing keeps everything but the data. -/
theorem sameOutline_stored (compiled : CompiledGraph) :
    compiled.stored.SameOutline compiled where
  id := rfl
  startNode := rfl
  entrypoints := rfl
  version := rfl
  nodes := by
    intro nodeId
    rw [find?_stored]
    cases compiled.nodes.find? nodeId with
    | none => exact .none
    | some node => exact .some ⟨rfl, rfl⟩

end CompiledGraph

/-! ## Sessions -/

/-- The nodes of its graph that the activation has visited hold plain data. -/
def Activation.VisitsPlainData (activation : Activation) : Prop :=
  ∀ nodeId ∈ activation.visited.toList,
    ∀ node ∈ activation.graph.nodes.find? nodeId, node.HasPlainData

instance (activation : Activation) : Decidable activation.VisitsPlainData :=
  inferInstanceAs (Decidable (∀ nodeId ∈ activation.visited.toList,
    ∀ node ∈ activation.graph.nodes.find? nodeId, _))

/-- A node with plain data is read as it was stored. -/
theorem Activation.VisitsPlainData.meetsSame {activation : Activation}
    {compiled : CompiledGraph}
    (hplain : activation.graph = compiled → activation.VisitsPlainData) :
    activation.MeetsSame (compiled.stored.inPlaceOf compiled) := by
  intro nodeId hmem
  rw [CompiledGraph.inPlaceOf]
  split
  · next heq =>
    rw [CompiledGraph.find?_stored, ← heq]
    cases hfound : activation.graph.nodes.find? nodeId with
    | none => rfl
    | some node =>
      rw [Option.map_some,
        CompiledNode.stored_eq_self_iff.mpr
          (hplain heq nodeId hmem node hfound)]
  · rfl

open Stage

/-- A compiled graph is read from its stored text without an error if every
integer in its data has a numeral, and it is the same if and only if its data
are plain.  In any case, a session with what has been read is the same session,
up to the compiled graph that its activations belong to, as long as the visited
nodes hold plain data. -/
theorem session_stored {settings : Settings} {graph : Graph}
    {singleEntry : Bool} {time : Timestamp} {compiled : CompiledGraph}
    (hcompile : graph.compile settings.compiledVersion singleEntry time =
      .ok compiled)
    (hsupported : supportOf settings.compiledVersion
      settings.supportedCompiledVersions = .satisfied)
    (hkeys : graph.HasDistinctKeys) :
    (compiled.isWritable = false →
      compiled.storedText = .error .storedTooDeep) ∧
      (compiled.isWritable = true → ∃ text, compiled.storedText = .ok text ∧
        (¬ compiled.IsSpellable →
          ∃ digits, decodeCompiled settings (.text text) =
          .error (.numeral (.oversized digits))) ∧
        (compiled.IsSpellable → ∃ again,
          decodeCompiled settings (.text text) = .ok again ∧
          (again = compiled ↔
            compiled.AllData fun value => value.isPlainData = true) ∧
          ∀ limit supported context events,
            let played := session events (initial limit supported context)
            (∀ activation ∈ played.1.activations, activation.graph = compiled →
              activation.VisitsPlainData) →
            session (events.map (Event.mapGraph (again.inPlaceOf compiled)))
                (initial limit supported context) =
              (played.1.mapGraph (again.inPlaceOf compiled), played.2))) := by
  constructor
  · intro hdeep
    rw [CompiledGraph.storedText, hdeep]
    rfl
  · intro hwritable
    have hversion : compiled.metadata.version = settings.compiledVersion := by
      obtain ⟨findings, -, rfl⟩ := Graph.compile_eq_ok hcompile
      rfl
    have hlocations := Graph.locationKind?_of_compile hcompile
    have hdistinct := Graph.hasDistinctKeys_of_compile hcompile hkeys
    refine ⟨_, if_pos hwritable,
      CompiledGraph.decodeCompiled_write_of_not_isSpellable hlocations
        hdistinct,
      fun hspellable => ⟨compiled.stored,
        CompiledGraph.decodeCompiled_write hlocations hdistinct hspellable
          (hversion ▸ hsupported),
        CompiledGraph.stored_eq_self_iff, ?_⟩⟩
    intro limit supported context events played hplain
    exact session_mapGraph (compiled.sameOutline_stored.inPlaceOf)
      (initial_orderly limit supported context)
      fun activation hmem =>
        Activation.VisitsPlainData.meetsSame (hplain activation hmem)

/-! ## Numbers that are not finite -/

/-- A porch that leads to a portal to a place infinitely far away, once it is
open. -/
def gateway : Graph :=
  ⟨"gateway", "", .standard,
    [⟨"porch", .origin,
      .trigger { TriggerProperties.initial with condition := "flag:open" },
        by decide⟩,
      ⟨"portal", .origin,
        .teleport ⟨"hall", some (.infinity false), none, none⟩, by decide⟩],
    [⟨"path", ⟨"porch", 0, by decide⟩, ⟨"portal", 0, by decide⟩, by decide⟩],
    by decide, by decide⟩

def gatewayCompiled : CompiledGraph :=
  gateway.flatten false ⟨Graph.newYear, "1.0",
    Graph.warningTexts (gateway.validate false)⟩

theorem gateway_compile :
    gateway.compile "1.0" false Graph.newYear = .ok gatewayCompiled := by
  have hsorted : gateway.canonicalForm = gateway :=
    Graph.canonicalForm_eq_self (by decide +kernel) (by decide +kernel)
  refine Graph.compile_eq_ok_iff.mpr
    ⟨by decide +kernel, by decide +kernel, by decide +kernel, ?_⟩
  rw [hsorted]
  rfl

/-- The activation stops at the closed porch, and so it does with what has been
read. -/
theorem gateway_closed : ∃ text again, gatewayCompiled.storedText = .ok text ∧
    decodeCompiled .initial (.text text) = .ok again ∧ again ≠ gatewayCompiled ∧
    session [.activate again none] (initial 256 ">=1.0" .empty) =
      ((session [.activate gatewayCompiled none]
        (initial 256 ">=1.0" .empty)).1.mapGraph
        (again.inPlaceOf gatewayCompiled), [.returned ["act_1"]]) := by
  have hwritable : gatewayCompiled.isWritable = true :=
    Graph.isWritable_of_compile gateway_compile (by decide +kernel)
  obtain ⟨text, hstored, -, hspellable⟩ :=
    (@session_stored .initial _ _ _ _ gateway_compile (by decide +kernel)
      (by decide +kernel)).2 hwritable
  obtain ⟨again, hread, hsame, hplayed⟩ := hspellable (by decide +kernel)
  refine ⟨text, again, hstored, hread, ?_, ?_⟩
  · rw [Ne, hsame]
    decide +kernel
  · have hplain :
        ∀ activation ∈
          (session [.activate gatewayCompiled none]
            (initial 256 ">=1.0" .empty)).1.activations,
              activation.VisitsPlainData := by
      decide +kernel
    have hclosed := hplayed 256 ">=1.0" .empty [.activate gatewayCompiled none]
      fun activation hmem _ => hplain activation hmem
    have hresponse :
        (session [.activate gatewayCompiled none]
          (initial 256 ">=1.0" .empty)).2 = [.returned ["act_1"]] := by
      decide +kernel
    rw [← hresponse, ← hclosed]
    simp [Event.mapGraph, CompiledGraph.inPlaceOf]

/-- Behind the open porch, the activation calls the host; with what has been
read it does not. -/
theorem not_always_played_as_stored : ¬ ∀ (settings : Settings) (graph : Graph)
    (singleEntry : Bool) (time : Timestamp) (compiled : CompiledGraph),
    graph.compile settings.compiledVersion singleEntry time = .ok compiled →
    supportOf settings.compiledVersion settings.supportedCompiledVersions =
      .satisfied →
    ∃ text again, compiled.storedText = .ok text ∧
      decodeCompiled settings (.text text) = .ok again ∧
      ∀ entry limit context, (session [.activate again entry]
          (initial limit settings.supportedCompiledVersions context)).2 =
        (session [.activate compiled entry]
          (initial limit settings.supportedCompiledVersions context)).2 := by
  intro hplayed
  obtain ⟨text, again, hstored, hread, hsame⟩ :=
    hplayed .initial gateway false Graph.newYear gatewayCompiled gateway_compile
      (by decide +kernel)
  have hwritable : gatewayCompiled.isWritable = true :=
    Graph.isWritable_of_compile gateway_compile (by decide +kernel)
  have hwritten :
      Json.write .stored (gatewayCompiled.documentWith true) = text := by
    rw [CompiledGraph.storedText, if_pos hwritable] at hstored
    exact Except.ok.inj hstored
  have hreadStored := @CompiledGraph.decodeCompiled_write gatewayCompiled
    (Graph.locationKind?_of_compile gateway_compile)
    (Graph.hasDistinctKeys_of_compile gateway_compile (by decide +kernel))
      .initial
    (by decide +kernel) (by decide +kernel)
  rw [hwritten, hread, Except.ok.injEq] at hreadStored
  have hcalled := hsame none 256 (Context.empty.setFlag "open" true)
  rw [hreadStored] at hcalled
  exact absurd hcalled (by decide +kernel)

end StoryGraph
