import StoryGraph.Proofs.Graph.Rearranged
import StoryGraph.Proofs.Play.Called
import StoryGraph.Proofs.Play.Loopless

/-!
# Runs of whole graphs

A compiled graph is whole when its nodes hold data of their kinds and its
entrypoints and ports lead to nodes.  An activation of a whole graph never fails
for the structure of the graph, and a node whose action the runtime does not
know aborts it at once.  Compilation answers whole graphs only, and it warns of
exactly these nodes.
-/

namespace StoryGraph

/-! ## Whole graphs -/

/-- The action type of a node that the runtime does not know. -/
def CompiledNode.unknownAction? (node : CompiledNode) : Option String :=
  match node.properties with
  | .accepted properties => properties.unknownAction?
  | .rejected _ => none

namespace CompiledGraph

def unknownAction? (graph : CompiledGraph) (nodeId : String) : Option String :=
  (graph.nodes.find? nodeId).bind CompiledNode.unknownAction?

structure Whole (graph : CompiledGraph) : Prop where
  data : ∀ {nodeId node}, graph.nodes.find? nodeId = some node →
    ∃ properties, node.properties = .accepted properties
  targets : ∀ {nodeId next}, graph.Leads nodeId next →
    (graph.nodes.find? next).isSome
  entries : ∀ {nodeId}, (graph.entrypoint? nodeId).isSome →
    (graph.nodes.find? nodeId).isSome

/-- The failure is none of the structure, and the runtime does not know the
action of the node if it says so. -/
structure Allows (graph : CompiledGraph) (diagnostic : Diagnostic) : Prop where
  structural : diagnostic.code ∉
    ["MISSING_TARGET_NODE", "INVALID_NODE_DATA", "UNKNOWN_NODE_TYPE"]
  unknown : diagnostic.code = "UNKNOWN_ACTION_TYPE" →
    (graph.unknownAction? diagnostic.nodeId).isSome

theorem allows_of_code {graph : CompiledGraph} {nodeId : String}
    {failure : Failure}
    (hcode : failure.code ∉ ["MISSING_TARGET_NODE", "INVALID_NODE_DATA",
      "UNKNOWN_NODE_TYPE", "UNKNOWN_ACTION_TYPE"]) :
    graph.Allows ⟨nodeId, failure⟩ where
  structural hmem := hcode (List.mem_append_left ["UNKNOWN_ACTION_TYPE"] hmem)
  unknown heq := by
    have heq : failure.code = "UNKNOWN_ACTION_TYPE" := heq
    simp [heq] at hcode

end CompiledGraph

/-! ## Activations of whole graphs -/

namespace Activation

/-- The activation stands at a node of its graph, if it has visited one, and no
visited node has an action that the runtime does not know. -/
structure Clear (activation : Activation) : Prop where
  stands : ∀ nodeId, activation.cursor = some nodeId →
    (activation.graph.nodes.find? nodeId).isSome
  known : ∀ nodeId ∈ activation.visited.toList,
    activation.graph.unknownAction? nodeId = none

/-- The action of a node that the runtime does not know has aborted the
activation as soon as it had visited that node. -/
def BlockedAt (activation : Activation) (nodeId : String) : Prop :=
  ∃ word, activation.graph.unknownAction? nodeId = some word ∧
    activation.state = .aborted ⟨nodeId, .unknownAction word⟩ ∧
      activation.cursor = some nodeId

/-- The activation has not failed for the structure of its graph, and an action
that the runtime does not know has aborted it as soon as it was visited. -/
structure Sure (activation : Activation) : Prop where
  stands : ∀ nodeId, activation.cursor = some nodeId →
    (activation.graph.nodes.find? nodeId).isSome
  begun : activation.state = .suspended → activation.cursor.isSome
  aborted : ∀ diagnostic, activation.state = .aborted diagnostic →
    activation.graph.Allows diagnostic
  blocked : ∀ nodeId ∈ activation.visited.toList,
    activation.graph.unknownAction? nodeId = none ∨ activation.BlockedAt nodeId

/-- The state is not suspended, and it is aborted only with an allowed
diagnostic. -/
def Decent (graph : CompiledGraph) (state : ActivationState) : Prop :=
  state ≠ .suspended ∧ ∀ diagnostic, state = .aborted diagnostic →
    graph.Allows diagnostic

theorem decent_of_diagnostic? {graph : CompiledGraph} {state : ActivationState}
    (hstate : state ≠ .suspended)
    (hnone : state.diagnostic? = none) : Decent graph state := by
  refine ⟨hstate, ?_⟩
  rintro diagnostic rfl
  cases hnone

theorem decent_of_code {graph : CompiledGraph} {nodeId : String}
    {failure : Failure}
    (hcode : failure.code ∉ ["MISSING_TARGET_NODE", "INVALID_NODE_DATA",
      "UNKNOWN_NODE_TYPE", "UNKNOWN_ACTION_TYPE"]) :
    Decent graph (.aborted ⟨nodeId, failure⟩) := by
  refine ⟨by simp, ?_⟩
  intro diagnostic hstate
  cases hstate
  exact CompiledGraph.allows_of_code hcode

theorem mem_visited_enter {activation : Activation} {nodeId other : String} :
    other ∈ (activation.enter nodeId).visited.toList ↔
      other ∈ activation.visited.toList ∨ other = nodeId := by
  simp [enter]

namespace Clear

variable {activation : Activation}

theorem withState (hclear : activation.Clear) (state : ActivationState) :
    (activation.withState state).Clear := ⟨hclear.stands, hclear.known⟩

theorem sure (hclear : activation.Clear)
    (hdecent : Decent activation.graph activation.state) : activation.Sure where
  stands := hclear.stands
  begun hsuspended := absurd hsuspended hdecent.1
  aborted := hdecent.2
  blocked nodeId hmem := .inl (hclear.known nodeId hmem)

theorem suspend (hclear : activation.Clear)
    (hcursor : activation.cursor.isSome) :
    (activation.withState .suspended).Sure where
  stands := hclear.stands
  begun _ := hcursor
  aborted diagnostic hstate := by cases hstate
  blocked nodeId hmem := .inl (hclear.known nodeId hmem)

theorem enter (hclear : activation.Clear) {nodeId : String}
    {node : CompiledNode}
    (hnode : activation.graph.nodes.find? nodeId = some node)
    (hknown : node.unknownAction? = none) :
    (activation.enter nodeId).Clear where
  stands := by
    intro other hcursor
    cases hcursor
    exact Option.isSome_iff_exists.mpr ⟨node, hnode⟩
  known := by
    intro other hmem
    rcases mem_visited_enter.mp hmem with hold | rfl
    · exact hclear.known other hold
    · rw [CompiledGraph.unknownAction?, Activation.enter, hnode]
      exact hknown

/-- The visit of an action that the runtime does not know. -/
theorem enter_unknown (hclear : activation.Clear) {nodeId word : String}
    {node : CompiledNode}
    (hnode : activation.graph.nodes.find? nodeId = some node)
    (hunknown : node.unknownAction? = some word) :
    ((activation.enter nodeId).withState
      (.aborted ⟨nodeId, .unknownAction word⟩)).Sure := by
  have hgraph : activation.graph.unknownAction? nodeId = some word := by
    rw [CompiledGraph.unknownAction?, hnode]
    exact hunknown
  constructor
  case stands =>
    intro other hcursor
    cases hcursor
    exact Option.isSome_iff_exists.mpr ⟨node, hnode⟩
  case begun =>
    intro hsuspended
    cases hsuspended
  case aborted =>
    intro diagnostic hstate
    cases hstate
    exact ⟨by simp [Diagnostic.code, Failure.code],
      fun _ => Option.isSome_iff_exists.mpr ⟨word, hgraph⟩⟩
  case blocked =>
    intro other hmem
    rcases mem_visited_enter.mp hmem with hold | rfl
    · exact .inl (hclear.known other hold)
    · exact .inr ⟨word, hgraph, rfl, rfl⟩

end Clear

theorem clear_start (id : String) (graph : CompiledGraph) (entry : String) :
    (start id graph entry).Clear where
  stands := by simp [start]
  known := by simp [start]

/-- What has not aborted has met no action that the runtime does not know. -/
theorem Sure.clear {activation : Activation} (hsure : activation.Sure)
    (hnone : activation.state.diagnostic? = none) : activation.Clear where
  stands := hsure.stands
  known := by
    intro nodeId hmem
    refine (hsure.blocked nodeId hmem).resolve_right ?_
    rintro ⟨word, -, hstate, -⟩
    rw [hstate] at hnone
    cases hnone

end Activation

/-! ## Turns of activations of whole graphs -/

namespace CompiledNode

theorem unknownAction?_of_visit_ok {node : CompiledNode} {context : Context}
    {result : Move × Context} (hvisit : node.visit context = .ok result) :
    node.unknownAction? = none := by
  rw [visit] at hvisit
  rw [unknownAction?]
  cases hproperties : node.properties with
  | accepted properties =>
    rw [hproperties] at hvisit
    exact Properties.unknownAction?_of_visit_ok hvisit
  | rejected issues => rfl

/-- A node with data of its kind fails because the runtime does not know its
action, or for another reason that is none of the structure. -/
theorem visit_error {node : CompiledNode} {context : Context}
    {failure : Failure}
    (hdata : ∃ properties, node.properties = .accepted properties)
    (hvisit : node.visit context = .error failure) :
    (∃ word, node.unknownAction? = some word ∧ failure = .unknownAction word) ∨
      node.unknownAction? = none ∧
        failure.code ∉ ["MISSING_TARGET_NODE", "INVALID_NODE_DATA",
          "UNKNOWN_NODE_TYPE", "UNKNOWN_ACTION_TYPE"] := by
  obtain ⟨properties, hproperties⟩ := hdata
  rw [visit, hproperties] at hvisit
  rw [unknownAction?, hproperties]
  rcases Properties.visit_error hvisit with hunknown | ⟨hknown, hcode⟩
  · exact .inl hunknown
  · refine .inr ⟨hknown, fun hmem => ?_⟩
    simp only [List.mem_cons, List.not_mem_nil, or_false] at hcode hmem
    rcases hcode with heq | heq | heq <;> simp [heq] at hmem

end CompiledNode

namespace Turn

open Activation

section Whole

variable {limit : Nat} {turn later : Turn} {call? : Option Call}
variable (hwhole : turn.activation.graph.Whole)

include hwhole

/-- Each visit keeps a running activation clear, ends it decently, or aborts it
for an action that the runtime does not know. -/
theorem Walks.sure {nodeId : String}
    (hwalks : Walks limit turn nodeId later call?)
    (hclear : turn.activation.Clear)
    (hfound : (turn.activation.graph.nodes.find? nodeId).isSome) :
    later.activation.Sure := by
  induction hwalks with
  | missing hnode =>
    rw [hnode] at hfound
    cases hfound
  | exhausted =>
    exact (hclear.withState _).sure (decent_of_code (by simp [Failure.code]))
  | ended hnode _ hvisited =>
    cases hvisited with
    | failed hfailed =>
      rcases CompiledNode.visit_error (hwhole.data hnode) hfailed with
        ⟨word, hunknown, rfl⟩ | ⟨hknown, hcode⟩
      · exact hclear.enter_unknown hnode hunknown
      · exact ((hclear.enter hnode hknown).withState _).sure
          (decent_of_code hcode)
    | stopped hvisit =>
      have henter :=
        hclear.enter hnode (CompiledNode.unknownAction?_of_visit_ok hvisit)
      exact (henter.withState _).sure
        (decent_of_diagnostic? (by simp [withState]) rfl)
    | closed hvisit =>
      have henter :=
        hclear.enter hnode (CompiledNode.unknownAction?_of_visit_ok hvisit)
      exact (henter.withState _).sure
        (decent_of_diagnostic? (by simp [withState]) rfl)
  | called hnode _ hrunning hvisited =>
    cases hvisited with
    | called hvisit =>
      have henter :=
        hclear.enter hnode (CompiledNode.unknownAction?_of_visit_ok hvisit)
      refine henter.sure (decent_of_diagnostic? ?_ (congrArg _ hrunning))
      intro hsuspended
      cases hrunning.symm.trans hsuspended
  | followed hnode _ hvisited _ ih =>
    cases hvisited with
    | followed hvisit hnext =>
      have henter :=
        hclear.enter hnode (CompiledNode.unknownAction?_of_visit_ok hvisit)
      exact ih hwhole henter (hwhole.targets ⟨_, _, hnode, hnext⟩)

omit hwhole in
/-- An activation that looks for the node where it stands finds it. -/
theorem Notices.current (hsure : turn.activation.Sure) {prompt : Prompt}
    (hnotices : turn.Notices prompt)
    (hdue : turn.IsDue prompt) : turn.current? ≠ none := by
  have hstands : ∃ nodeId node, turn.activation.StandsAt nodeId node := by
    cases hnotices with
    | resume hsuspended =>
      obtain ⟨nodeId, hcursor⟩ :=
        Option.isSome_iff_exists.mp (hsure.begun hsuspended)
      obtain ⟨node, hnode⟩ :=
        Option.isSome_iff_exists.mp (hsure.stands nodeId hcursor)
      exact ⟨nodeId, node, hcursor, hnode⟩
    | answer => exact hdue.2
  obtain ⟨nodeId, node, hstands⟩ := hstands
  rw [current?_eq_some.mpr hstands]
  simp

omit hwhole in
/-- What is told to an activation that has not aborted finds it clear. -/
theorem Notices.clear (hsure : turn.activation.Sure) {prompt : Prompt}
    (hnotices : turn.Notices prompt)
    (hdue : turn.IsDue prompt) : turn.activation.Clear := by
  apply hsure.clear
  cases hnotices with
  | resume hsuspended => rw [hsuspended]; rfl
  | answer => rcases hdue.1 with hstate | hstate <;> rw [hstate] <;> rfl

theorem Responds.sure {prompt : Prompt}
    (hresponds : Responds limit turn prompt later call?)
    (hdue : turn.IsDue prompt)
    (hsure : turn.activation.Sure) : later.activation.Sure := by
  have hclear (hlive : turn.activation.isLive = true) :
      turn.activation.Clear := by
        apply hsure.clear
        cases hstate : turn.activation.state <;>
          simp_all [isLive, ActivationState.isLive, ActivationState.diagnostic?]
  have hends (hlive : turn.activation.isLive = true) {state : ActivationState}
      (hstate : state ≠ .suspended) (hnone : state.diagnostic? = none) :
      (turn.activation.withState state).Sure :=
    ((hclear hlive).withState state).sure (decent_of_diagnostic? hstate hnone)
  cases hresponds with
  | ignored => exact hsure
  | lost hnotices hlost => exact absurd hlost (hnotices.current hsure hdue)
  | unreadable hnotices =>
    exact ((hnotices.clear hsure hdue).withState _).sure
      (decent_of_code (by simp [Failure.code]))
  | closed hacts => exact hends hacts.isLive (by simp) rfl
  | continued hacts _ hstands _ hnext hwalks =>
    exact @Walks.sure _ ⟨_, turn.activation.withState .running⟩
      _ _ hwhole _ hwalks
      ((hclear hacts.isLive).withState _)
        (hwhole.targets ⟨_, _, hstands.2, hnext⟩)
  | suspended hlive hstands =>
    exact (hclear hlive).suspend (Option.isSome_iff_exists.mpr ⟨_, hstands.1⟩)
  | failed hlive =>
    exact ((hclear hlive).withState _).sure
      (decent_of_code (by simp [Failure.code]))
  | interrupted hlive => exact hends hlive (by simp) rfl
  | cancelled hlive => exact hends hlive (by simp) rfl

end Whole

end Turn

namespace Stage

open Activation

theorem sure_keptByTurns (limit : Nat) :
    KeptByTurns limit fun activation => activation.graph.Whole →
      activation.Sure where
  begins := by
    intro graph entry id nodeId context later call? hentry hwalks hwhole
    rw [hwalks.grows.graph] at hwhole
    exact hwalks.sure hwhole ((clear_start id graph nodeId).withState .running)
      (hwhole.entries (entrypoint_of_entryOf hentry))
  responds := by
    intro turn later prompt call? hdue hresponds hsure hwhole
    rw [hresponds.grows.graph] at hwhole
    exact hresponds.sure hwhole hdue (hsure hwhole)

theorem Reachable.sure {stage : Stage} (hreachable : stage.Reachable)
    {activation : Activation} (hmem : activation ∈ stage.activations)
    (hwhole : activation.graph.Whole) : activation.Sure :=
  hreachable.forall_activations (sure_keptByTurns stage.limit)
    activation hmem hwhole

end Stage

/-! ## Warnings about actions -/

/-- The warning about the action of a node that the runtime does not know. -/
def unknownActionText (nodeId : String) : String :=
  "UNKNOWN_ACTION_TYPE:nodes." ++ nodeId ++ ".properties.actionType"

/-- Nothing else is warned about in the same words. -/
theorem Finding.eq_unknownActionType {finding : Finding} {nodeId : String}
    (htext : finding.warningText = unknownActionText nodeId) :
    ∃ word, finding = .unknownActionType nodeId word := by
  unfold unknownActionText at htext
  cases finding with
  | unknownActionType other word =>
    have hsame :
        "UNKNOWN_ACTION_TYPE:nodes." ++ other ++ ".properties.actionType" =
          "UNKNOWN_ACTION_TYPE:nodes." ++ nodeId ++
            ".properties.actionType" := by
      simpa [warningText, code, path, ← String.append_assoc] using htext
    rw [String.append_left_inj, String.append_right_inj] at hsame
    exact ⟨word, by rw [hsame]⟩
  | _ =>
    have hletters := congrArg String.toList htext
    simp [warningText, code, path, String.toList_append] at hletters

namespace Graph

theorem mem_actionFindings_iff {graph : Graph} {nodeId word : String} :
    .unknownActionType nodeId word ∈ graph.actionFindings ↔
      graph.unknownAction? nodeId = some word := by
  rw [actionFindings, List.mem_filterMap]
  constructor
  · rintro ⟨other, -, hfinding⟩
    obtain ⟨_, hunknown, heq⟩ := Option.map_eq_some_iff.mp hfinding
    cases heq
    exact hunknown
  · intro hunknown
    refine ⟨nodeId, ?_, by rw [hunknown]; rfl⟩
    rw [sortedIds, List.mem_mergeSort]
    cases hnode : graph.getNode? nodeId with
    | none =>
      rw [unknownAction?, hnode] at hunknown
      cases hunknown
    | some node =>
      rw [← id_of_getNode? hnode]
      exact List.mem_map_of_mem (mem_of_getNode? hnode)

/-- Validation finds exactly the actions that the runtime does not know. -/
theorem mem_validate_iff {graph : Graph} (hsound : graph.Sound)
    {singleEntry : Bool} {nodeId word : String} :
    .unknownActionType nodeId word ∈ graph.validate singleEntry ↔
      graph.unknownAction? nodeId = some word := by
  have hreach : .unknownActionType nodeId word ∉ graph.reachFindings := by
    simp [reachFindings]
  rw [hsound.mem_validate_iff_of_node (by simp) (by simp) (by simp),
    ← mem_actionFindings_iff, or_iff_right hreach]

section Compiled

variable {graph : Graph} {version : String} {singleEntry : Bool}
  {time : Timestamp} {compiled : CompiledGraph}

theorem whole_of_compile
    (hcompile : graph.compile version singleEntry time = .ok compiled) :
    compiled.Whole where
  data := by
    intro nodeId node hnode
    obtain ⟨findings, -, rfl⟩ := compile_eq_ok hcompile
    rw [find?_flatten] at hnode
    obtain ⟨original, -, rfl⟩ := Option.map_eq_some_iff.mp hnode
    exact ⟨_, properties_compileNode_eq_recorded _ original⟩
  targets := by
    intro nodeId next hleads
    obtain ⟨connection, hmem, -, rfl⟩ :=
      exists_connection_of_leads hcompile hleads
    obtain ⟨hsound, -, -, rfl⟩ := compile_eq_ok_iff.mp hcompile
    obtain ⟨target, htarget, -⟩ := hsound.ends connection hmem .input
    have htarget : graph.getNode? connection.target.nodeId = some target :=
      htarget
    rw [find?_flatten, htarget]
    rfl
  entries := by
    intro nodeId hentry
    obtain ⟨entry, hfound⟩ := Option.isSome_iff_exists.mp hentry
    have hid : entry.nodeId = nodeId := by simpa using List.find?_some hfound
    have hmem : entry ∈ compiled.entrypoints := List.mem_of_find?_eq_some hfound
    obtain ⟨findings, -, rfl⟩ := compile_eq_ok hcompile
    obtain ⟨trigger, htrigger, htriggerId, -⟩ := mem_entrypointsOf hmem
    rw [← hid, ← htriggerId, find?_flatten,
      getNode?_of_mem (graph.canonicalNodes_perm.mem_iff.mp htrigger)]
    rfl

theorem unknownAction?_of_compile
    (hcompile : graph.compile version singleEntry time = .ok compiled)
    (nodeId : String) :
    compiled.unknownAction? nodeId = graph.unknownAction? nodeId := by
  obtain ⟨findings, -, rfl⟩ := compile_eq_ok hcompile
  rw [CompiledGraph.unknownAction?, find?_flatten, unknownAction?_eq_bind,
    ← map_reviewed_getNode?]
  cases graph.getNode? nodeId with
  | none => rfl
  | some node =>
    have hunknown : (graph.canonicalForm.compileNode node).unknownAction? =
        node.properties.unknownAction? := by
      rw [CompiledNode.unknownAction?, properties_compileNode_eq_recorded]
      exact node.properties.unknownAction?_recorded
    exact hunknown

/-- A compiled graph warns of exactly the nodes whose action the runtime does
not know. -/
theorem mem_warnings_iff
    (hcompile : graph.compile version singleEntry time = .ok compiled)
    (nodeId : String) :
    unknownActionText nodeId ∈ compiled.metadata.warnings ↔
      (compiled.unknownAction? nodeId).isSome := by
  rw [unknownAction?_of_compile hcompile]
  obtain ⟨hsound, -, -, rfl⟩ := compile_eq_ok_iff.mp hcompile
  have hwarnings :
      unknownActionText nodeId ∈ warningTexts (graph.validate singleEntry) ↔
        ∃ finding ∈ graph.validate singleEntry,
          finding.warningText = unknownActionText nodeId := by
    rw [warningTexts, List.mem_mergeSort, List.mem_map]
  refine hwarnings.trans ?_
  constructor
  · rintro ⟨finding, hmem, htext⟩
    obtain ⟨word, rfl⟩ := Finding.eq_unknownActionType htext
    exact Option.isSome_iff_exists.mpr ⟨word, (mem_validate_iff hsound).mp hmem⟩
  · intro hunknown
    obtain ⟨word, hword⟩ := Option.isSome_iff_exists.mp hunknown
    refine ⟨.unknownActionType nodeId word, (mem_validate_iff hsound).mpr hword,
      ?_⟩
    unfold unknownActionText
    simp [Finding.warningText, Finding.code, Finding.path,
      ← String.append_assoc]

/-- No activation of a compiled graph aborts for the structure of the graph.
One that visits a node which compilation has warned of aborts there, and no call
leaves an activation that has visited such a node; an activation that aborts for
an unknown action has been warned of. -/
theorem runs_as_warned
    (hcompile : graph.compile version singleEntry time = .ok compiled)
    {stage : Stage} (hreachable : stage.Reachable) :
    (∀ activation ∈ stage.activations, activation.graph = compiled →
      (∀ diagnostic, activation.state = .aborted diagnostic →
        diagnostic.code ∉ ["MISSING_TARGET_NODE", "INVALID_NODE_DATA",
          "UNKNOWN_NODE_TYPE"] ∧
          (diagnostic.code = "UNKNOWN_ACTION_TYPE" →
            unknownActionText diagnostic.nodeId ∈ compiled.metadata.warnings)) ∧
      ∀ nodeId ∈ activation.visited.toList,
        unknownActionText nodeId ∈ compiled.metadata.warnings →
          activation.cursor = some nodeId ∧ ∃ diagnostic,
            activation.state = .aborted diagnostic ∧
              diagnostic.nodeId = nodeId ∧
              diagnostic.code = "UNKNOWN_ACTION_TYPE") ∧
    ∀ event id call, (stage.step event).2 = .called id call → ∃ activation,
      (stage.step event).1.started? id = some activation ∧
        (activation.graph = compiled →
        ∀ nodeId ∈ activation.visited.toList,
          unknownActionText nodeId ∉ compiled.metadata.warnings) := by
  have hwhole := whole_of_compile hcompile
  have hwarned := mem_warnings_iff hcompile
  constructor
  · rintro activation hmem rfl
    have hsure := hreachable.sure hmem hwhole
    constructor
    · intro diagnostic hstate
      obtain ⟨hstructural, hunknown⟩ := hsure.aborted diagnostic hstate
      exact ⟨hstructural, fun hcode => (hwarned _).mpr (hunknown hcode)⟩
    · intro nodeId hvisited hwarning
      rcases hsure.blocked nodeId hvisited with
        hknown | ⟨word, -, hstate, hcursor⟩
      · have hunknown := (hwarned nodeId).mp hwarning
        rw [hknown] at hunknown
        cases hunknown
      · exact ⟨hcursor, _, hstate, rfl, rfl⟩
  · intro event id call hresponse
    obtain ⟨activation, hstarted, hcalled⟩ :=
      hreachable.orderly.step_backs event id call hresponse
    refine ⟨activation, hstarted, ?_⟩
    rintro rfl nodeId hvisited hwarning
    have hsure :=
      (hreachable.step event).sure (List.mem_of_find?_eq_some hstarted) hwhole
    have hclear := hsure.clear (by rw [hcalled.running]; rfl)
    have hunknown := (hwarned nodeId).mp hwarning
    rw [hclear.known nodeId hvisited] at hunknown
    cases hunknown

end Compiled

/-- A trigger that leads to an action of a type that there is not. -/
def dance : Graph :=
  ⟨"dance", "", .standard,
    [⟨"ballroom", .origin, .trigger .initial, by decide⟩,
      ⟨"waltz", .origin, .action ⟨"dance", "", .null⟩, by decide⟩],
    [⟨"floor", ⟨"ballroom", 0, by decide⟩, ⟨"waltz", 0, by decide⟩, by decide⟩],
    by decide, by decide⟩

def danceCompiled : CompiledGraph :=
  dance.flatten false ⟨newYear, "1.0", warningTexts (dance.validate false)⟩

theorem dance_compile :
    dance.compile "1.0" false newYear = .ok danceCompiled := by
  have hsorted : dance.canonicalForm = dance :=
    canonicalForm_eq_self (by decide +kernel) (by decide +kernel)
  refine compile_eq_ok_iff.mpr
    ⟨by decide +kernel, by decide +kernel, by decide +kernel, ?_⟩
  rw [hsorted]
  rfl

/-- The activation of `danceCompiled`. -/
def dancer : Activation :=
  (Stage.opening 256 .empty danceCompiled "ballroom").1.activation

/-- The activation of `danceCompiled` on a stage of its own. -/
theorem dancer_reached :
    ∃ stage : Stage, stage.Reachable ∧ stage.activations = [dancer] := by
  have hversion :
      (Stage.initial 256 ">=1.0" .empty).checkVersion danceCompiled =
        .ok () := by
    decide +kernel
  have hentry : Stage.entryOf danceCompiled none = .ok "ballroom" := by
    decide +kernel
  refine ⟨_, ⟨256, ">=1.0", .empty, [.activate danceCompiled none], rfl⟩, ?_⟩
  simp only [Stage.session_cons, Stage.session_nil, Stage.step,
    Stage.activate_initial hversion hentry]
  rfl

theorem dancer_aborts :
    "waltz" ∈ dancer.visited.toList ∧ dancer.cursor = some "waltz" ∧
    ∃ diagnostic, dancer.state = .aborted diagnostic ∧
      diagnostic.nodeId = "waltz" ∧
      diagnostic.code = "UNKNOWN_ACTION_TYPE" := by
  obtain ⟨stage, hreachable, honly⟩ := dancer_reached
  have hmem : dancer ∈ stage.activations := by
    rw [honly]
    exact List.mem_singleton_self _
  have hgraph : dancer.graph = danceCompiled :=
    (Turn.continues_continueAt 256 "ballroom" ⟨_, _⟩).graph
  have hvisited : "waltz" ∈ dancer.visited.toList := by decide +kernel
  have hwarning :=
    (mem_warnings_iff dance_compile "waltz").mpr (by decide +kernel)
  exact ⟨hvisited,
    ((runs_as_warned dance_compile hreachable).1 dancer hmem hgraph).2 "waltz"
      hvisited hwarning⟩

end Graph

end StoryGraph
