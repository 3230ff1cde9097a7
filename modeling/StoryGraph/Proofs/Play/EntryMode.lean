import Mathlib.Data.List.Sort
import StoryGraph.Proofs.Graph.Editing
import StoryGraph.Proofs.Graph.Faults
import StoryGraph.Proofs.Play.Loopless
import StoryGraph.Proofs.Play.Replayed

/-!
# Entry modes

In single-entry mode a graph is refused for the same findings.  What it is
compiled to differs in two places: only the first entrypoint is kept, and if
there are further triggers, a warning says so.  Sessions cannot tell the modes
apart as long as they start activations at the first entrypoint only.
-/

namespace StoryGraph

/-! ## What the first entrypoint is enough for -/

namespace CompiledGraph

/-- The compiled graph with nothing but its first entrypoint, and with these
warnings. -/
def withFirstEntry (compiled : CompiledGraph)
    (warnings : List String) : CompiledGraph :=
  { compiled with
    entrypoints := compiled.entrypoints.take 1
    metadata := { compiled.metadata with warnings := warnings } }

theorem sameCourse_withFirstEntry (compiled : CompiledGraph)
    (warnings : List String) :
    (compiled.withFirstEntry warnings).SameCourse compiled where
  version := rfl
  nodes := (SameOutline.refl compiled).nodes

/-- Activations start at the first entrypoint if no other one is named, and
there is no other one at its node. -/
structure StartsAt (compiled : CompiledGraph) (start : String) : Prop where
  startNode : compiled.startNode = some start
  entrypoints : ∃ first rest, compiled.entrypoints = first :: rest ∧
    first.nodeId = start ∧
    ∀ entry ∈ rest, entry.nodeId ≠ start

end CompiledGraph

/-- The nodes where the event starts activations of the compiled graph. -/
def Event.entered (compiled : CompiledGraph) : Event → List String
  | .activate graph entry =>
    if graph = compiled then (Stage.entryOf compiled entry).toOption.toList
    else []
  | .fire graph triggerType =>
    if graph = compiled then
      (compiled.entrypointsFor triggerType).map Entrypoint.nodeId else []
  | _ => []

namespace CompiledGraph.StartsAt

open Stage

variable {compiled : CompiledGraph} {start : String}
  (hstarts : compiled.StartsAt start)
variable (warnings : List String)

include hstarts

theorem entrypoint?_withFirstEntry (nodeId : String) :
    (compiled.withFirstEntry warnings).entrypoint? nodeId =
      if nodeId = start then compiled.entrypoint? nodeId else none := by
  obtain ⟨first, rest, hentrypoints, hfirst, -⟩ := hstarts.entrypoints
  simp only [entrypoint?, withFirstEntry, hentrypoints, List.take_succ_cons,
    List.take_zero, List.find?_cons, List.find?_nil, hfirst]
  by_cases hnode : nodeId = start
  · simp [hnode]
  · have hother : (start == nodeId) = false := by simpa using Ne.symm hnode
    simp [hnode, hother]

/-- An activation starts alike, if it does not start elsewhere. -/
theorem entryOf_withFirstEntry {entry : Option String}
    (hentered : ∀ nodeId, entryOf compiled entry = .ok nodeId →
      nodeId = start) :
    entryOf (compiled.withFirstEntry warnings) entry =
      entryOf compiled entry := by
  have hstart : (compiled.withFirstEntry warnings).startNode =
      compiled.startNode :=
    rfl
  have hid : (compiled.withFirstEntry warnings).id = compiled.id := rfl
  simp only [entryOf, hstart, hid,
    hstarts.entrypoint?_withFirstEntry] at hentered ⊢
  cases hchosen : (entry.filter (· ≠ "")).or compiled.startNode with
  | none => rfl
  | some nodeId =>
    rw [hchosen] at hentered
    by_cases hnode : nodeId = start
    · simp [hnode]
    · have hnone : compiled.entrypoint? nodeId = none := by
        by_contra hsome
        exact hnode
          (hentered nodeId (if_pos (Option.isSome_iff_ne_none.mpr hsome)))
      simp [hnode, hnone]

theorem entryOf_start : entryOf compiled (some start) = .ok start := by
  obtain ⟨first, rest, hentrypoints, hfirst, -⟩ := hstarts.entrypoints
  have hchosen :
      ((some start).filter (· ≠ "")).or compiled.startNode = some start := by
    rw [hstarts.startNode, Option.filter_some]
    split <;> rfl
  have hfound : (compiled.entrypoint? start).isSome := by
    simp [entrypoint?, hentrypoints, hfirst]
  simp only [entryOf, hchosen, hfound, if_true]

/-- A firing finds the same entrypoints, if it finds none elsewhere. -/
theorem entrypointsFor_withFirstEntry {triggerType : String}
    (hentered : ∀ entry ∈ compiled.entrypointsFor triggerType,
      entry.nodeId = start) :
    (compiled.withFirstEntry warnings).entrypointsFor triggerType =
      compiled.entrypointsFor triggerType := by
  obtain ⟨first, rest, hentrypoints, -, hothers⟩ := hstarts.entrypoints
  have hrest : rest.filter (·.triggerType == triggerType) = [] := by
    rw [List.filter_eq_nil_iff]
    intro entry hmem htype
    refine hothers entry hmem (hentered entry ?_)
    rw [entrypointsFor, hentrypoints]
    exact List.mem_filter.mpr ⟨List.mem_cons_of_mem _ hmem, htype⟩
  simp [entrypointsFor, withFirstEntry, hentrypoints, List.filter_cons, hrest]

theorem entersAlike {event : Event}
    (hentered : ∀ nodeId ∈ event.entered compiled, nodeId = start) :
    event.EntersAlike ((compiled.withFirstEntry warnings).inPlaceOf
      compiled) := by
  cases event with
  | activate graph entry =>
    rw [Event.EntersAlike, inPlaceOf]
    split
    · next heq =>
      subst heq
      refine hstarts.entryOf_withFirstEntry warnings fun nodeId hentry =>
        hentered nodeId ?_
      simp [Event.entered, hentry, Except.toOption]
    · rfl
  | fire graph triggerType =>
    rw [Event.EntersAlike, inPlaceOf]
    split
    · next heq =>
      subst heq
      have hfound :
          ∀ entry ∈ graph.entrypointsFor triggerType, entry.nodeId = start := by
        simpa [Event.entered] using hentered
      refine ⟨hstarts.entrypointsFor_withFirstEntry warnings hfound,
        fun entry hmem => ?_⟩
      rw [inPlaceOf, if_pos rfl, hfound entry hmem]
      apply hstarts.entryOf_withFirstEntry
      intro nodeId hentry
      rw [hstarts.entryOf_start] at hentry
      exact (Except.ok.inj hentry).symm
    · next hne =>
      refine ⟨rfl, fun entry _ => ?_⟩
      rw [inPlaceOf, if_neg hne]
  | _ => trivial

/-- Sessions that start at the first entrypoint only are the same without the
others. -/
theorem session_withFirstEntry (limit : Nat) (supported : String)
    (context : Context) {events : List Event}
    (hentered : ∀ event ∈ events, ∀ nodeId ∈ event.entered compiled,
      nodeId = start) :
    session (events.map
      (Event.mapGraph ((compiled.withFirstEntry warnings).inPlaceOf compiled)))
        (initial limit supported context) =
      ((session events (initial limit supported context)).1.mapGraph
          ((compiled.withFirstEntry warnings).inPlaceOf compiled),
        (session events (initial limit supported context)).2) := by
  refine @session_mapGraph_of_entersAlike _
    (compiled.sameCourse_withFirstEntry warnings).inPlaceOf _ _
    (initial_orderly limit supported context)
      (initial_entersAlike limit supported context)
    (fun event hmem => hstarts.entersAlike warnings (hentered event hmem)) ?_
  intro activation _ nodeId _
  rw [inPlaceOf]
  split
  · next heq => rw [heq, withFirstEntry]
  · rfl

end CompiledGraph.StartsAt

/-! ## What is found in the modes -/

/-- The warning about triggers that are no entrypoints in single-entry mode. -/
def ambiguityText : String := "AMBIGUOUS_START:nodes"

theorem Finding.warningText_ambiguousStart (used : String)
    (ignored : List String) :
    (ambiguousStart used ignored).warningText = ambiguityText := by
  change "AMBIGUOUS_START" ++ ":" ++ "nodes" = "AMBIGUOUS_START:nodes"
  decide

/-- Nothing else is warned about in the same words. -/
theorem Finding.eq_ambiguousStart {finding : Finding}
    (htext : finding.warningText = ambiguityText) :
    ∃ used ignored, finding = .ambiguousStart used ignored := by
  unfold ambiguityText at htext
  cases finding with
  | ambiguousStart used ignored => exact ⟨used, ignored, rfl⟩
  | _ =>
    have hletters := congrArg String.toList htext
    simp [warningText, code, path, String.toList_append] at hletters

namespace Graph

theorem blocking_validate (graph : Graph) :
    (graph.validate true).filter Finding.isBlocking =
      (graph.validate false).filter Finding.isBlocking := by
  rw [filter_isBlocking_validate, filter_isBlocking_validate]

theorem any_blocking_validate (graph : Graph) :
    (graph.validate true).any Finding.isBlocking =
      (graph.validate false).any Finding.isBlocking := by
  have hany (findings : List Finding) : findings.any Finding.isBlocking =
      (findings.filter Finding.isBlocking).any Finding.isBlocking := by
    simp [List.any_filter]
  rw [hany, blocking_validate, ← hany]

/-- The number of triggers. -/
def triggerCount (graph : Graph) : Nat :=
  graph.nodes.countP (·.kind == .trigger)

theorem length_triggers (graph : Graph) :
    graph.triggers.length = graph.triggerCount := by
  rw [triggers, ← List.countP_eq_length_filter, graph.sortedIds_perm.countP_eq,
    List.countP_map]
  apply List.countP_congr
  intro node hmem
  simp [isTrigger, getNode?_of_mem hmem]

/-- Only single-entry mode finds that there are further triggers. -/
theorem ambiguousStart_mem_validate_iff {graph : Graph} {singleEntry : Bool}
    {used : String} {ignored : List String} :
    .ambiguousStart used ignored ∈ graph.validate singleEntry ↔
      singleEntry = true ∧ graph.triggers = used :: ignored ∧ ignored ≠ [] := by
  have hconnections : .ambiguousStart used ignored ∉ graph.connectionFindings :=
    fun hmem => by
      simpa [Finding.code] using code_of_mem_connectionFindings hmem
  have hbindings : .ambiguousStart used ignored ∉ graph.bindingFindings :=
    fun hmem => by
      simpa [Finding.code] using code_of_mem_bindingFindings hmem
  have hstart : .ambiguousStart used ignored ∈ graph.startFindings singleEntry ↔
      singleEntry = true ∧ graph.triggers = used :: ignored ∧ ignored ≠ [] := by
    rcases htriggers : graph.triggers with _ | ⟨first, _ | ⟨next, more⟩⟩
    · simp [startFindings, htriggers]
    · simp +contextual [startFindings, htriggers]
    · cases singleEntry with
      | false => simp [startFindings, htriggers]
      | true =>
        simp only [startFindings, htriggers, if_true, List.mem_singleton,
          Finding.ambiguousStart.injEq, true_and]
        grind
  simp [validate, hconnections, hbindings, hstart, reachFindings,
    actionFindings]

theorem ambiguityText_not_mem_warningTexts (graph : Graph) :
    ambiguityText ∉ warningTexts (graph.validate false) := by
  rw [warningTexts, List.mem_mergeSort]
  intro hmem
  obtain ⟨finding, hfinding, htext⟩ := List.mem_map.mp hmem
  obtain ⟨used, ignored, rfl⟩ := Finding.eq_ambiguousStart htext
  exact absurd (ambiguousStart_mem_validate_iff.mp hfinding).1 (by decide)

/-- Apart from that, the modes find the same. -/
theorem validate_perm {graph : Graph} {used next : String} {more : List String}
    (htriggers : graph.triggers = used :: next :: more) :
    (graph.validate true).Perm
      (.ambiguousStart used (next :: more) :: graph.validate false) := by
  have hsingle :
      graph.validate true = graph.connectionFindings ++ graph.bindingFindings ++
        .ambiguousStart used (next :: more) ::
          (graph.reachFindings ++ graph.actionFindings) := by
    simp [validate, startFindings, htriggers]
  have hmulti :
      graph.validate false = graph.connectionFindings ++
        graph.bindingFindings ++
          (graph.reachFindings ++ graph.actionFindings) := by
    simp [validate, startFindings, htriggers]
  rw [hsingle, hmulti]
  exact List.perm_middle

/-- Warnings in single-entry mode, given those in the other mode. -/
def singleEntryWarnings (graph : Graph)
    (warnings : List String) : List String :=
  if 2 ≤ graph.triggerCount then warnings.orderedInsert (· ≤ ·) ambiguityText
  else warnings

/-- Single-entry mode adds one warning, at its place in the order, if there are
further triggers. -/
theorem warningTexts_validate (graph : Graph) :
    warningTexts (graph.validate true) =
      graph.singleEntryWarnings (warningTexts (graph.validate false)) := by
  rw [singleEntryWarnings, ← length_triggers]
  rcases htriggers : graph.triggers with _ | ⟨used, _ | ⟨next, more⟩⟩
  · simp [validate, startFindings, htriggers]
  · simp [validate, startFindings, htriggers]
  · rw [if_pos (by simp)]
    have hadded := (validate_perm htriggers).map Finding.warningText
    rw [List.map_cons, Finding.warningText_ambiguousStart] at hadded
    refine mergeSort_eq_of_perm
      ((mergeSort_increasing _).orderedInsert ambiguityText _) ?_
    calc List.Perm ((graph.validate true).map Finding.warningText)
          (ambiguityText :: (graph.validate false).map Finding.warningText) :=
            hadded
      List.Perm _ (ambiguityText :: warningTexts (graph.validate false)) :=
        (List.mergeSort_perm _ _).symm.cons _
      List.Perm _ _ := (List.perm_orderedInsert _ _ _).symm

/-! ## What is compiled in the modes -/

theorem flatten_singleEntry (graph : Graph) (time : Timestamp)
    (version : String) (warnings narrowed : List String) :
    graph.flatten true ⟨time, version, narrowed⟩ =
      (graph.flatten false ⟨time, version, warnings⟩).withFirstEntry
        narrowed := by
  have hhead (entrypoints : List Entrypoint) : (entrypoints.take 1).head? =
      entrypoints.head? := by
        cases entrypoints <;> rfl
  simp only [flatten, entrypointsOf, CompiledGraph.withFirstEntry, if_true,
    Bool.false_eq_true, if_false, hhead]

theorem startsAt_flatten {graph : Graph} (htrigger : graph.HasTrigger)
    (metadata : Metadata) :
    ∃ start, (graph.canonicalForm.flatten false metadata).StartsAt start := by
  obtain ⟨first, hfirst, hstart⟩ :=
    graph.startNode_flatten htrigger false metadata
  obtain ⟨rest, hentrypoints⟩ := List.head?_eq_some_iff.mp hfirst
  have hincreasing := graph.entrypoints_increasing
  have hall : graph.canonicalNodes.filterMap entrypointOf? = first :: rest :=
    hentrypoints
  rw [hall, List.map_cons, List.pairwise_cons] at hincreasing
  refine ⟨first.nodeId, hstart, first, rest, hentrypoints, rfl,
    fun entry hmem heq => ?_⟩
  have hlt := hincreasing.1 entry.nodeId (List.mem_map_of_mem hmem)
  rw [heq] at hlt
  exact absurd hlt (String.lt_irrefl _)

/-- What compilation comes to, told by what blocks the graph. -/
theorem compile_eq_ite (graph : Graph) (version : String) (singleEntry : Bool)
    (time : Timestamp) :
    graph.compile version singleEntry time =
      if (graph.validate singleEntry).any Finding.isBlocking then
        .error (.invalid (graph.validate singleEntry))
      else
        match graph.canonicalize with
        | .error error => .error (.authoring error)
        | .ok _ =>
          if graph.isWritable then
            .ok (graph.canonicalForm.flatten singleEntry
              ⟨time, version, warningTexts (graph.validate singleEntry)⟩)
          else .error (.unwritable .tooDeep) := by
  rw [compile, ensureValid]
  cases (graph.validate singleEntry).any Finding.isBlocking with
  | true => rfl
  | false =>
    simp only [Bool.false_eq_true, if_false]
    cases hcanonical : graph.canonicalize with
    | error error => rfl
    | ok canonical =>
      rw [eq_of_canonicalize hcanonical]
      simp only [written, canonicalForm_isWritable]
      split <;> rfl

/-- Connections are refused for their ids only. -/
theorem duplicate_of_addConnections {connections : List Connection}
    {graph : Graph} {error : AuthoringError}
    (hadd : graph.addConnections connections = .error error) :
    ∃ connectionId, error = .duplicateConnectionId connectionId := by
  induction connections generalizing graph with
  | nil => cases hadd
  | cons connection rest ih =>
    rw [addConnections] at hadd
    split at hadd
    · exact ih hadd
    · next refused hrefused =>
      rw [addConnection] at hrefused
      split at hrefused
      · cases hrefused
        exact ⟨connection.id, (Except.error.inj hadd).symm⟩
      · cases hrefused

open Stage

/-- Both modes refuse the graph for what blocks it, or both compile it. -/
def RefusedOrCompiled (graph : Graph) (version : String)
    (time : Timestamp) : Prop :=
  (∃ findings narrowed,
    graph.compile version false time = .error (.invalid findings) ∧
    graph.compile version true time = .error (.invalid narrowed) ∧
    narrowed.filter Finding.isBlocking = findings.filter Finding.isBlocking) ∨
  ∃ compiled narrowed, graph.compile version false time = .ok compiled ∧
    graph.compile version true time = .ok narrowed

theorem not_refusedOrCompiled {graph : Graph} {version : String}
    {time : Timestamp} {error : CompileError}
    (hrefused : graph.compile version false time = .error error)
    (hother : ∀ findings, error ≠ .invalid findings) :
    ¬ graph.RefusedOrCompiled version time := by
  rintro (⟨findings, _, hinvalid, -⟩ | ⟨_, _, hcompiled, -⟩)
  · rw [hrefused] at hinvalid
    exact hother findings (Except.error.inj hinvalid)
  · rw [hrefused] at hcompiled
    cases hcompiled

/-- A trigger, and an action with a value of 256 levels. -/
def quarry : Graph :=
  ⟨"quarry", "", .standard,
    [⟨"rim", .origin, .trigger .initial, by decide⟩,
      ⟨"seam", .origin, .action ⟨"custom", "", Desk.nested 255⟩, by decide⟩],
    [], by decide, by decide⟩

end Graph

end StoryGraph
