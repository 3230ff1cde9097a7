import StoryGraph.Proofs.Graph.Soundness

/-!
# Graphs that compile

Validation blocks a graph when an end of a connection names no port, when two
connections bind the same input port, or when no node is a trigger.  Compilation
also refuses connections that share an id and nodes that cannot be written.  So
the graphs that compile are exactly the sound ones which have a trigger and can
be written, and a refusal for another reason than writing lists the findings.
-/

namespace StoryGraph

namespace Graph

/-! ## What blocks a graph -/

theorem blocking_endFindings {graph : Graph} {connection : Connection}
    {direction : Direction} (position : Nat)
    (hport : ¬ graph.HasPort direction (direction.endOf connection)) :
    ∃ finding ∈ graph.endFindings position connection direction,
      finding.isBlocking = true := by
  simp only [endFindings]
  split
  · exact ⟨_, List.mem_singleton_self _, rfl⟩
  · next node hnode =>
    split
    · next hrange => exact absurd ⟨node, hnode, portInRange_iff.mp hrange⟩ hport
    · exact ⟨_, List.mem_singleton_self _, rfl⟩

theorem mem_validate_of_mem_endFindings {graph : Graph} {singleEntry : Bool}
    {position : Nat} {direction : Direction} {finding : Finding}
    (hposition : position < graph.connections.length)
    (hfinding : finding ∈ graph.endFindings position graph.connections[position]
      direction) : finding ∈ graph.validate singleEntry := by
  have hmem : finding ∈ graph.connectionFindings := by
    simp only [connectionFindings, List.mem_flatten, List.mem_mapIdx]
    refine ⟨_, ⟨position, hposition, rfl⟩, ?_⟩
    cases direction with
    | output => simp [hfinding]
    | input => simp [hfinding]
  simp [validate, hmem]

/-- A port that valid connections bind twice is found. -/
theorem duplicateBinding_mem_bindingFindings {graph : Graph}
    {port : String × Int} {first extra : Connection} {others : List Connection}
    (hgroup : graph.validConnections.filter (boundPort · == port) = first ::
      extra :: others) :
    .duplicateBinding (graph.positionOf extra.id) first.id extra.id
      extra.target.nodeId
      extra.target.port ∈ graph.bindingFindings := by
  have hfirst : first ∈
      graph.validConnections.filter (boundPort · == port) := by
    simp [hgroup]
  rw [List.mem_filter, beq_iff_eq] at hfirst
  have hport : port ∈ graph.validConnections.map boundPort :=
    List.mem_map.mpr ⟨first, hfirst⟩
  rw [bindingFindings, List.mem_flatMap]
  refine ⟨port, List.mem_eraseDups.mpr hport, ?_⟩
  rw [hgroup]
  exact List.mem_cons_self

/-! ## Accepted graphs -/

section Accepted

variable {graph : Graph} {singleEntry : Bool} {findings : List Finding}

/-- Nothing that validation finds in an accepted graph blocks it. -/
theorem not_blocking_of_ensureValid
    (hvalid : graph.ensureValid singleEntry = .ok findings) {finding : Finding}
    (hfinding : finding ∈ graph.validate singleEntry) :
    finding.isBlocking = false := by
  have hnone : (graph.validate singleEntry).any Finding.isBlocking = false := by
    rw [Bool.eq_false_iff]
    intro hblocking
    simp [ensureValid, hblocking] at hvalid
  exact Bool.eq_false_iff.mpr (List.any_eq_false.mp hnone finding hfinding)

/-- The connections of a graph that compiles join ports that exist. -/
theorem hasPort_of_ensureValid
    (hvalid : graph.ensureValid singleEntry = .ok findings)
    {connection : Connection} (hmem : connection ∈ graph.connections)
    (direction : Direction) :
    graph.HasPort direction (direction.endOf connection) := by
  apply Classical.byContradiction
  intro hport
  obtain ⟨position, hposition, rfl⟩ := List.getElem_of_mem hmem
  obtain ⟨finding, hfinding, hblocking⟩ := blocking_endFindings position hport
  have hvalidate :=
    @mem_validate_of_mem_endFindings graph singleEntry _ _ _ hposition hfinding
  rw [not_blocking_of_ensureValid hvalid hvalidate] at hblocking
  cases hblocking

/-- The connections of a graph that compiles bind no input port twice. -/
theorem single_of_ensureValid
    (hvalid : graph.ensureValid singleEntry = .ok findings) :
    (graph.connections.map boundPort).Nodup := by
  rw [← validConnections_eq_self fun connection hmem =>
    hasPort_of_ensureValid hvalid hmem, distinct_iff_length_filter_le_one]
  intro port
  match hgroup : graph.validConnections.filter (boundPort · == port) with
  | [] => simp
  | [_] => simp
  | first :: extra :: others =>
    have hfinding := duplicateBinding_mem_bindingFindings hgroup
    have hvalidate (finding : Finding)
      (hmem : finding ∈ graph.bindingFindings) :
        finding ∈ graph.validate singleEntry := by simp [validate, hmem]
    cases not_blocking_of_ensureValid hvalid (hvalidate _ hfinding)

theorem hasTrigger_of_ensureValid
    (hvalid : graph.ensureValid singleEntry = .ok findings) :
    graph.HasTrigger := by
  apply Classical.byContradiction
  intro hnone
  have hfinding : Finding.noStartNode ∈ graph.validate singleEntry := by
    simp [validate, startFindings, triggers_eq_nil_iff.mpr hnone]
  cases not_blocking_of_ensureValid hvalid hfinding

theorem eq_validate_of_ensureValid
    (hvalid : graph.ensureValid singleEntry = .ok findings) :
    findings = graph.validate singleEntry := by
  rw [ensureValid] at hvalid
  split at hvalid
  · cases hvalid
  · exact (Except.ok.inj hvalid).symm

theorem sound_of_ensureValid
    (hvalid : graph.ensureValid singleEntry = .ok findings)
    (hdistinct : (graph.connections.map Connection.id).Nodup) : graph.Sound :=
  ⟨fun _ hmem => hasPort_of_ensureValid hvalid hmem,
    single_of_ensureValid hvalid, hdistinct⟩

end Accepted

/-! ## Compilation -/

/-- Connections are only appended under ids of their own. -/
theorem distinct_of_addConnections {connections : List Connection}
    {graph later : Graph}
    (hdistinct : (graph.connections.map Connection.id).Nodup)
    (hadd : graph.addConnections connections = .ok later) :
    (later.connections.map Connection.id).Nodup := by
  induction connections generalizing graph with
  | nil =>
    cases hadd
    exact hdistinct
  | cons connection rest ih =>
    rw [addConnections] at hadd
    split at hadd
    · next next hnext =>
      obtain ⟨hnew, rfl⟩ := of_addConnection hnext
      exact ih (nodup_append_singleton hdistinct hnew) hadd
    · cases hadd

theorem distinct_of_canonicalize {graph canonical : Graph}
    (hcanonical : graph.canonicalize = .ok canonical) :
    (graph.connections.map Connection.id).Nodup := by
  have hshell : (graph.canonicalShell.connections.map Connection.id).Nodup :=
    List.nodup_nil
  have hdistinct := distinct_of_addConnections hshell hcanonical
  rw [eq_of_canonicalize hcanonical] at hdistinct
  exact ((graph.canonicalConnections_perm.map _).nodup_iff).mp hdistinct

/-- Which graphs compile, and to what. -/
theorem compile_eq_ok_iff {graph : Graph} {version : String}
    {singleEntry : Bool} {time : Timestamp} {compiled : CompiledGraph} :
    graph.compile version singleEntry time = .ok compiled ↔
      graph.Sound ∧ graph.HasTrigger ∧ graph.isWritable = true ∧
        compiled = graph.canonicalForm.flatten singleEntry
          ⟨time, version, warningTexts (graph.validate singleEntry)⟩ := by
  constructor
  · intro hcompile
    obtain ⟨findings, hvalid, rfl⟩ := compile_eq_ok hcompile
    rw [compile, hvalid] at hcompile
    simp only at hcompile
    split at hcompile
    · cases hcompile
    · next canonical hcanonical =>
      have hsound :=
        sound_of_ensureValid hvalid (distinct_of_canonicalize hcanonical)
      have htrigger := hasTrigger_of_ensureValid hvalid
      rw [eq_of_canonicalize hcanonical, written,
        canonicalForm_isWritable] at hcompile
      split at hcompile
      · next hwritable =>
        rw [eq_validate_of_ensureValid hvalid]
        exact ⟨hsound, htrigger, hwritable, rfl⟩
      · cases hcompile
  · rintro ⟨hsound, htrigger, hwritable, rfl⟩
    rw [hsound.compile_of_trigger htrigger, if_pos hwritable]

/-- A graph whose connections have ids of their own is refused for its findings
if it is not sound or has no trigger. -/
theorem compile_eq_invalid {graph : Graph}
    (hdistinct : (graph.connections.map Connection.id).Nodup)
    (hrefused : ¬ (graph.Sound ∧ graph.HasTrigger)) (version : String)
    (singleEntry : Bool) (time : Timestamp) :
    ∃ findings, graph.compile version singleEntry time =
      .error (.invalid findings) := by
  cases hvalid : graph.ensureValid singleEntry with
  | error findings => exact ⟨findings, by rw [compile, hvalid]⟩
  | ok findings =>
    exact absurd ⟨sound_of_ensureValid hvalid hdistinct,
      hasTrigger_of_ensureValid hvalid⟩
      hrefused

end Graph

end StoryGraph
