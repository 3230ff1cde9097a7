import StoryGraph.Proofs.Graph.Compiled
import StoryGraph.Proofs.Graph.Reach

/-!
# What validation reads

Of a node, validation reads the id, the kind and whether the runtime knows its
action type, and it takes the nodes in the order of their ids.  So graphs with
the same nodes in this respect differ in their connections at most as far as
validation is concerned, and graphs with the same connections not at all.
-/

namespace StoryGraph

/-- What validation reads of a node. -/
def Node.reviewed (node : Node) : String × Kind × Option String :=
  (node.id, node.kind, node.properties.unknownAction?)

namespace Graph

/-- What validation reads of the nodes, in the order of their ids. -/
def review (graph : Graph) : List (String × Kind × Option String) :=
  graph.canonicalNodes.map Node.reviewed

theorem sortedIds_eq_map_review (graph : Graph) :
    graph.sortedIds = graph.review.map Prod.fst := by
  rw [review, List.map_map]
  exact graph.map_id_canonicalNodes.symm

theorem map_reviewed_getNode? (graph : Graph) (nodeId : String) :
    (graph.getNode? nodeId).map Node.reviewed =
      graph.review.find? (·.1 == nodeId) := by
  rw [← getNode?_canonicalForm, review, List.find?_map]
  rfl

theorem isTrigger_eq_any (graph : Graph) (nodeId : String) :
    graph.isTrigger nodeId =
      (graph.review.find? (·.1 == nodeId)).any (·.2.1 == .trigger) := by
  rw [← map_reviewed_getNode?, isTrigger]
  cases graph.getNode? nodeId <;> rfl

theorem unknownAction?_eq_bind (graph : Graph) (nodeId : String) :
    graph.unknownAction? nodeId =
      (graph.review.find? (·.1 == nodeId)).bind (·.2.2) := by
  rw [← map_reviewed_getNode?, unknownAction?]
  cases graph.getNode? nodeId with
  | none => rfl
  | some node =>
    cases hproperties : node.properties <;>
      simp [hproperties, Node.reviewed, Properties.unknownAction?]

theorem endIsValid_eq_any (graph : Graph) (direction : Direction)
    (connection : Connection) :
    graph.endIsValid direction connection =
      (graph.review.find? (·.1 == (direction.endOf connection).nodeId)).any
        fun seen =>
        portInRange (direction.endOf connection).port
          (direction.count graph.registry seen.2.1) := by
  rw [← map_reviewed_getNode?, endIsValid]
  cases graph.getNode? (direction.endOf connection).nodeId <;> rfl

/-! ## Graphs of which validation reads the same -/

section SameReview

variable {graph other : Graph}

theorem triggers_congr (hreview : other.review = graph.review) :
    other.triggers = graph.triggers := by
  have htrigger : other.isTrigger = graph.isTrigger := by
    funext nodeId
    rw [isTrigger_eq_any, isTrigger_eq_any, hreview]
  rw [triggers, triggers, htrigger, sortedIds_eq_map_review,
    sortedIds_eq_map_review, hreview]

theorem startFindings_congr (hreview : other.review = graph.review)
    (singleEntry : Bool) :
    other.startFindings singleEntry = graph.startFindings singleEntry := by
  rw [startFindings, startFindings, triggers_congr hreview]

theorem actionFindings_congr (hreview : other.review = graph.review) :
    other.actionFindings = graph.actionFindings := by
  have hunknown : other.unknownAction? = graph.unknownAction? := by
    funext nodeId
    rw [unknownAction?_eq_bind, unknownAction?_eq_bind, hreview]
  rw [actionFindings, actionFindings, hunknown, sortedIds_eq_map_review,
    sortedIds_eq_map_review, hreview]

/-- Which nodes cannot be reached depends on where valid connections lead, in no
matter what order. -/
theorem reachFindings_congr (hreview : other.review = graph.review)
    (hleads : other.LeadsTo = graph.LeadsTo) :
    other.reachFindings = graph.reachFindings := by
  have hcontains : other.reachable.contains = graph.reachable.contains := by
    funext nodeId
    rw [Bool.eq_iff_iff, List.contains_iff_mem, List.contains_iff_mem,
      mem_reachable_iff, mem_reachable_iff, triggers_congr hreview, PathTo,
      PathTo, hleads]
  rw [reachFindings, reachFindings, without, without, hcontains,
    sortedIds_eq_map_review, sortedIds_eq_map_review, hreview]

end SameReview

/-- The same connections in the same order between nodes of which validation
reads the same. -/
structure SameReview (other graph : Graph) : Prop where
  registry : other.registry = graph.registry
  review : other.review = graph.review
  connections : other.connections = graph.connections

namespace SameReview

variable {graph other : Graph}

theorem endFindings (hsame : other.SameReview graph) :
    other.endFindings = graph.endFindings := by
  funext position connection direction
  have hseen :
      (other.getNode? (direction.endOf connection).nodeId).map Node.reviewed =
        (graph.getNode? (direction.endOf connection).nodeId).map
          Node.reviewed := by
    rw [map_reviewed_getNode?, map_reviewed_getNode?, hsame.review]
  simp only [Graph.endFindings, hsame.registry]
  cases hother : other.getNode? (direction.endOf connection).nodeId with
  | none =>
    rw [hother] at hseen
    rw [Option.map_eq_none_iff.mp hseen.symm]
  | some node =>
    rw [hother] at hseen
    obtain ⟨counterpart, hgraph, hnode⟩ := Option.map_eq_some_iff.mp hseen.symm
    have hkind : counterpart.kind = node.kind := congrArg (·.2.1) hnode
    simp only [hgraph, hkind]

theorem selfLoopFindings (hsame : other.SameReview graph) :
    other.selfLoopFindings = graph.selfLoopFindings := by
  funext position connection
  have hknown : (other.getNode? connection.source.nodeId).isSome =
      (graph.getNode? connection.source.nodeId).isSome := by
    rw [← Option.isSome_map, map_reviewed_getNode?, hsame.review,
      ← map_reviewed_getNode?, Option.isSome_map]
  rw [Graph.selfLoopFindings, Graph.selfLoopFindings, hknown]

theorem validConnections (hsame : other.SameReview graph) :
    other.validConnections = graph.validConnections := by
  have hvalid : other.isValidConnection = graph.isValidConnection := by
    funext connection
    simp only [isValidConnection, endIsValid_eq_any, hsame.review,
      hsame.registry]
  rw [Graph.validConnections, Graph.validConnections, hvalid, hsame.connections]

theorem connectionFindings (hsame : other.SameReview graph) :
    other.connectionFindings = graph.connectionFindings := by
  rw [Graph.connectionFindings, Graph.connectionFindings, hsame.endFindings,
    hsame.selfLoopFindings, hsame.connections]

theorem bindingFindings (hsame : other.SameReview graph) :
    other.bindingFindings = graph.bindingFindings := by
  have hposition : other.positionOf = graph.positionOf := by
    funext connectionId
    rw [positionOf, positionOf, hsame.connections]
  have hgroup : other.groupFindings = graph.groupFindings := by
    funext group
    cases group with
    | nil => rfl
    | cons first extras => rw [groupFindings, groupFindings, hposition]
  rw [Graph.bindingFindings, Graph.bindingFindings, hsame.validConnections,
    hgroup]

theorem leadsTo (hsame : other.SameReview graph) :
    other.LeadsTo = graph.LeadsTo := by
  funext nodeId next
  rw [LeadsTo, LeadsTo, hsame.validConnections]

/-- Validation finds the same, in the same order. -/
theorem validate (hsame : other.SameReview graph) :
    other.validate = graph.validate := by
  funext singleEntry
  rw [Graph.validate, Graph.validate, hsame.connectionFindings,
    hsame.bindingFindings, startFindings_congr hsame.review,
    reachFindings_congr hsame.review hsame.leadsTo,
    actionFindings_congr hsame.review]

theorem ensureValid (hsame : other.SameReview graph) :
    other.ensureValid = graph.ensureValid := by
  funext singleEntry
  rw [Graph.ensureValid, Graph.ensureValid, hsame.validate]

end SameReview

end Graph

end StoryGraph
