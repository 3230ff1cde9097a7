import StoryGraph.Proofs.Graph.Mutation

/-!
# Mutations step by step

A mutation is carried out in steps: what is asked for is read and checked part
by part, ids are taken from the supply, and the graph is written to.  Nothing
that has been written is taken back when a later step refuses the mutation.  All
the same a refused mutation leaves the graph as it was, since every step that
refuses comes before the first that writes.

The steps are those of the methods of `EventGraph`, statement by statement.
-/

namespace StoryGraph

namespace Graph

/-! ## Nodes under their ids -/

/-- Keeps a node under its id: in the place of the node that has this id, or at
the end. -/
def put (graph : Graph) (node : Node) : Graph :=
  if hnew : node.id ∈ graph.nodes.map Node.id then
    graph.mapNodes (fun other => if other.id = node.id then node else other) (by
      intro other
      split
      · next hid => exact hid.symm
      · rfl)
  else graph.append node hnew

theorem nodup_others (graph : Graph) (nodeId : String) :
    ((graph.nodes.filter (·.id != nodeId)).map Node.id).Nodup :=
  (List.filter_sublist.map Node.id).nodup graph.distinct

/-- The graph without the node with an id. -/
def dropNode (graph : Graph) (nodeId : String) : Graph :=
  { graph with
    nodes := graph.nodes.filter (·.id != nodeId)
    distinct := graph.nodup_others nodeId }

def withConnections (graph : Graph) (connections : List Connection) : Graph :=
  { graph with connections := connections }

/-- An input port can be connected as long as nothing is bound to it. -/
def checkFree (graph : Graph) (target : PortRef) : Except AuthoringError Unit :=
  match graph.inputBinding? target.nodeId target.port with
  | some bound => .error (.portAlreadyBound target.nodeId target.port bound.id)
  | none => .ok ()

/-- Changes cannot have taken names. -/
def freeNames (changes : List (String × Value)) : Except Refusal Unit :=
  match changes.find? fun change => takenNames.contains change.1 with
  | some change => .error (.takenName change.1)
  | none => .ok ()

variable {graph : Graph} {node : Node} {nodeId : String}

theorem isSome_getNode?_iff :
    (graph.getNode? nodeId).isSome = true ↔
      nodeId ∈ graph.nodes.map Node.id := by
  rw [← Option.not_isNone, Bool.not_eq_true', ← Bool.not_eq_true,
    Option.isNone_iff_eq_none, getNode?_eq_none_iff]
  simp [List.mem_map]

theorem put_of_new (hnew : node.id ∉ graph.nodes.map Node.id) :
    graph.put node = graph.append node hnew := dif_neg hnew

/-- A change of the node with an id puts the changed node in its place. -/
theorem mapNodes_eq_put (hnode : graph.getNode? nodeId = some node)
    {change : Node → Node}
    (hid : ∀ other,
      (if other.id = nodeId then change other else other).id = other.id) :
    graph.mapNodes (fun other => if other.id = nodeId then change other
      else other) hid =
      graph.put (change node) := by
  obtain rfl : node.id = nodeId := id_of_getNode? hnode
  have hchange : (change node).id = node.id := by simpa using hid node
  have hmem : (change node).id ∈ graph.nodes.map Node.id := by
    rw [hchange]
    exact List.mem_map_of_mem (mem_of_getNode? hnode)
  rw [put, dif_pos hmem]
  simp only [mapNodes, Graph.mk.injEq, true_and, and_true]
  refine List.map_congr_left fun other hother => ?_
  rw [hchange]
  split
  · next hsame =>
    have hfound := getNode?_of_mem hother
    rw [hsame, hnode] at hfound
    cases hfound
    rfl
  · rfl

end Graph

/-- The properties of a node with some changes. -/
def Node.changedProperties (node : Node) (changes : List (String × Value)) :
    Except AuthoringError Properties :=
  (node.properties.update changes).mapError fun error =>
    .invalidProperties node.id <|
      match error with
      | .unknownKeys keys => .unknownKeys keys
      | .invalid issues => .invalid issues

/-! ## Procedures -/

/-- Steps that read a desk, write to it, or end with a refusal.  What has been
written before a refusal stays written. -/
abbrev Procedure (α : Type) := ExceptT Refusal (StateM Desk) α

namespace Procedure

variable {α β : Type} {desk : Desk}

/-- What some steps answer, and the desk that they leave. -/
def perform (steps : Procedure α) (desk : Desk) : Except Refusal α × Desk :=
  steps.run.run desk

/-- Goes on with what has been read, or ends with the refusal. -/
def demand : Except Refusal α → Procedure α
  | .ok answer => pure answer
  | .error refusal => throw refusal

/-- Goes on with what has been looked up, or ends with the error. -/
def report (result : Except AuthoringError α) : Procedure α :=
  demand (result.mapError .authoring)

/-- Ends with an error if something is the case. -/
def refuseWhen (wrong : Bool) (error : AuthoringError) : Procedure Unit :=
  if wrong then throw (.authoring error) else pure ()

/-- Takes the chosen id, or the next one. -/
def takeId (thing : String)
    (chosen : Option String) : Procedure FilledText := do
  let desk ← get
  let (id, supply) := desk.supply.orTake thing chosen
  set { desk with supply := supply }
  return id

def readGraph : Procedure Graph := do
  let desk ← get
  return desk.graph

def writeGraph (change : Graph → Graph) : Procedure Unit :=
  modify fun desk => { desk with graph := change desk.graph }

@[simp]
theorem perform_pure (answer : α) :
    perform (pure answer) desk = (.ok answer, desk) := rfl

@[simp]
theorem perform_bind (steps : Procedure α) (next : α → Procedure β) :
    perform (steps >>= next) desk =
      match perform steps desk with
      | (.ok answer, later) => perform (next answer) later
      | (.error refusal, later) => (.error refusal, later) := by
  have hrun : perform (steps >>= next) desk =
      match perform steps desk with
      | (outcome, later) => perform (ExceptT.bindCont next outcome) later := rfl
  rw [hrun]
  rcases perform steps desk with ⟨_ | _, later⟩ <;> rfl

@[simp]
theorem perform_map (transform : α → β) (steps : Procedure α) :
    perform (transform <$> steps) desk =
      ((perform steps desk).1.map transform, (perform steps desk).2) := by
  rw [map_eq_pure_bind, perform_bind]
  rcases perform steps desk with ⟨_ | _, later⟩ <;> rfl

@[simp]
theorem perform_demand (outcome : Except Refusal α) :
    perform (demand outcome) desk = (outcome, desk) := by
  cases outcome <;> rfl

@[simp]
theorem perform_report (result : Except AuthoringError α) :
    perform (report result) desk = (result.mapError .authoring, desk) :=
  perform_demand _

@[simp]
theorem perform_refuseWhen (wrong : Bool) (error : AuthoringError) :
    perform (refuseWhen wrong error) desk =
      (if wrong then .error (.authoring error) else .ok (), desk) := by
  cases wrong <;> rfl

@[simp]
theorem perform_takeId (thing : String) (chosen : Option String) :
    perform (takeId thing chosen) desk =
      (.ok (desk.supply.orTake thing chosen).1,
        ⟨desk.graph, (desk.supply.orTake thing chosen).2⟩) := rfl

@[simp]
theorem perform_readGraph :
    perform readGraph desk = (.ok desk.graph, desk) := rfl

@[simp]
theorem perform_writeGraph (change : Graph → Graph) :
    perform (writeGraph change) desk =
      (.ok (), ⟨change desk.graph, desk.supply⟩) :=
  rfl

/-! ## Operations in steps -/

def createNode (word position overrides : Value)
    (nodeId : Option String) : Procedure Node := do
  let graph ← readGraph
  let spec ← report (graph.registry.resolve word)
  let id ← takeId "node" nodeId
  refuseWhen (graph.getNode? id.val).isSome (.duplicateNodeId id.val)
  let properties ← demand (Graph.newProperties spec.kind id.val overrides)
  let place ← demand (Graph.newPosition position)
  let node := Node.ofId id place properties
  writeGraph (·.put node)
  return node

def addNode (node : Node) : Procedure Unit := do
  let graph ← readGraph
  refuseWhen (graph.registry.find? node.kind).isNone
    (.unknownNodeType node.kind.word)
  refuseWhen (graph.getNode? node.id).isSome (.duplicateNodeId node.id)
  writeGraph (·.put node)

/-- The node goes first, and then the connections, if there are any. -/
def deleteNode (nodeId : String) : Procedure (List Connection) := do
  let graph ← readGraph
  if (graph.getNode? nodeId).isNone then
    return []
  else
    writeGraph (·.dropNode nodeId)
    let rest ← readGraph
    let removed := rest.connections.filter (·.touches nodeId)
    if removed.isEmpty then
      return removed
    else
      let kept := rest.connections.filter fun connection =>
        !(removed.map Connection.id).contains connection.id
      writeGraph (·.withConnections kept)
      return removed

def moveNode (nodeId : String) (position : Value) : Procedure Node := do
  let graph ← readGraph
  let node ← report (graph.requireNode nodeId)
  let place ← demand (Graph.newPosition position)
  let moved := { node with position := place }
  writeGraph (·.put moved)
  return moved

def updateProperties (nodeId : String)
    (changes : List (String × Value)) : Procedure Node := do
  demand (Graph.freeNames changes)
  let graph ← readGraph
  let node ← report (graph.requireNode nodeId)
  let properties ← report (node.changedProperties changes)
  let updated := { node with properties := properties }
  writeGraph (·.put updated)
  return updated

def connect (source target : Value) : Procedure Connection := do
  let source ← demand (PortRef.ofValue source)
  let target ← demand (PortRef.ofValue target)
  let graph ← readGraph
  report (graph.checkPort source .output)
  report (graph.checkPort target .input)
  report (graph.checkFree target)
  let id ← takeId "conn" none
  let connection := Connection.ofId id source target
  writeGraph fun graph =>
    graph.withConnections (graph.connections ++ [connection])
  return connection

def addConnection (connection : Connection) : Procedure Unit := do
  let graph ← readGraph
  refuseWhen (graph.connections.any (·.id == connection.id))
    (.duplicateConnectionId connection.id)
  writeGraph fun graph =>
    graph.withConnections (graph.connections ++ [connection])

/-- Whether there was such a connection shows in how many are left. -/
def disconnect (connectionId : String) : Procedure Bool := do
  let graph ← readGraph
  let kept := graph.connections.filter (·.id != connectionId)
  writeGraph (·.withConnections kept)
  return kept.length != graph.connections.length

end Procedure

/-- A mutation in steps. -/
def Mutation.procedure : Mutation → Procedure Mutation.Result
  | .edit (.createNode word position overrides nodeId) =>
    .node <$> Procedure.createNode word position overrides nodeId
  | .edit (.addNode node) => (fun _ => .nothing) <$> Procedure.addNode node
  | .edit (.deleteNode nodeId) => .removed <$> Procedure.deleteNode nodeId
  | .edit (.moveNode nodeId position) =>
    .node <$> Procedure.moveNode nodeId position
  | .edit (.updateProperties nodeId changes) =>
    .node <$> Procedure.updateProperties nodeId changes
  | .edit (.connect source target) =>
    .connection <$> Procedure.connect source target
  | .edit (.disconnect connectionId) =>
    .found <$> Procedure.disconnect connectionId
  | .addConnection connection =>
    (fun _ => .nothing) <$> Procedure.addConnection connection

namespace Desk

/-- The desk after a mutation. -/
def after (desk : Desk) : Mutation → Desk
  | .edit edit => desk.edit edit
  | .addConnection connection =>
    desk.settle desk.supply ((desk.graph.addConnection connection).map (·, ()))

/-- What an operation answers, and the desk after it. -/
def conclude {α : Type} (desk : Desk) (supply : IdSupply)
    (result : Except Refusal (Graph × α)) : Except Refusal α × Desk :=
  (result.map Prod.snd, desk.settle supply result)

end Desk

/-! ## Operations as a whole -/

namespace Procedure

variable (desk : Desk)

theorem perform_createNode (word position overrides : Value)
    (nodeId : Option String) :
    perform (createNode word position overrides nodeId) desk =
      desk.conclude (desk.graph.createNode desk.supply word position
        overrides nodeId).2
        (desk.graph.createNode desk.supply word position overrides
          nodeId).1 := by
  simp only [createNode, perform_bind, perform_readGraph, perform_report,
    perform_takeId, perform_refuseWhen, perform_demand, perform_writeGraph,
    perform_pure, Graph.createNode]
  cases desk.graph.registry.resolve word with
  | error error => rfl
  | ok spec =>
    simp only [Except.mapError, Graph.createNamed]
    generalize desk.supply.orTake "node" nodeId = taken
    by_cases hused : taken.1.val ∈ desk.graph.nodes.map Node.id
    · rw [if_pos (Graph.isSome_getNode?_iff.mpr hused), dif_pos hused]
      rfl
    · rw [if_neg (Graph.isSome_getNode?_iff.not.mpr hused), dif_neg hused]
      cases Graph.newProperties spec.kind taken.1.val overrides with
      | error refusal => rfl
      | ok properties =>
        cases Graph.newPosition position with
        | error refusal => rfl
        | ok place =>
          have hput : desk.graph.put (Node.ofId taken.1 place properties) =
              desk.graph.append (Node.ofId taken.1 place properties) hused :=
            Graph.put_of_new hused
          simp only [Desk.conclude, Desk.settle, Except.map, hput]

theorem perform_addNode (node : Node) :
    perform (addNode node) desk =
      desk.conclude desk.supply
        (((desk.graph.addNode node).mapError .authoring).map (·, ())) := by
  simp only [addNode, perform_bind, perform_readGraph, perform_refuseWhen,
    perform_writeGraph, Graph.addNode]
  cases desk.graph.registry.find? node.kind with
  | none => rfl
  | some spec =>
    simp only [Option.isNone_some, Bool.false_eq_true, if_false]
    by_cases hused : node.id ∈ desk.graph.nodes.map Node.id
    · rw [if_pos (Graph.isSome_getNode?_iff.mpr hused), dif_pos hused]
      rfl
    · rw [if_neg (Graph.isSome_getNode?_iff.not.mpr hused), dif_neg hused]
      simp only [Graph.put_of_new hused]
      rfl

theorem perform_deleteNode (nodeId : String) :
    perform (deleteNode nodeId) desk =
      desk.conclude desk.supply (.ok (desk.graph.deleteNode nodeId)) := by
  simp only [deleteNode, perform_bind, perform_readGraph, Graph.deleteNode]
  cases desk.graph.getNode? nodeId with
  | none => rfl
  | some node =>
    simp only [Option.isNone_some, Bool.false_eq_true, if_false, perform_bind,
      perform_readGraph, perform_writeGraph, Graph.dropNode]
    split
    · next hnone =>
      -- Without a connection to remove, none is left out.
      simp [Desk.conclude, Desk.settle, Except.map, List.isEmpty_iff.mp hnone]
    · rfl

theorem perform_moveNode (nodeId : String) (position : Value) :
    perform (moveNode nodeId position) desk =
      desk.conclude desk.supply
        ((desk.graph.moveNode nodeId position).mapError .authoring) := by
  simp only [moveNode, perform_bind, perform_readGraph, perform_report,
    perform_demand, perform_writeGraph, perform_pure, Graph.moveNode,
    Graph.requireNode, Graph.newPosition]
  cases hnode : desk.graph.getNode? nodeId with
  | none => rfl
  | some node =>
    cases Position.ofValue position with
    | error fault => rfl
    | ok place =>
      simp only [Except.mapError, Desk.conclude, Desk.settle, Except.map,
        Graph.setPosition]
      rw [Graph.mapNodes_eq_put hnode]

theorem perform_updateProperties (nodeId : String)
    (changes : List (String × Value)) :
    perform (updateProperties nodeId changes) desk =
      desk.conclude desk.supply
        (desk.graph.updateProperties nodeId changes) := by
  simp only [updateProperties, perform_bind, perform_readGraph, perform_report,
    perform_demand, perform_writeGraph, perform_pure, Graph.updateProperties,
    Graph.freeNames]
  cases changes.find? fun change => Graph.takenNames.contains change.1 with
  | some change => rfl
  | none =>
    simp only [Graph.changeProperties, Graph.requireNode]
    cases hnode : desk.graph.getNode? nodeId with
    | none => rfl
    | some node =>
      obtain rfl : node.id = nodeId := Graph.id_of_getNode? hnode
      simp only [Node.changedProperties, Except.mapError]
      cases node.properties.update changes with
      | error error => cases error <;> rfl
      | ok properties =>
        simp only [Desk.conclude, Desk.settle, Except.map, Graph.setProperties]
        rw [Graph.mapNodes_eq_put hnode]

theorem perform_connect (source target : Value) :
    perform (connect source target) desk =
      desk.conclude (desk.graph.connect desk.supply source target).2
        (desk.graph.connect desk.supply source target).1 := by
  simp only [connect, perform_bind, perform_readGraph, perform_report,
    perform_demand, perform_takeId, perform_writeGraph, perform_pure,
    Graph.connect]
  cases PortRef.ofValue source with
  | error refusal => rfl
  | ok source =>
    cases PortRef.ofValue target with
    | error refusal => rfl
    | ok target =>
      simp only [Graph.connectPorts, Graph.checkFree]
      cases desk.graph.checkPort source .output with
      | error error => rfl
      | ok fits =>
        cases desk.graph.checkPort target .input with
        | error error => rfl
        | ok fits =>
          cases desk.graph.inputBinding? target.nodeId target.port <;> rfl

theorem perform_addConnection (connection : Connection) :
    perform (addConnection connection) desk =
      desk.conclude desk.supply
        (((desk.graph.addConnection connection).mapError .authoring).map
          (·, ())) := by
  simp only [addConnection, perform_bind, perform_readGraph, perform_refuseWhen,
    perform_writeGraph, Graph.addConnection]
  cases desk.graph.connections.any (·.id == connection.id) <;> rfl

theorem perform_disconnect (connectionId : String) :
    perform (disconnect connectionId) desk =
      desk.conclude desk.supply (.ok (desk.graph.disconnect connectionId)) := by
  have hfewer :
      ((desk.graph.connections.filter (·.id != connectionId)).length !=
        desk.graph.connections.length) =
          desk.graph.connections.any (·.id == connectionId) := by
    rw [Bool.eq_iff_iff, bne_iff_ne, ne_eq, List.length_filter_eq_length_iff]
    simp
  simp only [disconnect, perform_bind, perform_readGraph, perform_writeGraph,
    perform_pure, Graph.disconnect, hfewer]
  rfl

end Procedure

namespace Desk

variable (desk : Desk)

/-- A mutation in steps does what it does as a whole. -/
theorem perform_procedure (mutation : Mutation) :
    mutation.procedure.perform desk =
      (desk.answer mutation, desk.after mutation) := by
  cases mutation with
  | edit edit =>
    cases edit with
    | createNode word position overrides nodeId =>
      simp only [Mutation.procedure, Procedure.perform_map,
        Procedure.perform_createNode]
      cases hresult : desk.graph.createNode desk.supply word position
        overrides nodeId with
      | mk result supply =>
        cases result <;> simp [conclude, answer, after, edit, hresult] <;> rfl
    | addNode node =>
      simp only [Mutation.procedure, Procedure.perform_map,
        Procedure.perform_addNode]
      cases hresult : desk.graph.addNode node <;>
        simp [conclude, answer, after, edit, hresult, settle, Except.map,
          Except.mapError]
    | deleteNode nodeId =>
      simp only [Mutation.procedure, Procedure.perform_map,
        Procedure.perform_deleteNode]
      rfl
    | moveNode nodeId position =>
      simp only [Mutation.procedure, Procedure.perform_map,
        Procedure.perform_moveNode]
      cases hresult : desk.graph.moveNode nodeId position <;>
        simp [conclude, answer, after, edit, hresult, settle, Except.map,
          Except.mapError]
    | updateProperties nodeId changes =>
      simp only [Mutation.procedure, Procedure.perform_map,
        Procedure.perform_updateProperties]
      cases hresult : desk.graph.updateProperties nodeId changes <;>
        simp [conclude, answer, after, edit, hresult, settle, Except.map]
    | connect source target =>
      simp only [Mutation.procedure, Procedure.perform_map,
        Procedure.perform_connect]
      cases hresult : desk.graph.connect desk.supply source target with
      | mk result supply =>
        cases result <;> simp [conclude, answer, after, edit, hresult] <;> rfl
    | disconnect connectionId =>
      simp only [Mutation.procedure, Procedure.perform_map,
        Procedure.perform_disconnect]
      rfl
  | addConnection connection =>
    simp only [Mutation.procedure, Procedure.perform_map,
      Procedure.perform_addConnection]
    cases hresult : desk.graph.addConnection connection <;>
      simp [conclude, answer, after, hresult, settle, Except.map,
        Except.mapError]

end Desk

/-! ## Effects -/

/-- The graph differs in its nodes and connections at most, which are now the
given ones. -/
structure Graph.Becomes (graph : Graph) (nodes : List Node)
    (connections : List Connection) (later : Graph) : Prop where
  id : later.id = graph.id
  name : later.name = graph.name
  registry : later.registry = graph.registry
  nodes : later.nodes = nodes
  connections : later.connections = connections

/-- What an accepted mutation has done to the graph.  Where nodes or connections
are added they come last, and a changed node stands where it stood. -/
inductive Mutation.Effect (desk : Desk) :
    Mutation → Mutation.Result → Graph → Prop where
  | created {word position overrides : Value} {nodeId : Option String}
      {spec : NodeSpec} {node : Node} {later : Graph}
      (hspec : desk.graph.registry.resolve word = .ok spec)
      (hid : node.id = (desk.supply.orTake "node" nodeId).1.val)
      (hproperties : Graph.newProperties spec.kind node.id overrides =
        .ok node.properties)
      (hposition : Position.ofValue position = .ok node.position)
      (hnew : node.id ∉ desk.graph.nodes.map Node.id)
      (hbecomes : desk.graph.Becomes (desk.graph.nodes ++ [node])
        desk.graph.connections later) :
      Effect desk (.edit (.createNode word position overrides nodeId))
        (.node node) later
  | added {node : Node} {later : Graph}
      (hnew : node.id ∉ desk.graph.nodes.map Node.id)
      (hbecomes : desk.graph.Becomes (desk.graph.nodes ++ [node])
        desk.graph.connections later) :
      Effect desk (.edit (.addNode node)) .nothing later
  | moved {nodeId : String} {position : Value} {before after : List Node}
      {node : Node} {place : Position} {later : Graph}
      (hnodes : desk.graph.nodes = before ++ node :: after)
      (hid : node.id = nodeId)
      (hposition : Position.ofValue position = .ok place)
      (hbecomes : desk.graph.Becomes
        (before ++ { node with position := place } :: after)
        desk.graph.connections later) :
      Effect desk (.edit (.moveNode nodeId position))
        (.node { node with position := place }) later
  | updated {nodeId : String} {changes : List (String × Value)}
      {before after : List Node} {node : Node} {properties : Properties}
      {later : Graph} (hnodes : desk.graph.nodes = before ++ node :: after)
      (hid : node.id = nodeId)
      (hproperties : node.properties.update changes = .ok properties)
      (hbecomes : desk.graph.Becomes
        (before ++ { node with properties := properties } :: after)
        desk.graph.connections later) :
      Effect desk (.edit (.updateProperties nodeId changes))
        (.node { node with properties := properties }) later
  | connected {source target : Value} {connection : Connection} {later : Graph}
      (hid : connection.id = (desk.supply.take "conn").1.val)
      (hsource : PortRef.ofValue source = .ok connection.source)
      (htarget : PortRef.ofValue target = .ok connection.target)
      (hports : ∀ direction : Direction,
        desk.graph.HasPort direction (direction.endOf connection))
      (hfree : Graph.boundPort connection ∉
        desk.graph.connections.map Graph.boundPort)
      (hbecomes : desk.graph.Becomes desk.graph.nodes
        (desk.graph.connections ++ [connection]) later) :
      Effect desk (.edit (.connect source target))
        (.connection connection) later
  | joined {connection : Connection} {later : Graph}
      (hnew : connection.id ∉ desk.graph.connections.map Connection.id)
      (hbecomes : desk.graph.Becomes desk.graph.nodes
        (desk.graph.connections ++ [connection]) later) :
      Effect desk (.addConnection connection) .nothing later
  | deleted {nodeId : String} {removed : List Connection} {later : Graph}
      (hremoved : removed = if nodeId ∈ desk.graph.nodes.map Node.id then
        desk.graph.connections.filter (·.touches nodeId) else [])
      (hbecomes : desk.graph.Becomes (desk.graph.nodes.filter (·.id != nodeId))
        (desk.graph.connections.filter fun connection =>
          !(removed.map Connection.id).contains connection.id) later) :
      Effect desk (.edit (.deleteNode nodeId)) (.removed removed) later
  | disconnected {connectionId : String} {known : Bool} {later : Graph}
      (hknown : known = true ↔
        connectionId ∈ desk.graph.connections.map Connection.id)
      (hbecomes : desk.graph.Becomes desk.graph.nodes
        (desk.graph.connections.filter (·.id != connectionId)) later) :
      Effect desk (.edit (.disconnect connectionId)) (.found known) later

namespace Graph

variable {graph : Graph} {node : Node} {nodeId : String}

/-- A node that changes stands between the same nodes as before. -/
theorem exists_nodes_mapNodes (hnode : graph.getNode? nodeId = some node)
    (change : Node → Node)
    (hid : ∀ other,
      (if other.id = nodeId then change other else other).id = other.id) :
    ∃ before after, graph.nodes = before ++ node :: after ∧
      graph.Becomes (before ++ change node :: after) graph.connections
        (graph.mapNodes (fun other => if other.id = nodeId then change other
          else other) hid) := by
  obtain ⟨before, after, hnodes⟩ := List.append_of_mem (mem_of_getNode? hnode)
  have hdistinct : node.id ∉ (before ++ after).map Node.id := by
    have hmiddle :
        (graph.nodes.map Node.id).Perm
          (node.id :: (before ++ after).map Node.id) :=
      (List.Perm.of_eq hnodes |>.trans List.perm_middle).map Node.id
    exact (List.nodup_cons.mp (hmiddle.nodup_iff.mp graph.distinct)).1
  have hkept :
      ∀ others, others ⊆ before ++ after →
        others.map (fun other => if other.id = nodeId then change other
          else other) = others := by
    intro others hothers
    refine (List.map_congr_left fun other hother =>
      if_neg fun hsame => ?_).trans
      (List.map_id' others)
    rw [id_of_getNode? hnode, ← hsame] at hdistinct
    exact hdistinct (List.mem_map_of_mem (hothers hother))
  refine ⟨before, after, hnodes, rfl, rfl, rfl, ?_, rfl⟩
  simp only [mapNodes, hnodes, List.map_append, List.map_cons,
    if_pos (id_of_getNode? hnode)]
  rw [hkept before (List.subset_append_left _ _),
    hkept after (List.subset_append_right _ _)]

theorem effect_deleteNode (graph : Graph) (nodeId : String)
    (supply : IdSupply) :
    Mutation.Effect ⟨graph, supply⟩ (.edit (.deleteNode nodeId))
      (.removed (graph.deleteNode nodeId).2) (graph.deleteNode nodeId).1 := by
  by_cases hknown : nodeId ∈ graph.nodes.map Node.id
  · obtain ⟨node, hnode⟩ :=
      Option.isSome_iff_exists.mp (isSome_getNode?_iff.mpr hknown)
    rw [deleteNode, hnode]
    exact .deleted (by rw [if_pos hknown]) ⟨rfl, rfl, rfl, rfl, rfl⟩
  · have hothers : graph.nodes.filter (·.id != nodeId) = graph.nodes := by
      rw [List.filter_eq_self]
      exact fun node hmem => bne_iff_ne.mpr fun hsame =>
        hknown (hsame ▸ List.mem_map_of_mem hmem)
    rw [deleteNode_of_unknown hknown]
    exact .deleted (by rw [if_neg hknown])
      ⟨rfl, rfl, rfl, hothers.symm, by simp⟩

end Graph

namespace Desk

variable {desk : Desk} {mutation : Mutation} {result : Mutation.Result}

/-- An accepted mutation does what it is asked for and nothing else. -/
theorem effect_of_answer (hanswer : desk.answer mutation = .ok result) :
    mutation.Effect desk result (desk.after mutation).graph := by
  cases mutation with
  | edit edit =>
    cases edit with
    | createNode word position overrides nodeId =>
      obtain ⟨⟨later, node⟩, hcreate, rfl⟩ := accepted_map_iff.mp hanswer
      have hlater :
          desk.after (.edit (.createNode word position overrides nodeId)) =
            desk.settle _ (desk.graph.createNode desk.supply word position
              overrides nodeId).1 :=
        rfl
      obtain ⟨spec, hspec, hid, hproperties, hposition, hnew, rfl⟩ :=
        Graph.of_createNode hcreate
      rw [hlater, hcreate]
      exact .created hspec hid hproperties hposition hnew
        ⟨rfl, rfl, rfl, rfl, rfl⟩
    | addNode node =>
      obtain ⟨later, hadd, rfl⟩ := accepted_map_iff.mp hanswer
      rw [accepted_mapError_iff] at hadd
      obtain ⟨-, hnew, rfl⟩ := Graph.of_addNode hadd
      rw [after, Desk.edit, hadd]
      exact .added hnew ⟨rfl, rfl, rfl, rfl, rfl⟩
    | deleteNode nodeId =>
      obtain rfl : _ = result := Except.ok.inj hanswer
      exact desk.graph.effect_deleteNode nodeId desk.supply
    | moveNode nodeId position =>
      obtain ⟨⟨later, node⟩, hmove, rfl⟩ := accepted_map_iff.mp hanswer
      rw [accepted_mapError_iff] at hmove
      obtain ⟨found, place, hfound, hplace, rfl, rfl⟩ := Graph.of_moveNode hmove
      obtain ⟨before, after, hnodes, hbecomes⟩ :=
        Graph.exists_nodes_mapNodes hfound
          (fun other => { other with position := place })
          (fun other => by split <;> rfl)
      rw [Desk.after, Desk.edit, hmove]
      exact .moved hnodes (Graph.id_of_getNode? hfound) hplace hbecomes
    | updateProperties nodeId changes =>
      obtain ⟨⟨later, node⟩, hupdate, rfl⟩ := accepted_map_iff.mp hanswer
      obtain ⟨found, properties, hfound, hchanged, rfl, rfl⟩ :=
        Graph.of_updateProperties hupdate
      obtain ⟨before, after, hnodes, hbecomes⟩ :=
        Graph.exists_nodes_mapNodes hfound
          (fun other => { other with properties := properties })
          (fun other => by split <;> rfl)
      rw [Desk.after, Desk.edit, hupdate]
      exact .updated hnodes (Graph.id_of_getNode? hfound) hchanged hbecomes
    | connect source target =>
      obtain ⟨⟨later, connection⟩, hconnect, rfl⟩ := accepted_map_iff.mp hanswer
      have hlater : desk.after (.edit (.connect source target)) =
          desk.settle _ (desk.graph.connect desk.supply source target).1 := rfl
      obtain ⟨left, right, hsource, htarget, hports⟩ :=
        Graph.of_connect hconnect
      obtain ⟨hleft, hright, hfree, rfl, rfl, -⟩ := Graph.of_connectPorts hports
      have hends (direction : Direction) : desk.graph.HasPort direction
          (direction.endOf (Connection.ofId (desk.supply.take "conn").1
            left right)) := by
        cases direction with
        | output => exact hleft
        | input => exact hright
      rw [hlater, hconnect]
      exact .connected rfl hsource htarget hends
        (Graph.boundPort_not_mem_of_inputBinding? hfree)
        ⟨rfl, rfl, rfl, rfl, rfl⟩
    | disconnect connectionId =>
      obtain rfl : _ = result := Except.ok.inj hanswer
      exact .disconnected (by simp [Graph.disconnect]) ⟨rfl, rfl, rfl, rfl, rfl⟩
  | addConnection connection =>
    obtain ⟨later, hadd, rfl⟩ := accepted_map_iff.mp hanswer
    rw [accepted_mapError_iff] at hadd
    obtain ⟨hnew, rfl⟩ := Graph.of_addConnection hadd
    rw [Desk.after, hadd]
    exact .joined hnew ⟨rfl, rfl, rfl, rfl, rfl⟩

/-- Steps that come to a refusal have not written to the graph, if they come to
what the operation as a whole comes to. -/
theorem graph_of_refused {α β : Type} {steps : Procedure α} {transform : α → β}
    {supply : IdSupply} {outcome : Except Refusal (Graph × α)}
    {refusal : Refusal} {later : Desk}
    (hsteps : steps.perform desk = desk.conclude supply outcome)
    (hrefused : (transform <$> steps).perform desk = (.error refusal, later)) :
    later.graph = desk.graph := by
  rw [Procedure.perform_map, hsteps] at hrefused
  cases outcome with
  | error error =>
    cases hrefused
    rfl
  | ok accepted => cases hrefused

theorem graph_of_procedure_refused {refusal : Refusal} {later : Desk}
    (hrefused : mutation.procedure.perform desk = (.error refusal, later)) :
    later.graph = desk.graph := by
  cases mutation with
  | edit edit =>
    cases edit with
    | createNode =>
      exact graph_of_refused (Procedure.perform_createNode ..) hrefused
    | addNode => exact graph_of_refused (Procedure.perform_addNode ..) hrefused
    | deleteNode =>
      exact graph_of_refused (Procedure.perform_deleteNode ..) hrefused
    | moveNode =>
      exact graph_of_refused (Procedure.perform_moveNode ..) hrefused
    | updateProperties =>
      exact graph_of_refused (Procedure.perform_updateProperties ..) hrefused
    | connect => exact graph_of_refused (Procedure.perform_connect ..) hrefused
    | disconnect =>
      exact graph_of_refused (Procedure.perform_disconnect ..) hrefused
  | addConnection =>
    exact graph_of_refused (Procedure.perform_addConnection ..) hrefused

/-- A mutation that is carried out step by step answers what it does as a whole.
Whenever it is refused, the steps before have left the graph as it was; and when
it is accepted, it has added or changed just what it names, and has kept
everything else in order. -/
theorem procedure_atomic (desk : Desk) (mutation : Mutation) :
    mutation.procedure.perform desk =
      (desk.answer mutation, desk.after mutation) ∧
      match mutation.procedure.perform desk with
      | (.error _, later) => later.graph = desk.graph
      | (.ok result, later) => mutation.Effect desk result later.graph := by
  have hwhole := desk.perform_procedure mutation
  refine ⟨hwhole, ?_⟩
  split
  · next hrefused => exact graph_of_procedure_refused hrefused
  · next hperform =>
    rw [hwhole, Prod.mk.injEq] at hperform
    obtain ⟨hanswer, rfl⟩ := hperform
    exact effect_of_answer hanswer

end Desk

end StoryGraph
