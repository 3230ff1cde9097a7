import StoryGraph.Node.Basic
import StoryGraph.Proofs.Node.Properties

/-!
# Nodes and connections that are written and checked again

A node that is written as documents hold it and checked again has its id, its
kind and its place, with zeros for the coordinates that were left out, and its
properties as documents hold them.  A connection is the same one again.
-/

namespace StoryGraph

theorem Kind.ofWord?_word (kind : Kind) : ofWord? kind.word = some kind := by
  cases kind <;> rfl

namespace Position

/-- The same place with zeros for the coordinates that were left out. -/
def settled (place : Position) : Position :=
  ⟨some place.x.number, some place.y.number⟩

theorem check_dump (place : Position) :
    check (.dict place.dump) = .accepted place.settled := rfl

end Position

theorem PortRef.check_dump (ref : PortRef) :
    check (.dict ref.dump) = .accepted ref := by
  have hread : read ref.dump =
      (fun nodeId port => ⟨nodeId.val, port, nodeId.property⟩)
        <$> (Check.filled (.str ref.nodeId)).under (.key "nodeId") <*>
        .accepted ref.port := rfl
  have hfilled := Check.filled_val ⟨ref.nodeId, ref.named⟩
  have hcheck : check (.dict ref.dump) =
      (read ref.dump <* noOthers known ref.dump) :=
    rfl
  have hothers : noOthers known ref.dump = .accepted () := rfl
  rw [hcheck, hread, hfilled, hothers]
  rfl

theorem Connection.check_dump (connection : Connection) :
    check (.dict connection.dump) = .accepted connection := by
  have hread : read connection.dump =
      ofId <$> (Check.filled (.str connection.id)).under (.key "id")
        <*> (PortRef.check (.dict connection.source.dump)).under (.key "from")
        <*> (PortRef.check (.dict connection.target.dump)).under (.key "to") :=
          rfl
  have hfilled := Check.filled_val ⟨connection.id, connection.named⟩
  have hothers : noOthers known connection.dump = .accepted () := rfl
  rw [check, Check.record, hread, hfilled, PortRef.check_dump,
    PortRef.check_dump, hothers]
  rfl

namespace Node

/-- The same node as it is read from a document. -/
def recorded (node : Node) : Node :=
  ⟨node.id, node.position.settled, node.properties.recorded, node.named⟩

theorem kind_recorded (node : Node) : node.recorded.kind = node.kind :=
  node.properties.kind_recorded

theorem dump_recorded {node : Node}
    (hplain : ∀ value ∈ node.properties.freeValues,
      value.toData.isPlainData = true) : node.recorded.dump = node.dump := by
  have hproperties : node.recorded.properties.dump = node.properties.dump :=
    Properties.dump_recorded hplain
  have hposition : node.recorded.position.dump = node.position.dump := rfl
  have hid : node.recorded.id = node.id := rfl
  rw [dump, dump, hid, hposition, kind_recorded, hproperties]

theorem check_dict_of_type {fields : List (String × Value)} {word : String}
    {kind : Kind} (htype : fields.lookup "type" = some (.str word))
    (hkind : Kind.ofWord? word = some kind) :
    check (.dict fields) =
      (Check.record known (read kind) (.dict fields)).under (.key word) := by
  rw [check, htype]
  simp only [hkind]

/-- What a written node is read as. -/
theorem check_dump (node : Node) :
    check (.dict node.dump) = .accepted node.recorded := by
  have htype : node.dump.lookup "type" = some (.str node.kind.word) := rfl
  have hread : read node.kind node.dump =
      ofId <$> (Check.filled (.str node.id)).under (.key "id")
        <*> (Position.check (.dict node.position.dump)).under (.key "position")
        <*> (Properties.check node.kind (.dict node.properties.dump)).under
          (.key "properties") :=
    rfl
  have hfilled := Check.filled_val ⟨node.id, node.named⟩
  have hproperties : Properties.check node.kind (.dict node.properties.dump) =
      .accepted node.properties.recorded :=
    node.properties.check_dump_eq_recorded
  have hothers : noOthers known node.dump = .accepted () := rfl
  rw [check_dict_of_type htype node.kind.ofWord?_word]
  simp only [Check.record]
  rw [hread, hfilled, Position.check_dump, hproperties, hothers]
  rfl

end Node

end StoryGraph
