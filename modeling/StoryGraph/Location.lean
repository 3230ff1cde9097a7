import StoryGraph.Number.Binary64

/-!
# Locations

Where something is: a position on the canvas, or a port of a node.  Ports are
numbered from zero, but a location that was read from a document may name any
integer and any node.

These are `Position` and `PortRef`.
-/

namespace StoryGraph

/-- A coordinate that may have been left out. -/
abbrev Coordinate := Option Binary64

/-- The number that a coordinate stands for; one that was left out is zero. -/
def Coordinate.number (coordinate : Coordinate) : Binary64 :=
  coordinate.getD (.signedZero false)

/-- Place on the canvas; it has no influence on how a graph runs. -/
structure Position where
  x : Coordinate
  y : Coordinate
  deriving DecidableEq

def Position.origin : Position := ⟨none, none⟩

/-- One end of a connection. -/
structure PortRef where
  nodeId : String
  port : Int
  named : nodeId ≠ ""

instance : DecidableEq PortRef := fun left right =>
  decidable_of_iff (left.nodeId = right.nodeId ∧ left.port = right.port)
    ⟨fun hparts => by cases left; cases right; simp_all,
      fun heq => heq ▸ ⟨rfl, rfl⟩⟩

end StoryGraph
