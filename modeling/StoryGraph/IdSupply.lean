import StoryGraph.Node.Properties

/-!
# Supplies of ids

New things get ids that consist of what they are and of a number.  A supply
hands out each number once.

`_new_id` draws ids at random.  All that is used of them here is that they have
a prefix and that none is drawn twice.
-/

namespace StoryGraph

/-- A supply of new ids: texts with increasing numbers. -/
structure IdSupply where
  next : Nat
  deriving DecidableEq

namespace IdSupply

/-- A new id for a kind of thing, and the supply after it. -/
def take (supply : IdSupply) (thing : String) : FilledText × IdSupply :=
  (⟨thing ++ "_" ++ Layout.digitText supply.next, by
    intro hempty
    have hlength := congrArg String.length hempty
    simp at hlength⟩, ⟨supply.next + 1⟩)

/-- The given id, or a new one when none is given or it is empty. -/
def orTake (supply : IdSupply) (thing : String) :
    Option String → FilledText × IdSupply
  | some id =>
    if hempty : id = "" then supply.take thing else (⟨id, hempty⟩, supply)
  | none => supply.take thing

end IdSupply

end StoryGraph
