import StoryGraph.Shape.Issue

/-!
# Checked results

A check either accepts with a typed result or rejects with all issues it found.
Checks of independent parts combine so that the issues of every part are
reported, in the order of the parts.
-/

namespace StoryGraph

inductive Checked (α : Type) where
  | accepted (result : α)
  | rejected (issues : List Issue)
  deriving DecidableEq

namespace Checked

variable {α β : Type}

def map (transform : α → β) : Checked α → Checked β
  | accepted result => accepted (transform result)
  | rejected issues => rejected issues

/-- Applies a checked function to a checked argument; the issues of both are
kept. -/
def apply : Checked (α → β) → Checked α → Checked β
  | accepted transform, accepted result => accepted (transform result)
  | accepted _, rejected issues => rejected issues
  | rejected issues, accepted _ => rejected issues
  | rejected issues, rejected more => rejected (issues ++ more)

instance : Applicative Checked where
  pure := accepted
  map := map
  seq transform argument := apply transform (argument ())

/-- A further check that only runs on an accepted result. -/
def andThen (checked : Checked α) (next : α → Checked β) : Checked β :=
  match checked with
  | accepted result => next result
  | rejected issues => rejected issues

/-- The same result for a part that is reached by one more step. -/
def under (step : Step) : Checked α → Checked α
  | accepted result => accepted result
  | rejected issues =>
    rejected (issues.map fun issue => ⟨issue.fault, step :: issue.place⟩)

/-- A rejection of the whole value for one fault. -/
def fail (fault : Fault) : Checked α := rejected [⟨fault, []⟩]

/-- All results, or the issues of all rejections. -/
def all : List (Checked α) → Checked (List α)
  | [] => accepted []
  | first :: rest => (map List.cons first).apply (all rest)

end Checked

end StoryGraph
