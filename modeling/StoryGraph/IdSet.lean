/-!
# Sets of ids

A finite set of texts, in the order in which they were inserted.  Its view is
membership.
-/

namespace StoryGraph

structure IdSet where
  ids : List String
  distinct : ids.Nodup
  deriving DecidableEq

namespace IdSet

def empty : IdSet := ⟨[], List.nodup_nil⟩

instance : Membership String IdSet := ⟨fun set id => id ∈ set.ids⟩

instance (id : String) (set : IdSet) : Decidable (id ∈ set) :=
  inferInstanceAs (Decidable (id ∈ set.ids))

theorem mem_def {id : String} {set : IdSet} : id ∈ set ↔ id ∈ set.ids := Iff.rfl

theorem not_mem_empty (id : String) : ¬ id ∈ empty := List.not_mem_nil

def insert (set : IdSet) (id : String) : IdSet :=
  if hmem : id ∈ set.ids then set
  else
    ⟨set.ids ++ [id], by
      rw [List.nodup_append]
      refine ⟨set.distinct, by simp, ?_⟩
      intro old hold new hnew
      rw [List.mem_singleton] at hnew
      rintro rfl
      exact hmem (hnew ▸ hold)⟩

theorem mem_insert {set : IdSet} {id other : String} :
    other ∈ set.insert id ↔ other = id ∨ other ∈ set := by
  unfold insert
  split
  · next hmem =>
    constructor
    · exact Or.inr
    · rintro (heq | hother)
      · exact heq ▸ hmem
      · exact hother
  · simp [mem_def, or_comm]

def erase (set : IdSet) (id : String) : IdSet :=
  ⟨set.ids.filter (· != id), set.distinct.sublist List.filter_sublist⟩

theorem mem_erase {set : IdSet} {id other : String} :
    other ∈ set.erase id ↔ other ∈ set ∧ other ≠ id := by
  simp [erase, mem_def]

/-- The set of the texts in a list. -/
def ofList (ids : List String) : IdSet := ids.foldl insert empty

/-- The ids in increasing order. -/
def sorted (set : IdSet) : List String := set.ids.mergeSort (· ≤ ·)

end IdSet

end StoryGraph
