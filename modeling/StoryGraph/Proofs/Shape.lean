import StoryGraph.Proofs.Table
import StoryGraph.Shape.Record

/-!
# Checks of what was written

When every part of a value passes its check, the value passes as well: lists
give the list of results, pairs the pair, and objects the table.
-/

namespace StoryGraph

namespace Checked

variable {α : Type}

theorem all_map_accepted (results : List α) :
    all (results.map accepted) = accepted results := by
  induction results with
  | nil => rfl
  | cons result results ih => rw [List.map_cons, all, ih]; rfl

end Checked

namespace Check

variable {α β : Type}

/-- Items each of which passes. -/
theorem items_map {check : Check α} {values : List β} {written : β → Value}
    {result : β → α}
    (hitem : ∀ value ∈ values,
      check (written value) = .accepted (result value)) :
    items check (values.map written) = .accepted (values.map result) := by
  have hresults :
      ((values.map written).mapIdx fun position value =>
        (check value).under (.index position)) =
          (values.map result).map Checked.accepted := by
    apply List.ext_getElem
    · simp
    · intro position _ hposition
      rw [List.length_map, List.length_map] at hposition
      simp [hitem _ (List.getElem_mem hposition), Checked.under]
  rw [items, hresults, Checked.all_map_accepted]

/-- A list of items each of which passes. -/
theorem list_map {check : Check α} {items : List β} {written : β → Value}
    {result : β → α}
    (hitem : ∀ item ∈ items, check (written item) = .accepted (result item)) :
    list check (.list (items.map written)) = .accepted (items.map result) :=
  items_map hitem

/-- A list of items each of which passes, read as a tuple. -/
theorem tuple_map {check : Check α} {items : List β} {written : β → Value}
    {result : β → α}
    (hitem : ∀ item ∈ items, check (written item) = .accepted (result item)) :
    tuple check (.list (items.map written)) = .accepted (items.map result) :=
  items_map hitem

theorem tuple_texts (texts : List String) :
    tuple text (.list (texts.map Value.str)) = .accepted texts := by
  have hitems := @tuple_map _ _ text texts Value.str id fun _ _ => rfl
  rwa [List.map_id] at hitems

theorem pair_accepted {first : Check α} {second : Check β} {left right : Value}
    {result : α} {other : β} (hfirst : first left = .accepted result)
    (hsecond : second right = .accepted other) :
    pair first second (.list [left, right]) = .accepted (result, other) := by
  have hpair :
      pair first second (.list [left, right]) =
        .apply (.map Prod.mk ((first left).under (.index 0)))
          ((second right).under (.index 1)) :=
    rfl
  rw [hpair, hfirst, hsecond]
  rfl

/-- A list of named values, each as a pair. -/
theorem list_pairs {check : Check α} {written : α → Value}
    (hwritten : ∀ result, check (written result) = .accepted result)
    (entries : List (String × α)) :
    list (pair text check) (.list (entries.map fun entry =>
      .list [.str entry.1, written entry.2])) = .accepted entries := by
  have hlist := list_map fun (entry : String × α) (_ : entry ∈ entries) =>
    @pair_accepted _ _ text check (.str entry.1) (written entry.2)
      entry.1 entry.2 rfl (hwritten entry.2)
  rw [hlist, List.map_id']

/-- A table each value of which passes. -/
theorem table_map {check : Check α} {values : Table β} {written : β → Value}
    {result : β → α}
    (hvalue : ∀ entry ∈ values.entries,
      check (written entry.2) = .accepted (result entry.2)) :
    table check (.dict (values.map written).entries) =
      .accepted (values.map result) := by
  have hresults :
      ((values.map written).entries.map fun field =>
        (((check field.2).under (.key field.1)).map fun result =>
          (field.1, result))) =
            (values.map result).entries.map Checked.accepted := by
    rw [Table.entries_map, Table.entries_map, List.map_map, List.map_map]
    apply List.map_congr_left
    intro entry hmem
    rw [Function.comp_apply, Function.comp_apply, hvalue entry hmem]
    rfl
  rw [table, hresults, Checked.all_map_accepted]
  exact congrArg Checked.accepted (Table.ofList_entries _)

/-- Names with values that may be anything. -/
theorem table_any (fields : List (String × Value)) :
    table any (.dict fields) = .accepted (Table.ofList fields) := by
  have hresults :
      (fields.map fun field =>
        (((any field.2).under (.key field.1)).map fun result =>
          (field.1, result))) = fields.map Checked.accepted :=
    rfl
  rw [table, hresults, Checked.all_map_accepted]
  rfl

end Check

end StoryGraph
